import ImageOperator.Proofs.Session.Mirror
import ImageOperator.Proofs.Store.Replay

set_option autoImplicit false

/-!
The changes that the listener of a session is told of determine the store in use, over whole runs: replayed from
nothing they give its objects, in its order.
-/

namespace ImageOperator

namespace Workspace

open Attempt (calls_pure calls_read calls_fail calls_log)

theorem calls_moveJob (jobId : String) (state : JobState) (message : Option String) :
    (moveJob jobId state message).Calls Workspace.calls := by
  refine (calls_read _).bind fun workspace => ?_
  cases workspace.record? jobId with
  | none => exact calls_fail _ _
  | some record =>
    exact (calls_log _ _ _ _).bind fun _ => Attempt.Calls.bind (Attempt.calls_update fun _ => rfl) fun _ =>
      calls_pure _ _

theorem calls_completeJob (jobId : String) : (completeJob jobId).Calls Workspace.calls := by
  intro workspace
  obtain ⟨written, apart⟩ := calls_moveJob jobId .completed none workspace
  unfold completeJob
  rcases ran : moveJob jobId .completed none workspace with ⟨fault | record, after, notes⟩
  all_goals rw [ran] at written apart
  · rw [Attempt.bind_of_error ran]
    exact ⟨written, apart⟩
  · rw [Attempt.bind_of_ok ran]
    refine ⟨?_, ?_⟩
    · change (after.addImage record.request.imageName "").2.calls =
        workspace.calls ++ (notes ++ []).filterMap Note.made?
      rw [List.append_nil, ← written]
      rfl
    · change (notes ++ []).filter Note.isOfStore = []
      rw [List.append_nil, apart]

end Workspace

/-- Changing the finalizers of an image is only logged. -/
theorem notices_finalizers {listener : String} {change : Image → Value → Image × List Note}
    (logged : ∀ image name, notices listener (change image name).2 = []) (names : List Value) :
    ∀ image notes, notices listener notes = [] → notices listener (names.foldl (fun (image, notes) name =>
      let (image, more) := change image name
      (image, notes ++ more)) (image, notes)).2 = [] := by
  induction names with
  | nil => exact fun _ _ silent => silent
  | cons name rest ih =>
    intro image notes silent
    exact ih _ _ (by rw [notices_append, silent, logged, List.append_nil])

theorem Edit.notices_apply (listener : String) {edit : Edit} {image edited : Image} {notes : List Note}
    (applied : edit.apply image = .ok (edited, notes)) : notices listener notes = [] := by
  obtain ⟨status, -, applied⟩ := ok_of_bind applied
  have same := congrArg Prod.snd (Except.ok.inj applied)
  change _ = notes at same
  rw [← same]
  have taken (image : Image) (name : Value) : notices listener (image.withoutFinalizer name).2 = [] := by
    unfold Image.withoutFinalizer
    cases image.hasFinalizer name <;> rfl
  have put (image : Image) (name : Value) : notices listener (image.withFinalizer name).2 = [] := by
    unfold Image.withFinalizer
    cases image.hasFinalizer name <;> rfl
  exact notices_finalizers taken edit.removeFinalizers _ _ (notices_finalizers put edit.addFinalizers _ _ rfl)

namespace Session

open Attempt (Reports reports_aside reports_pure reports_fail reports_of reports_read reports_note reports_log)

variable {α : Type} {listener : String}

/-- Whether a listener hears of every change to the store in use. -/
def Hears (listener : String) (session : Session) : Prop :=
  session.store.Hears listener

/-- The objects of the store in use. -/
def stock (session : Session) : Catalog :=
  session.store.objects

/-- What is done to the store in use is reported to a listener that hears of everything. -/
abbrev Reported (listener : String) (attempt : Attempt Session α) : Prop :=
  Reports listener (Hears listener) stock attempt

theorem notices_shows (session : Session) (notes : List Note) :
    notices listener (notes.filter session.shows) = notices listener notes := by
  rw [← notices_filter_isOfStore, filter_shows_isOfStore, notices_filter_isOfStore]

/-- What leaves the store in use alone, and lets no store tell anything. -/
theorem reported_apart {attempt : Attempt Session α} (apart : attempt.Preserves store)
    (silent : ∀ session, notices listener (attempt session).notes = []) : Reported listener attempt := by
  refine reports_aside (fun session heard => ?_) (fun session => congrArg Depot.objects (apart session)) silent
  unfold Hears
  rw [apart session]
  exact heard

theorem reported_change {change : Session → Session} (apart : ∀ session, (change session).store = session.store) :
    Reported listener (Attempt.update change) :=
  reported_apart apart fun _ => rfl

theorem reported_emit {notes : List Note} (silent : notices listener notes = []) : Reported listener (emit notes) :=
  reported_apart (preserves_emit store notes) fun _ => (notices_shows _ _).trans silent

theorem reported_inStore {attempt : Attempt Depot α} (reported : Depot.Reported listener attempt) :
    Reported listener (inStore attempt) := by
  intro session heard
  obtain ⟨hearing, replayed, own⟩ := reported session.store heard
  have notes : notices listener (inStore attempt session).notes = notices listener (attempt session.store).notes :=
    notices_shows _ _
  simp only [Hears, stock, store_inStore, notes]
  exact ⟨hearing, replayed, own⟩

theorem reported_inWorkspace (name : String) {attempt : Attempt Workspace α} (calls : attempt.Calls Workspace.calls) :
    Reported listener (inWorkspace name attempt) :=
  reported_apart (preserves_inWorkspace store name attempt) fun session =>
    (notices_shows _ _).trans (notices_of_isOfStore (calls (session.workspace name)).2)

theorem reported_keep (name : Option String) (image : Image) (held : Option Held) :
    Reported listener (keep name image held) := by
  cases name with
  | none => exact reports_pure _
  | some name => cases held <;> exact reported_change fun _ => rfl

theorem reported_keptImage (name : String) : Reported listener (keptImage name) := by
  refine reports_read.bind fun session => ?_
  cases session.kept.lookup name with
  | none => exact reports_fail _
  | some held =>
    cases image : session.heldImage? held with
    | none => simpa only [image] using reports_fail _
    | some image => simpa only [image] using reports_pure _

theorem reported_takeSource (source : Source) (name : Option String) : Reported listener (takeSource source name) := by
  cases source with
  | document value =>
    exact (reports_of _).bind fun image => (reported_keep name image none).bind fun _ => reports_pure _
  | fields value =>
    exact (reports_of _).bind fun image => (reported_keep name image none).bind fun _ => reports_pure _
  | kept kept =>
    exact (reported_keptImage kept).bind fun found =>
      (reported_keep name found.2 (some found.1)).bind fun _ => reports_pure _

/-- A pass reports what handing its image over does. -/
theorem reported_reconcile (id : ObjectId) : Reported listener (reconcile id) := by
  intro session heard
  obtain ⟨name, handed, hands, -⟩ := reconcile_hands id session
  have notes : notices listener (reconcile id session).notes =
      notices listener (handOver handed session.store).notes := by
    rw [← notices_filter_isOfStore, hands.notes, notices_filter_isOfStore]
  have handing : Depot.Reported listener (handOver handed) := by
    cases handed with
    | none => exact reports_pure _
    | some image => exact Depot.reported_persist image
  obtain ⟨hearing, replayed, own⟩ := handing session.store heard
  simp only [Hears, stock, hands.store, notes]
  exact ⟨hearing, replayed, own⟩

theorem reported_onTree (steps : Tree → Except FileFault Unit × Tree) : Reported listener (onTree steps) := by
  have change (disk : Disk) : Reported listener
      (Attempt.update fun session : Session => { session with disk := some disk }) :=
    reports_aside (fun _ heard => heard) (fun _ => rfl) fun _ => rfl
  refine reports_read.bind fun session => ?_
  cases session.disk with
  | none => exact reports_fail _
  | some disk =>
    rcases taken : steps disk.tree with ⟨fault | done, tree⟩
    · simp only [taken]
      exact (change _).bind fun _ => reports_fail _
    · simp only [taken]
      exact change _

theorem reported_listen (change : String) {other : String} (apart : other ≠ listener) (handle : String)
    (reaction : Reaction) : Reported listener (listen change other handle reaction) := by
  unfold listen
  cases Change.ofText? change with
  | none => exact reports_fail _
  | some change =>
    refine reports_read.bind fun session => (reported_change fun _ => rfl).bind fun _ => reported_inStore ?_
    exact reports_aside (fun depot heard => Audience.Hears.register heard apart handle) (fun _ => rfl) fun _ => rfl

/-- Something that is not told may be done at any store, if it leaves the objects alone and the listener hearing. -/
theorem reported_inDepot {attempt : Attempt Depot α} (hearing : attempt.Maintains (Depot.Hears listener))
    (objects : attempt.Preserves Depot.objects) (silent : ∀ depot, notices listener (attempt depot).notes = [])
    (index : Nat) : Reported listener (inDepot index attempt) := by
  refine reports_aside (fun session heard => ?_) (fun session => ?_) fun session => (notices_shows _ _).trans (silent _)
  · by_cases own : index = session.current
    · subst own
      have store : (inDepot session.current attempt session).state.store = (attempt session.store).state :=
        depot_putDepot_self session _
      unfold Hears
      rw [store]
      exact hearing session.store heard
    · change Depot.Hears listener ((putDepot index _ session).depot session.current)
      rw [depot_putDepot_of_ne session _ own]
      exact heard
  · by_cases own : index = session.current
    · subst own
      exact (congrArg Depot.objects (depot_putDepot_self session _)).trans (objects session.store)
    · exact objects_putDepot_of_ne session _ own

theorem reported_unlisten (handle : String) : Reported listener (unlisten handle) := by
  refine reports_read.bind fun session => ?_
  cases session.handles.lookup handle with
  | none => exact reports_fail _
  | some index =>
    apply reported_inDepot
    · refine Attempt.maintains_update fun depot heard => ?_
      cases found : depot.audience.remover? handle with
      | none => exact heard
      | some remover => exact Audience.Hears.remove heard (List.mem_of_find?_eq_some found)
    · refine Attempt.preserves_update fun depot => ?_
      cases depot.audience.remover? handle <;> rfl
    · exact fun depot => rfl

theorem reported_editStored (id : ObjectId) (writes : Bool) (edit : Edit) :
    Reported listener (editStored id writes edit) := by
  refine (reported_inStore (Depot.reported_getObject id)).bind fun stored => ?_
  cases stored with
  | none => exact reports_pure _
  | some image =>
    refine Attempt.reports_given fun edited applied => (reported_emit (edit.notices_apply listener applied)).bind ?_
    intro _
    cases writes with
    | false => exact reports_pure _
    | true => exact (reported_inStore (Depot.reported_persist _)).bind fun _ => reports_pure _

theorem reported_callCloud (workspace : String) (command : CloudCommand) :
    Reported listener (callCloud workspace command) := by
  have changes (change : Workspace → Workspace) (same : ∀ workspace, (change workspace).calls = workspace.calls) :
      Reported listener (inWorkspace workspace (Attempt.update change)) :=
    reported_inWorkspace workspace (Attempt.calls_update same)
  cases command with
  | addImage name imageId =>
    refine Attempt.Reports.bind (reported_inWorkspace workspace fun state => ?_) fun _ => reports_pure _
    have calls : (state.addImage name imageId).2.calls = state.calls := by
      unfold Workspace.addImage
      split <;> rfl
    exact ⟨calls.trans (List.append_nil _).symm, rfl⟩
  | startJob jobId =>
    refine Attempt.Reports.bind (reported_inWorkspace workspace ?_) fun _ => reports_pure _
    exact (Workspace.calls_moveJob _ _ _).bind fun _ => Attempt.calls_pure _ _
  | completeJob jobId =>
    exact (reported_inWorkspace workspace (Workspace.calls_completeJob jobId)).bind fun _ => reports_pure _
  | failJob jobId message =>
    refine Attempt.Reports.bind (reported_inWorkspace workspace ?_) fun _ => reports_pure _
    exact (Workspace.calls_moveJob _ _ _).bind fun _ => Attempt.calls_pure _ _
  | getJob jobId =>
    exact Attempt.Reports.bind (reported_inWorkspace workspace fun state => ⟨(List.append_nil _).symm, rfl⟩) fun _ =>
      reports_pure _
  | deleteJob jobId =>
    exact (reported_inWorkspace workspace (Workspace.calls_deleteJob jobId)).bind fun _ => reports_pure _
  | listImages => exact (reported_inWorkspace workspace Workspace.calls_listImages).bind fun _ => reports_pure _
  | createJob request =>
    refine (reported_inWorkspace workspace (Attempt.calls_pure _ ())).bind fun _ => (reports_of _).bind fun asked => ?_
    exact (reported_inWorkspace workspace (Workspace.calls_createJob asked)).bind fun _ => reports_pure _
  | latestJob instanceId =>
    refine (reported_inWorkspace workspace (Workspace.calls_latestJob instanceId)).bind fun latest => ?_
    cases latest <;> exact reports_pure _
  | deleteImage imageId =>
    exact (reported_inWorkspace workspace (Workspace.calls_deleteImage imageId)).bind fun _ => reports_pure _
  | inject operation message kind =>
    refine (changes _ fun workspace => ?_).bind fun _ => reports_pure _
    unfold inject
    cases Operation.ofText? operation with
    | none => rfl
    | some known => cases kind <;> rfl
  | schedule due => exact (changes (·.schedule due) fun _ => rfl).bind fun _ => reports_pure _
  | clear => exact (changes Workspace.clearFailures fun _ => rfl).bind fun _ => reports_pure _

theorem reported_listStored (name : Option String) (index : Nat) : Reported listener (listStored name index) := by
  refine reports_read.bind fun session => ?_
  cases name with
  | none => exact reports_pure _
  | some name =>
    simp only [Option.isSome_some, ↓reduceIte]
    cases ((session.depot session.current).listObjects)[index]? with
    | none => exact reports_fail _
    | some image => exact (reported_keep _ _ _).bind fun _ => reports_pure _

/-- Commands of a run on one store: everything but taking up another one, working in scopes by hand, and registering
the listener once more. -/
def keepsStore (listener : String) : Session → Command → Bool
  | _, .listen _ other _ _ => other ≠ listener
  | _, .reopen | _, .open _ | _, .within _ _ _ | _, .scope _ _ => false
  | _, _ => true

/-- The step lemma: what a command does to the store in use is reported, whether or not the command fails. -/
theorem step_reported {session : Session} {command : Command} (permitted : keepsStore listener session command = true) :
    Reported listener (step command) := by
  have done (answer : Answer) : Reported listener (pure answer : Attempt Session Answer) := reports_pure answer
  cases command with
  | add source name =>
    exact (reported_takeSource source name).bind fun image =>
      (reported_inStore (Depot.reported_addObject image)).bind fun _ => done _
  | addWritten source name =>
    exact (reported_takeSource source name).bind fun image =>
      (reported_inStore (Depot.reported_addWritten image)).bind fun _ => done _
  | persist source name =>
    exact (reported_takeSource source name).bind fun image =>
      (reported_inStore (Depot.reported_persist image)).bind fun _ => done _
  | get id name =>
    refine (reported_inStore (Depot.reported_getObject id)).bind fun stored => ?_
    cases stored with
    | none => exact done _
    | some image => exact (reported_keep name image none).bind fun _ => done _
  | list name index => exact reported_listStored name index
  | kept name => exact (reported_keptImage name).bind fun _ => done _
  | changeKept name edit =>
    refine (reported_keptImage name).bind fun found => Attempt.reports_given fun edited applied => ?_
    refine (reported_emit (edit.notices_apply listener applied)).bind fun _ => ?_
    refine Attempt.Reports.bind (reported_change fun session => ?_) fun _ => done _
    unfold setHeld
    split
    · rfl
    · split <;> rfl
  | requestDeletion id =>
    exact reports_read.bind fun session =>
      (reported_inStore (Depot.reported_requestDeletion id _)).bind fun _ => done _
  | modify id writes edit => exact reported_editStored id writes edit
  | listen change other handle reaction =>
    exact (reported_listen change (of_decide_eq_true permitted) handle reaction).bind fun _ => done _
  | unlisten handle => exact (reported_unlisten handle).bind fun _ => done _
  | setNow now => exact Attempt.Reports.bind (reported_change fun _ => rfl) fun _ => done _
  | setRegistry registry => exact Attempt.Reports.bind (reported_change fun _ => rfl) fun _ => done _
  | writeFile | makeFolder | deleteFile | deleteRoot => exact (reported_onTree _).bind fun _ => done _
  | files =>
    refine reports_read.bind fun session => ?_
    cases session.files with
    | none => exact reports_fail _
    | some files => exact done _
  | pathFor id =>
    refine reports_read.bind fun session => ?_
    cases session.disk with
    | none => exact reports_fail _
    | some disk => exact (reports_of _).bind fun path => done _
  | load => exact (reported_inStore Depot.reported_load).bind fun _ => done _
  | cloud workspace command => exact reports_read.bind fun session => reported_callCloud _ command
  | reconcile id => exact (reported_reconcile id).bind fun _ => done _
  | state => exact reports_read.bind fun session => done _
  | reopen | «open» | within | scope => cases permitted

/-- All that a listener is told as a session is given commands. -/
def told (listener : String) (session : Session) : List Command → List Notice
  | [] => []
  | command :: rest =>
    notices listener (step command session).notes ++ told listener (step command session).state rest

/-- The run lemma: from any session in which the listener hears of everything. -/
theorem replay_told {session : Session} {commands : List Command} (heard : session.Hears listener)
    (permitted : permits (keepsStore listener) session commands = true) :
    session.stock.replay (session.told listener commands) = (session.after commands).stock ∧
      ∀ notice ∈ session.told listener commands, notice.id = notice.image.id := by
  induction commands generalizing session with
  | nil => exact ⟨rfl, fun _ none => absurd none List.not_mem_nil⟩
  | cons command rest ih =>
    obtain ⟨allowed, permitted⟩ := Bool.and_eq_true_iff.mp permitted
    obtain ⟨hearing, replayed, own⟩ := step_reported allowed session heard
    obtain ⟨later, thereafter⟩ := ih hearing permitted
    refine ⟨?_, fun notice among => ?_⟩
    · rw [told, Catalog.replay_append, replayed]
      exact later
    · rcases List.mem_append.mp among with now | then_told
      · exact own notice now
      · exact thereafter notice then_told

/-- What the listener that is there from the start is told, replayed from nothing, gives the objects of the store in
their order, whatever fails in a run and whatever other listeners do; and each image was told of under its own
identifier. -/
theorem notices_determine_store (settings : Settings) {commands : List Command}
    (permitted : permits (keepsStore "default") (start settings) commands = true) :
    let notices := (start settings).told "default" commands
    (Catalog.replay [] notices).images = ((start settings).after commands).store.listObjects ∧
      ∀ notice ∈ notices, notice.id = notice.image.id := by
  intro notices
  have heard : (start settings).Hears "default" := Audience.hears_standard
  obtain ⟨replayed, own⟩ := replay_told heard permitted
  exact ⟨congrArg Catalog.images replayed, own⟩

namespace Trial

/-- Two objects on a disk, a pass over one that fails, its deletion, and the pass that takes it away. -/
def emptied : List Command :=
  [write "m", write "n", failing .listImages, .reconcile (id "m"), .requestDeletion (id "m"), .reconcile (id "m")]

end Trial

theorem notices_determine_store_of_emptied :
    permits (keepsStore "default") (start Trial.filing) Trial.emptied = true ∧
      ((start Trial.filing).told "default" Trial.emptied).map (·.change) =
        [.added, .added, .persisted, .persisted, .removed] ∧
      (Catalog.replay [] ((start Trial.filing).told "default" Trial.emptied)).images =
        ((start Trial.filing).after Trial.emptied).store.listObjects ∧
      ∀ notice ∈ (start Trial.filing).told "default" Trial.emptied, notice.id = notice.image.id := by
  have permitted : permits (keepsStore "default") (start Trial.filing) Trial.emptied = true := rfl
  exact ⟨permitted, rfl, notices_determine_store Trial.filing permitted⟩

end Session

end ImageOperator
