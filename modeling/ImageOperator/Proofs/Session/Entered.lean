import ImageOperator.Proofs.Session.Mirror
import ImageOperator.Proofs.Session.Run
import ImageOperator.Proofs.Session.Stores
import ImageOperator.Proofs.Session.Trial
import ImageOperator.Proofs.Store.Refused
import ImageOperator.Proofs.Store.Tended

set_option autoImplicit false

/-!
Objects come into a store by being added. Copies of an object outlive it, in scopes and with whoever took one, but
none of them brings the object back: what is handed to a store that has lost the object is refused, and neither the
store nor its directory has anything of it afterwards.
-/

namespace ImageOperator

namespace Session

variable {α : Type} {session : Session}

/-- The store of a place has no object of a key. -/
def Lacks (index : Nat) (key : ObjectKey) (session : Session) : Prop :=
  (session.depot index).objects.get? key = none

/-- Objects that are missing stay so. -/
def Missing (place : Nat) (key : ObjectKey) (index : Nat) (objects : Catalog) : Prop :=
  index = place → objects.get? key = none

theorem missing_lasts (place : Nat) (key : ObjectKey) : Lasts (Missing place key) := by
  refine ⟨fun _ _ => rfl, fun {index objects after image result} persists missing own => ?_⟩
  have absent := missing own
  cases persists with
  | refused store => exact absent
  | @removed own known held leaving =>
    by_cases same : key = own
    · exact same ▸ Catalog.get?_erase_self objects own
    · exact (Catalog.get?_erase_of_ne objects same).trans absent
  | @written own known held staying =>
    by_cases same : key = own
    · rw [← same, absent] at held
      cases held
    · exact (Catalog.get?_put_of_ne objects image same).trans absent

theorem lacks_iff_each {index : Nat} {key : ObjectKey} : session.Lacks index key ↔ session.Each (Missing index key) :=
  ⟨fun lacks _ own => own ▸ lacks, fun each => each index rfl⟩

/-- The step lemma: a command that adds nothing brings no object in. -/
theorem step_lacks {index : Nat} {key : ObjectKey} {command : Command} (adding : command.adds = false)
    (lacks : session.Lacks index key) : (step command session).state.Lacks index key := by
  rw [lacks_iff_each] at lacks ⊢
  refine step_each (missing_lasts index key) command (fun adds => ?_) session lacks
  rw [adding] at adds
  cases adds

/-- An object that came in during a run was brought in by a command of the run that adds. -/
theorem Run.entered {permitted : Session → Command → Bool} {history : List (Session × Command)} {last : Session}
    (ran : Run permitted session history last) {index : Nat} {key : ObjectKey} (absent : session.Lacks index key)
    (present : ¬ last.Lacks index key) :
    ∃ before command, (before, command) ∈ history ∧ command.adds = true ∧ before.Lacks index key ∧
      ¬ (Session.step command before).state.Lacks index key := by
  induction ran with
  | rest => exact absurd absent present
  | @step history middle command ran allowed ih =>
    by_cases lacks : middle.Lacks index key
    · refine ⟨middle, command, List.mem_cons_self, ?_, lacks, present⟩
      cases adding : command.adds with
      | true => rfl
      | false => exact absurd (step_lacks adding lacks) present
    · obtain ⟨before, earlier, given, entered⟩ := ih lacks
      exact ⟨before, earlier, List.mem_cons_of_mem _ given, entered⟩

/-! ### Documents -/

/-- The store that a command of one write works on. -/
def target? (session : Session) : Command → Option Nat
  | .persist _ _ | .requestDeletion _ | .modify _ _ _ | .reconcile _ => some session.current
  | .scope name .close =>
    ((session.scopeNames.lookup name).bind (session.scopes[·]?)).map (·.depot)
  | _ => none

/-- The directory is tended for a store: whatever comes into it comes for an object that the store has. -/
def TendsStore (index : Nat) (session after : Session) : Prop :=
  Depot.Tended (session.depot index).objects session.disk after.disk

theorem tendsStore_of_same {index : Nat} {after : Session} (same : after.disk = session.disk) :
    session.TendsStore index after := by
  rw [TendsStore, same]
  exact Depot.tended_refl _ _

/-- What goes on after the last write leaves the directory alone. -/
theorem TendsStore.answered {index : Nat} {β : Type} {attempt : Attempt Session α} {answer : α → Attempt Session β}
    {before : Session} (tends : session.TendsStore index (attempt before).state)
    (answers : ∀ value, (answer value).Preserves disk) : session.TendsStore index ((attempt >>= answer) before).state := by
  rcases ran : attempt before with ⟨fault | value, after, notes⟩
  all_goals rw [ran] at tends
  · rw [Attempt.bind_of_error ran]
    exact tends
  · rw [Attempt.bind_of_ok ran, TendsStore, answers value after]
    exact tends

theorem tends_closeScope (scope : Scope) (session : Session) :
    session.TendsStore scope.depot (closeScope scope session).state := by
  unfold closeScope
  cases scope.closed with
  | true => exact tendsStore_of_same rfl
  | false =>
    cases sound : scope.image.status.isConsistent with
    | false =>
      simp only [sound, Bool.not_false, Bool.false_eq_true, ↓reduceIte]
      exact tendsStore_of_same rfl
    | true =>
      simp only [sound, Bool.not_true, Bool.false_eq_true, ↓reduceIte]
      refine TendsStore.answered ?_ fun _ => Attempt.preserves_pure _ _
      exact Depot.persist_tended scope.image (session.depot scope.depot)

theorem tends_handOver (handed : Option Image) (session : Session) {after : Session}
    (store : after.store = (handOver handed session.store).state) : session.TendsStore session.current after := by
  have disk : after.disk = (handOver handed session.store).state.disk := congrArg Depot.disk store
  rw [TendsStore, disk]
  cases handed with
  | none => exact Depot.tended_refl _ _
  | some image => exact Depot.persist_tended image session.store

theorem tends_persist (source : Source) (keep : Option String) (session : Session) :
    session.TendsStore session.current (step (.persist source keep) session).state := by
  unfold step
  have same := preserves_takeSource store source keep session
  rcases taken : takeSource source keep session with ⟨fault | image, before, notes⟩
  all_goals rw [taken] at same
  · rw [Attempt.bind_of_error taken]
    exact tendsStore_of_same (congrArg Depot.disk same)
  · rw [Attempt.bind_of_ok taken]
    refine TendsStore.answered ?_ fun _ => Attempt.preserves_pure _ _
    exact tends_handOver (some image) session (same ▸ store_inStore (Depot.persist image) before)

theorem tends_modify (id : ObjectId) (writes : Bool) (edit : Edit) (session : Session) :
    session.TendsStore session.current (step (.modify id writes edit) session).state := by
  have looking : (inStore (Depot.getObject id) session).state.store = session.store := preserves_getObject id session
  change session.TendsStore _ (editStored id writes edit session).state
  unfold editStored
  rcases looked : inStore (Depot.getObject id) session with ⟨fault | found, before, notes⟩
  all_goals rw [looked] at looking
  · rw [Attempt.bind_of_error looked]
    exact tendsStore_of_same (congrArg Depot.disk looking)
  · rw [Attempt.bind_of_ok looked]
    cases found with
    | none => exact tendsStore_of_same (congrArg Depot.disk looking)
    | some image =>
      cases applied : edit.apply image with
      | error fault =>
        dsimp only
        rw [applied]
        exact tendsStore_of_same (congrArg Depot.disk looking)
      | ok edited =>
        dsimp only
        rw [applied, Attempt.of_then rfl]
        cases writes with
        | false => exact tendsStore_of_same (congrArg Depot.disk looking)
        | true =>
          have told := preserves_emit store edited.2 before
          rcases telling : emit edited.2 before with ⟨fault | _, said, more⟩
          all_goals rw [telling] at told
          · cases telling
          · simp only [↓reduceIte]
            rw [Attempt.bind_of_ok telling]
            refine TendsStore.answered ?_ fun _ => Attempt.preserves_pure _ _
            exact tends_handOver (some edited.1) session
              ((told.trans looking) ▸ store_inStore (Depot.persist edited.1) said)

theorem step_tends {command : Command} {index : Nat} (target : session.target? command = some index) :
    session.TendsStore index (step command session).state := by
  cases command with
  | persist source keep =>
    cases target
    exact tends_persist source keep session
  | requestDeletion id =>
    cases target
    unfold step
    rw [Attempt.read_then]
    refine TendsStore.answered ?_ fun _ => Attempt.preserves_pure _ _
    exact Depot.requestDeletion_tended id session.now.iso session.store
  | modify id writes edit =>
    cases target
    exact tends_modify id writes edit session
  | reconcile id =>
    cases target
    obtain ⟨handed, store, -⟩ := reconcile_store id session
    exact TendsStore.answered (tends_handOver handed session store) fun _ => Attempt.preserves_pure _ _
  | scope name call =>
    cases call with
    | close =>
      obtain ⟨scope, found, rfl⟩ := Option.map_eq_some_iff.mp target
      obtain ⟨place, named, held⟩ := Option.bind_eq_some_iff.mp found
      unfold step
      rw [Attempt.read_then, named]
      change session.TendsStore _ ((closeAt place >>= fun _ => pure Answer.done) session).state
      refine TendsStore.answered ?_ fun _ => Attempt.preserves_pure _ _
      unfold closeAt
      rw [Attempt.bind_of_ok (scopeAt_of held)]
      refine TendsStore.answered (tends_closeScope scope session) fun closed => ?_
      exact Attempt.Preserves.bind (Attempt.preserves_update fun _ => rfl) fun _ => Attempt.preserves_of _ _
    | ensureImage | latestJob | deleteImage | deleteJob | closed | image | client | keepImage | isReady | imageId
    | phase | jobId | setReady | setImageId | setJobId | setPhase | addFinalizer | removeFinalizer | hasFinalizer =>
      cases target
  | add | addWritten | get | list | kept | changeKept | listen | unlisten | setNow | writeFile | makeFolder
  | deleteFile | deleteRoot | files | pathFor | load | reopen | cloud | «open» | within | setRegistry | state =>
    cases target

/-! ### Copies of objects that are gone -/

/-- Sessions that have the same stores, with all that those have, tell and keep on the disk, and the same events. -/
structure Untouched (session after : Session) : Prop where
  depots : ∀ index, after.depot index = session.depot index
  disk : after.disk = session.disk
  recorded : after.recorded = session.recorded

theorem Untouched.trans {middle after : Session} (first : session.Untouched middle) (second : middle.Untouched after) :
    session.Untouched after :=
  ⟨fun index => (second.depots index).trans (first.depots index), second.disk.trans first.disk,
    second.recorded.trans first.recorded⟩

/-- What comes of an image whose object is not in the store: a fault, and nothing else that is to be seen. -/
structure Refuses (session : Session) (id : ObjectId) (outcome : Outcome Session α) : Prop where
  result : outcome.result = .error (.objectAbsent id)
  untouched : session.Untouched outcome.state
  silent : ∀ note ∈ outcome.notes, note.isFired = false ∧ note.event? = none

theorem depot_putDepot_own (session : Session) (index other : Nat) :
    (putDepot index (session.depot index) session).depot other = session.depot other := by
  by_cases same : index = other
  · subst same
    rcases Nat.lt_or_ge index session.depots.length with there | outside
    · exact depot_putDepot there _
    · have kept : session.depots.set index (session.depot index) = session.depots :=
        List.set_eq_of_length_le outside
      simp only [Session.depot, putDepot] at kept ⊢
      rw [kept]
  · exact depot_putDepot_of_ne session _ same

theorem persist_refuses {image : Image} {key : ObjectKey} {index : Nat} (known : image.id.key? = some key)
    (lacks : session.Lacks index key) : Refuses session image.id (inDepot index (Depot.persist image) session) := by
  have refused := Depot.persist_of_absent known lacks
  simp only [inDepot, through, refused]
  refine ⟨rfl, ⟨fun other => depot_putDepot_own session index other, rfl, List.append_nil _⟩, fun note noted => ?_⟩
  obtain rfl := List.mem_singleton.mp (List.mem_filter.mp noted).1
  exact ⟨rfl, rfl⟩

theorem keep_of (name : Option String) (image : Image) (held : Option Held) (session : Session) :
    ∃ drafts kept, keep name image held session = ⟨.ok (), { session with drafts, kept }, []⟩ := by
  cases name with
  | none => exact ⟨session.drafts, session.kept, rfl⟩
  | some name => cases held <;> exact ⟨_, _, rfl⟩

theorem keptImage_of (name : String) (session : Session) :
    ∃ result, keptImage name session = ⟨result, session, []⟩ := by
  unfold keptImage
  rw [Attempt.read_then]
  cases session.kept.lookup name with
  | none => exact ⟨_, rfl⟩
  | some held =>
    dsimp only
    cases session.heldImage? held <;> exact ⟨_, rfl⟩

/-- Taking an image from where it comes from is at most to keep it. -/
theorem takeSource_of (source : Source) (name : Option String) (session : Session) :
    ∃ result drafts kept, takeSource source name session = ⟨result, { session with drafts, kept }, []⟩ := by
  have taken (image : Image) (held : Option Held) : ∃ result drafts kept,
      (keep name image held >>= fun _ => pure image) session = ⟨result, { session with drafts, kept }, []⟩ := by
    obtain ⟨drafts, kept, keeping⟩ := keep_of name image held session
    exact ⟨.ok image, drafts, kept, Attempt.bind_of_ok keeping _⟩
  have failed (fault : Fault) : ∃ result drafts kept,
      (Attempt.fail fault : Attempt Session Image) session = ⟨result, { session with drafts, kept }, []⟩ :=
    ⟨.error fault, session.drafts, session.kept, rfl⟩
  have read (read : Except Fault Image) : ∃ result drafts kept,
      (Attempt.of read >>= fun image => keep name image none >>= fun _ => pure image) session =
        ⟨result, { session with drafts, kept }, []⟩ := by
    cases read with
    | error fault => exact failed fault
    | ok image => exact taken image none
  cases source with
  | document value => exact read (Image.ofDocument value)
  | fields value => exact read (Image.ofFields value)
  | kept other =>
    unfold takeSource
    obtain ⟨result, looked⟩ := keptImage_of other session
    dsimp only
    cases result with
    | error fault =>
      rw [Attempt.bind_of_error looked]
      exact failed fault
    | ok held =>
      rw [Attempt.bind_of_ok looked]
      exact taken held.2 (some held.1)

theorem step_persist_refuses {source : Source} {keep : Option String} {image : Image} {key : ObjectKey}
    (taken : (takeSource source keep session).result = .ok image) (known : image.id.key? = some key)
    (lacks : session.Lacks session.current key) :
    Refuses session image.id (step (.persist source keep) session) := by
  obtain ⟨result, drafts, kept, taking⟩ := takeSource_of source keep session
  rw [taking] at taken
  obtain rfl : result = .ok image := taken
  obtain ⟨failed, untouched, silent⟩ := @persist_refuses { session with drafts, kept } _ _ session.current known lacks
  unfold step
  rw [Attempt.bind_of_ok taking]
  rcases ran : inDepot session.current (Depot.persist image) { session with drafts, kept } with ⟨result, after, notes⟩
  rw [ran] at failed untouched silent
  obtain rfl : result = .error (.objectAbsent image.id) := failed
  have persisted : inStore (Depot.persist image) { session with drafts, kept } =
      ⟨.error (.objectAbsent image.id), after, notes⟩ := ran
  have aside : session.Untouched { session with drafts, kept } := ⟨fun _ => rfl, rfl, rfl⟩
  rw [Attempt.bind_of_error persisted]
  exact ⟨rfl, aside.trans untouched, silent⟩

theorem step_close_refuses {name : String} {place : Nat} {scope : Scope} {key : ObjectKey}
    (named : session.scopeNames.lookup name = some place) (held : session.scopes[place]? = some scope)
    (unclosed : scope.closed = false) (consistent : scope.image.isConsistent = true)
    (known : scope.image.id.key? = some key) (lacks : session.Lacks scope.depot key) :
    Refuses session scope.image.id (step (.scope name .close) session) := by
  obtain ⟨failed, untouched, silent⟩ := persist_refuses known lacks
  rcases ran : inDepot scope.depot (Depot.persist scope.image) session with ⟨result, after, notes⟩
  rw [ran] at failed untouched silent
  obtain rfl : result = .error (.objectAbsent scope.image.id) := failed
  have sound : scope.image.status.isConsistent = true := consistent
  have tried : (inDepot scope.depot (Depot.persist scope.image)).tried session =
      ⟨.ok (.error (.objectAbsent scope.image.id)), after, notes⟩ := by
    simp only [Attempt.tried, ran]
  have closing : closeScope scope session =
      ⟨.ok (.error (.objectAbsent scope.image.id), { scope with closed := true }), after, notes⟩ := by
    unfold closeScope
    simp only [unclosed, sound, Bool.not_true, Bool.false_eq_true, ↓reduceIte]
    rw [Attempt.bind_of_ok tried, Attempt.pure_apply, List.append_nil]
  have closed : closeAt place session = ⟨.error (.objectAbsent scope.image.id),
      { after with scopes := after.scopes.set place { scope with closed := true } }, notes⟩ := by
    unfold closeAt
    rw [Attempt.bind_of_ok (scopeAt_of held), Attempt.bind_of_ok closing]
    change (⟨_, _, [] ++ (notes ++ [])⟩ : Outcome Session Unit) = _
    rw [List.append_nil, List.nil_append]
    rfl
  unfold step
  rw [Attempt.read_then, named]
  change Refuses session _ ((closeAt place >>= fun _ => pure Answer.done) session)
  rw [Attempt.bind_of_error closed]
  exact ⟨rfl, untouched.trans ⟨fun _ => rfl, rfl, rfl⟩, silent⟩

/-- Objects come into the stores of a session by being added, whatever copies of them are about. -/
structure EntersByAdding (session : Session) : Prop where
  /-- A command that adds nothing brings no object into any store. -/
  barred : ∀ command index key, command.adds = false → session.Lacks index key →
    (step command session).state.Lacks index key
  /-- An object that came in during a run was brought in by a command of the run that adds. -/
  entered : ∀ permitted history last index key, Run permitted session history last → session.Lacks index key →
    ¬ last.Lacks index key → ∃ before command, (before, command) ∈ history ∧ command.adds = true ∧
      before.Lacks index key ∧ ¬ (step command before).state.Lacks index key
  /-- What is handed to a store by a command makes no document but that of an object that the store has. -/
  documents : ∀ command index, session.target? command = some index →
    session.TendsStore index (step command session).state
  /-- A copy of an object that is gone is not persisted. -/
  persisted : ∀ source keep image key, (takeSource source keep session).result = .ok image →
    image.id.key? = some key → session.Lacks session.current key →
      Refuses session image.id (step (.persist source keep) session)
  /-- Nor is the copy of a scope, as it is closed first. -/
  closed : ∀ name place scope key, session.scopeNames.lookup name = some place →
    session.scopes[place]? = some scope → scope.closed = false → scope.image.isConsistent = true →
      scope.image.id.key? = some key → session.Lacks scope.depot key →
        Refuses session scope.image.id (step (.scope name .close) session)

theorem objects_enter_by_adding (session : Session) : session.EntersByAdding where
  barred _ _ _ adding lacks := step_lacks adding lacks
  entered _ _ _ _ _ ran absent present := ran.entered absent present
  documents _ _ target := step_tends target
  persisted _ _ _ _ taken known lacks := step_persist_refuses taken known lacks
  closed _ _ _ _ named held unclosed consistent known lacks :=
    step_close_refuses named held unclosed consistent known lacks

/-- An object with its document is taken out while a copy is kept and a scope is open on it. -/
def Trial.outlived : List Command :=
  [Trial.write "m", .get (Trial.id "m") (some "copy"),
    .open ⟨"early", .stored (Trial.id "m"), true, false, none, none⟩, .requestDeletion (Trial.id "m")]

/-- The copies are handed in, in vain, before the object is added again. -/
def Trial.insisting : List Command :=
  [.persist (.kept "copy") none, .scope "early" .close, Trial.write "m"]

/-- The session in which copies have outlived their object. -/
def Trial.bereft : Session :=
  (start Trial.filing).after Trial.outlived

theorem objects_enter_by_adding_of_outlived :
    Trial.bereft.Lacks 0 (Trial.key "m") ∧
      Refuses Trial.bereft (Trial.id "m") (step (.persist (.kept "copy") none) Trial.bereft) ∧
      Refuses Trial.bereft (Trial.id "m") (step (.scope "early" .close) Trial.bereft) ∧
      ¬ (Trial.bereft.after Trial.insisting).Lacks 0 (Trial.key "m") ∧
      ∃ before command, (before, command) ∈ Trial.bereft.past [] Trial.insisting ∧ command.adds = true ∧
        before.Lacks 0 (Trial.key "m") ∧ ¬ (step command before).state.Lacks 0 (Trial.key "m") := by
  have lacks : Trial.bereft.Lacks 0 (Trial.key "m") := rfl
  have back : ¬ (Trial.bereft.after Trial.insisting).Lacks 0 (Trial.key "m") := by
    unfold Lacks
    decide +kernel
  have copied : ∃ image, (takeSource (.kept "copy") none Trial.bereft).result = .ok image ∧
      image.id = Trial.id "m" := ⟨_, rfl, rfl⟩
  obtain ⟨image, taken, own⟩ := copied
  have opened : ∃ scope, Trial.bereft.scopes[0]? = some scope ∧ scope.closed = false ∧
      scope.image.isConsistent = true ∧ scope.image.id = Trial.id "m" ∧ scope.depot = 0 :=
    ⟨_, rfl, rfl, rfl, rfl, rfl⟩
  obtain ⟨scope, held, unclosed, consistent, scope_own, depot⟩ := opened
  obtain ⟨barred, entered, documents, persisted, closed⟩ := objects_enter_by_adding Trial.bereft
  have known : (Trial.id "m").key? = some (Trial.key "m") := rfl
  have current : Trial.bereft.current = 0 := rfl
  have named : Trial.bereft.scopeNames.lookup "early" = some 0 := rfl
  refine ⟨lacks, ?_, ?_, back, ?_⟩
  · rw [← current] at lacks
    rw [← own] at known ⊢
    exact persisted (.kept "copy") none image _ taken known lacks
  · rw [← depot] at lacks
    rw [← scope_own] at known ⊢
    exact closed "early" 0 scope _ named held unclosed consistent known lacks
  · exact entered (fun _ _ => true) _ _ 0 _ (Run.rest.after rfl) lacks back

end Session

end ImageOperator
