import ImageOperator.Proofs.Session.Mirror
import ImageOperator.Proofs.Session.Pages
import ImageOperator.Proofs.Store.InMemory

set_option autoImplicit false

/-!
The file store behaves as the memory store. A session whose directory was empty at first goes as the session that
keeps its objects in memory: step by step with the same results, the same objects and the same events.
-/

namespace ImageOperator

open Attempt (Alike)

/-- What is done to a store in memory where a store with documents is done something to: images are added without. -/
def Command.inMemory : Command → Command
  | .addWritten source keep => .add source keep
  | command => command

/-- Whether a disk takes the document of an image. -/
def Image.fitsDisk (image : Image) : Bool :=
  match image.space, image.name with
  | .text space, .text name => Depot.fitsPlace space name
  | _, _ => false

theorem Image.fitsIn_of_fitsDisk {image : Image} (fits : image.fitsDisk = true) :
    ∃ space name, Depot.FitsIn image.id space name := by
  unfold fitsDisk at fits
  split at fits
  · rename_i space name own named
    exact ⟨space, name, by simp only [id, own, named], Depot.fits_of_fitsPlace fits⟩
  · cases fits

namespace Session

variable {α β : Type}

/-- The session with its stores in memory only. -/
def unfiled (session : Session) : Session :=
  { session with
    depots := session.depots.map Depot.unfiled
    current_lt := by simpa using session.current_lt
    disk := none }

/-- Every store has room for the documents of its objects. -/
def Roomy (session : Session) : Prop :=
  ∀ index, (session.depot index).Roomy

/-- What comes to the same in a session and, as the second, in the session without documents. -/
def Agrees (first second : Attempt Session α) : Prop :=
  ∀ session, session.Roomy → Alike unfiled Roomy (first session) (second session.unfiled)

theorem Agrees.bind {first second : Attempt Session α} {next other : α → Attempt Session β}
    (agrees : Agrees first second) (later : ∀ value, Agrees (next value) (other value)) :
    Agrees (first >>= next) (second >>= other) :=
  fun session roomy => (agrees session roomy).bind fun value _ still => later value _ still

theorem Agrees.tried {first second : Attempt Session α} (agrees : Agrees first second) :
    Agrees first.tried second.tried :=
  fun session roomy => (agrees session roomy).tried

/-- Attempts to which it makes no difference whether there are documents. -/
def Blind (attempt : Attempt Session α) : Prop :=
  ∀ session, attempt session.unfiled =
    ⟨(attempt session).result, (attempt session).state.unfiled, (attempt session).notes⟩

theorem blind_pure (value : α) : Blind (pure value : Attempt Session α) :=
  fun _ => rfl

theorem blind_fail (fault : Fault) : Blind (Attempt.fail fault : Attempt Session α) :=
  fun _ => rfl

theorem blind_of (result : Except Fault α) : Blind (Attempt.of result : Attempt Session α) :=
  fun _ => rfl

theorem blind_update {change : Session → Session} (same : ∀ session, change session.unfiled = (change session).unfiled) :
    Blind (Attempt.update change) := by
  intro session
  simp only [Attempt.update, same]

theorem blind_read {next : Session → Attempt Session α} (same : ∀ session, next session.unfiled = next session)
    (blind : ∀ session, Blind (next session)) : Blind (Attempt.state >>= next) := by
  intro session
  rw [Attempt.read_then, Attempt.read_then, same]
  exact blind session session

theorem Blind.bind {first : Attempt Session α} {next : α → Attempt Session β} (blind : Blind first)
    (later : ∀ value, Blind (next value)) : Blind (first >>= next) := by
  intro session
  have same := blind session
  rcases ran : first session with ⟨fault | value, middle, notes⟩
  all_goals rw [ran] at same
  · rw [Attempt.bind_of_error ran, Attempt.bind_of_error same]
  · rw [Attempt.bind_of_ok ran, Attempt.bind_of_ok same, later value middle]

theorem blind_emit (notes : List Note) : Blind (emit notes) :=
  fun _ => rfl

theorem blind_inWorkspace (name : String) (attempt : Attempt Workspace α) : Blind (inWorkspace name attempt) :=
  fun _ => rfl

theorem blind_visit (scope : Scope) (attempt : Attempt Bench α) : Blind (visit scope attempt) :=
  fun _ => rfl

theorem blind_openScope (opening : Opening) : Blind (openScope opening) := by
  obtain ⟨hasStore, image, channel, debug⟩ := opening
  cases hasStore with
  | false => exact blind_fail _
  | true =>
    cases image with
    | none => exact blind_fail _
    | some image =>
      refine blind_read (fun _ => rfl) fun session => (blind_of _).bind fun options => ?_
      refine (blind_emit _).bind fun _ => (blind_emit _).bind fun _ => (blind_of _).bind fun workspace => ?_
      exact Blind.bind (blind_update fun _ => rfl) fun _ => blind_pure _

theorem blind_keep (name : Option String) (image : Image) (held : Option Held) : Blind (keep name image held) := by
  cases name with
  | none => exact blind_pure ()
  | some name => cases held <;> exact blind_update fun _ => rfl

theorem blind_keptImage (name : String) : Blind (keptImage name) := by
  refine blind_read (fun _ => rfl) fun session => ?_
  cases session.kept.lookup name with
  | none => exact blind_fail _
  | some held =>
    cases image : session.heldImage? held with
    | none => simpa only [image] using blind_fail _
    | some image => simpa only [image] using blind_pure _

theorem blind_takeSource (source : Source) (name : Option String) : Blind (takeSource source name) := by
  cases source with
  | document value | fields value =>
    exact (blind_of _).bind fun image => (blind_keep name image none).bind fun _ => blind_pure image
  | kept kept =>
    exact (blind_keptImage kept).bind fun held => (blind_keep name held.2 (some held.1)).bind fun _ =>
      blind_pure held.2

theorem blind_callCloud (workspace : String) (command : CloudCommand) : Blind (callCloud workspace command) := by
  have answered {β : Type} (attempt : Attempt Workspace β) (answer : β → Answer) :
      Blind (inWorkspace workspace attempt >>= fun value => pure (answer value)) :=
    (blind_inWorkspace workspace attempt).bind fun _ => blind_pure _
  cases command with
  | createJob request =>
    exact (blind_inWorkspace _ _).bind fun _ => (blind_of _).bind fun request => answered _ _
  | latestJob instanceId =>
    refine (blind_inWorkspace _ _).bind fun job => ?_
    cases job <;> exact blind_pure _
  | addImage | startJob | completeJob | failJob | getJob | deleteJob | listImages | deleteImage | inject | schedule
  | clear => exact answered _ _

section

variable {session : Session}

theorem depot_unfiled (session : Session) (index : Nat) : session.unfiled.depot index = (session.depot index).unfiled := by
  simp only [Session.depot, unfiled, List.getElem?_map]
  cases session.depots[index]? <;> rfl

theorem putDepot_unfiled (session : Session) (index : Nat) (depot : Depot) :
    putDepot index depot.unfiled session.unfiled = (putDepot index depot session).unfiled := by
  simp only [putDepot, unfiled, List.map_set]
  rfl

theorem Roomy.of_same {after : Session} (roomy : session.Roomy) (depots : after.depots = session.depots)
    (disk : after.disk = session.disk) : after.Roomy := by
  intro index
  rw [Session.depot, depots, disk]
  exact roomy index

theorem Roomy.putDepot (roomy : session.Roomy) {depot : Depot} (room : depot.Roomy) (index : Nat) :
    (putDepot index depot session).Roomy := by
  intro other
  refine ⟨room.disk, fun entry held => ?_⟩
  by_cases own : index = other
  · subst own
    by_cases inside : index < session.depots.length
    · have put : (session.depots.set index depot)[index]? = some depot := List.getElem?_set_self inside
      simp only [Session.putDepot, Session.depot, put, Option.getD_some] at held
      exact room.keys entry held
    · have unmoved : session.depots.set index depot = session.depots := List.set_eq_of_length_le (by omega)
      simp only [Session.putDepot, Session.depot, unmoved] at held
      exact (roomy index).keys entry held
  · rw [objects_putDepot_of_ne session depot own] at held
    exact (roomy other).keys entry held

end

/-- What is blind to documents comes to the same with and without them, if it leaves the stores and the disk alone. -/
theorem Blind.agrees {attempt : Attempt Session α} (blind : Blind attempt) (stores : attempt.Preserves depots)
    (files : attempt.Preserves disk) : Agrees attempt attempt := by
  intro session roomy
  rw [blind session]
  exact ⟨rfl, rfl, rfl, roomy.of_same (stores session) (files session)⟩

theorem agrees_update {change : Session → Session} (same : ∀ session, change session.unfiled = (change session).unfiled)
    (stores : ∀ session, (change session).depots = session.depots) (files : ∀ session, (change session).disk = session.disk) :
    Agrees (Attempt.update change) (Attempt.update change) :=
  (blind_update same).agrees (Attempt.preserves_update stores) (Attempt.preserves_update files)

theorem agrees_pure (value : α) : Agrees (pure value) (pure value) :=
  fun _ roomy => ⟨rfl, rfl, rfl, roomy⟩

theorem agrees_fail (fault : Fault) : Agrees (Attempt.fail fault : Attempt Session α) (Attempt.fail fault) :=
  fun _ roomy => ⟨rfl, rfl, rfl, roomy⟩

theorem agrees_of (result : Except Fault α) : Agrees (Attempt.of result) (Attempt.of result) :=
  fun _ roomy => ⟨rfl, rfl, rfl, roomy⟩

theorem agrees_read {next other : Session → Attempt Session α}
    (agrees : ∀ session, Agrees (next session) (other session.unfiled)) :
    Agrees (Attempt.state >>= next) (Attempt.state >>= other) := by
  intro session roomy
  rw [Attempt.read_then, Attempt.read_then]
  exact agrees session session roomy

theorem agrees_emit (notes : List Note) : Agrees (emit notes) (emit notes) :=
  (blind_emit notes).agrees (preserves_emit depots notes) (preserves_emit disk notes)

theorem agrees_keep (name : Option String) (image : Image) (held : Option Held) :
    Agrees (keep name image held) (keep name image held) :=
  (blind_keep name image held).agrees (preserves_keep depots name image held) (preserves_keep disk name image held)

theorem filterMap_event?_isShared (notes : List Note) :
    (notes.filter Note.isShared).filterMap Note.event? = notes.filterMap Note.event? :=
  Note.filterMap_filter (fun note other => by cases note <;> first | rfl | cases other) notes

/-- What agrees on a store agrees on the session. -/
theorem agrees_inDepot {first second : Attempt Depot α} (agrees : Depot.Agrees first second) (index : Nat) :
    Agrees (inDepot index first) (inDepot index second) := by
  intro session roomy
  obtain ⟨result, state, notes, room⟩ := agrees (session.depot index) (roomy index)
  have events : (second (session.depot index).unfiled).notes.filterMap Note.event? =
      (first (session.depot index)).notes.filterMap Note.event? := by
    rw [← filterMap_event?_isShared, notes, filterMap_event?_isShared]
  have swap (notes : List Note) :
      (notes.filter session.shows).filter Note.isShared = (notes.filter Note.isShared).filter session.shows := by
    rw [List.filter_filter, List.filter_filter]
    simp only [Bool.and_comm]
  simp only [inDepot, through, depot_unfiled]
  refine ⟨result, ?_, ?_, (roomy.putDepot room index).of_same rfl rfl⟩
  · rw [state, putDepot_unfiled]
    simp only [keepEvents, events, unfiled]
  · exact (swap _).trans ((congrArg (List.filter session.shows) notes).trans (swap _).symm)

theorem agrees_inStore {first second : Attempt Depot α} (agrees : Depot.Agrees first second) :
    Agrees (inStore first) (inStore second) :=
  agrees_read fun session => agrees_inDepot agrees session.current

theorem agrees_visit (scope : Scope) (attempt : Attempt Bench α) :
    Agrees (visit scope attempt) (visit scope attempt) :=
  (blind_visit scope attempt).agrees (preserves_visit depots scope attempt) (preserves_visit disk scope attempt)

theorem agrees_openScope (opening : Opening) : Agrees (openScope opening) (openScope opening) :=
  (blind_openScope opening).agrees (preserves_openScope depots opening) (preserves_openScope disk opening)

theorem agrees_closeScope (scope : Scope) : Agrees (closeScope scope) (closeScope scope) := by
  unfold closeScope
  split
  · exact agrees_pure _
  · dsimp only
    split
    · exact agrees_pure _
    · exact (agrees_inDepot (Depot.agrees_persist _) _).tried.bind fun _ => agrees_pure _

theorem agrees_workIn (config : Config) (scope : Scope) : Agrees (workIn config scope) (workIn config scope) := by
  refine (agrees_visit scope _).bind fun visited => (agrees_closeScope visited.2).bind fun closed => ?_
  cases closed.1 with
  | error fault => exact agrees_fail fault
  | ok => exact agrees_of _

theorem agrees_reconcile (id : ObjectId) : Agrees (reconcile id) (reconcile id) := by
  refine (agrees_inStore (Depot.agrees_getObject id)).bind fun stored => ?_
  cases stored with
  | none => exact (agrees_emit _).bind fun _ => agrees_pure _
  | some image =>
    refine (agrees_emit _).bind fun _ => agrees_read fun session => ?_
    exact (agrees_openScope _).bind fun scope => agrees_workIn session.config scope

theorem agrees_listen (change listener handle : String) (reaction : Reaction) :
    Agrees (listen change listener handle reaction) (listen change listener handle reaction) := by
  unfold listen
  cases Change.ofText? change with
  | none => exact agrees_fail _
  | some change =>
    refine agrees_read fun session => ?_
    refine Agrees.bind (agrees_update (fun _ => rfl) (fun _ => rfl) fun _ => rfl) fun _ => ?_
    exact agrees_inStore (Depot.agrees_update (fun _ => rfl) (fun _ => rfl) fun _ => rfl)

theorem agrees_unlisten (handle : String) : Agrees (unlisten handle) (unlisten handle) := by
  refine agrees_read fun session => ?_
  have same : session.unfiled.handles = session.handles := rfl
  rw [same]
  cases session.handles.lookup handle with
  | none => exact agrees_fail _
  | some index =>
    refine agrees_inDepot (Depot.agrees_update (fun depot => ?_) (fun depot => ?_) fun depot => ?_) index
    · cases depot.audience.remover? handle <;> rfl
    · cases depot.audience.remover? handle <;> rfl
    · dsimp only [Depot.unfiled]
      cases depot.audience.remover? handle <;> rfl

theorem blind_listStored (name : Option String) (index : Nat) : Blind (listStored name index) := by
  refine blind_read (fun session => ?_) fun session => ?_
  · rw [depot_unfiled]
    rfl
  · cases name with
    | none => exact blind_pure _
    | some name =>
      cases listed : (session.depot session.current).listObjects[index]? with
      | none =>
        simp only [Option.isSome_some, ↓reduceIte, listed]
        exact (blind_fail _).bind fun _ => blind_pure _
      | some image =>
        simp only [Option.isSome_some, ↓reduceIte, listed]
        exact (blind_keep _ image none).bind fun _ => blind_pure _

theorem setHeld_unfiled (session : Session) (image : Image) (held : Held) :
    session.unfiled.setHeld image held = (session.setHeld image held).unfiled := by
  cases held with
  | draft index => rfl
  | scope index =>
    have same : session.unfiled.scopes = session.scopes := rfl
    cases there : session.scopes[index]? with
    | none => simp only [setHeld, same, there]
    | some scope =>
      simp only [setHeld, same, there]
      rfl

theorem blind_changeKept (name : String) (edit : Edit) : Blind (step (.changeKept name edit)) :=
  (blind_keptImage name).bind fun _ => (blind_of _).bind fun _ => (blind_emit _).bind fun _ =>
    (blind_update fun session => setHeld_unfiled session _ _).bind fun _ => blind_pure _

/-- The commands that a store in memory and a store with documents have in common, with the clouds and the registry
doing what they like. Only images whose documents the disk takes are added. -/
def addsFitting (session : Session) : Command → Bool
  | .addWritten source keep => (takeSource source keep session).result.toOption.all Image.fitsDisk
  | .persist _ _ | .requestDeletion _ | .reconcile _ | .cloud _ _ | .setRegistry _ | .setNow _ | .get _ _ | .list _ _
  | .kept _ | .changeKept _ _ | .listen _ _ _ _ | .unlisten _ => true
  | .add _ _ | .modify _ _ _ | .writeFile _ _ | .makeFolder _ | .deleteFile _ | .deleteRoot | .files | .pathFor _ | .load
  | .reopen | .open _ | .within _ _ _ | .scope _ _ | .state => false

theorem agrees_takeSource (source : Source) (name : Option String) :
    Agrees (takeSource source name) (takeSource source name) :=
  (blind_takeSource source name).agrees (preserves_takeSource depots source name) (preserves_takeSource disk source name)

/-- The step lemma: a command comes to the same with documents as without. -/
theorem step_alike {session : Session} {command : Command} (permitted : addsFitting session command = true)
    (roomy : session.Roomy) :
    Alike unfiled Roomy (step command session) (step command.inMemory session.unfiled) := by
  have done (answer : Answer) : Agrees (pure answer) (pure answer) := agrees_pure answer
  have aside {other : Command} (own : isAside other = true) (blind : Blind (step other)) :
      Alike unfiled Roomy (step other session) (step other session.unfiled) :=
    blind.agrees (step_aside depots own) (step_aside disk own) session roomy
  cases command with
  | addWritten source keep =>
    refine (agrees_takeSource source keep session roomy).bind fun image taken still => ?_
    obtain ⟨space, name, fits⟩ : ∃ space name, Depot.FitsIn image.id space name := by
      apply Image.fitsIn_of_fitsDisk
      simpa only [addsFitting, taken, Except.toOption, Option.all_some] using permitted
    exact ((agrees_inStore (Depot.agrees_addWritten fits)).bind fun _ => done _) _ still
  | persist source keep =>
    exact ((agrees_takeSource source keep).bind fun image =>
      (agrees_inStore (Depot.agrees_persist image)).bind fun _ => done _) session roomy
  | requestDeletion id =>
    exact (agrees_read fun before =>
      (agrees_inStore (Depot.agrees_requestDeletion id before.now.iso)).bind fun _ => done _) session roomy
  | reconcile id => exact ((agrees_reconcile id).bind fun _ => done _) session roomy
  | get id keep =>
    refine ((agrees_inStore (Depot.agrees_getObject id)).bind fun stored => ?_) session roomy
    cases stored with
    | none => exact done _
    | some image => exact (agrees_keep keep image none).bind fun _ => done _
  | list keep index => exact aside rfl (blind_listStored keep index)
  | kept name => exact aside rfl ((blind_keptImage name).bind fun _ => blind_pure _)
  | setNow now => exact aside rfl (Blind.bind (blind_update fun _ => rfl) fun _ => blind_pure _)
  | setRegistry registry => exact aside rfl (Blind.bind (blind_update fun _ => rfl) fun _ => blind_pure _)
  | cloud place command => exact aside rfl (blind_read (fun _ => rfl) fun _ => blind_callCloud _ command)
  | changeKept name edit =>
    exact (blind_changeKept name edit).agrees (step_changeKept depots (fun _ _ => rfl) name edit)
      (step_changeKept disk (fun _ _ => rfl) name edit) session roomy
  | listen change listener handle reaction =>
    exact ((agrees_listen change listener handle reaction).bind fun _ => done _) session roomy
  | unlisten handle => exact ((agrees_unlisten handle).bind fun _ => done _) session roomy
  | add | modify | writeFile | makeFolder | deleteFile | deleteRoot | files | pathFor | load | reopen | «open» | within
  | scope | state => cases permitted

/-- What is seen of a command: what it comes to, what is told of it but for the log about documents, and what is in the
store after it. -/
structure Seen where
  result : Except Fault Answer
  notes : List Note
  objects : Catalog

def seen (session : Session) (command : Command) : Seen :=
  let outcome := step command session
  ⟨outcome.result, outcome.notes.filter Note.isShared, outcome.state.store.objects⟩

/-- What is seen of commands that are given one after the other. -/
def watch (session : Session) : List Command → List Seen
  | [] => []
  | command :: rest => session.seen command :: watch (step command session).state rest

theorem seen_inMemory {session : Session} {command : Command} (permitted : addsFitting session command = true)
    (roomy : session.Roomy) : session.unfiled.seen command.inMemory = session.seen command := by
  obtain ⟨result, state, notes, -⟩ := step_alike permitted roomy
  have objects : (step command.inMemory session.unfiled).state.store.objects =
      (step command session).state.store.objects := by
    rw [state, store, depot_unfiled]
    rfl
  simp only [seen, result, notes, objects]

/-- The run lemma. -/
theorem watch_inMemory {session : Session} {commands : List Command} (roomy : session.Roomy)
    (permitted : permits addsFitting session commands = true) :
    session.unfiled.watch (commands.map Command.inMemory) = session.watch commands := by
  induction commands generalizing session with
  | nil => rfl
  | cons command rest ih =>
    simp only [permits, Bool.and_eq_true] at permitted
    have alike := step_alike permitted.1 roomy
    have later := ih alike.sound permitted.2
    rw [← alike.state] at later
    simp only [List.map_cons, watch, seen_inMemory permitted.1 roomy, later]

theorem start_roomy {settings : Settings} {disk : Disk} (kept : settings.disk = some disk)
    (root : ∀ text, disk.tree.node? [Path.rootName] ≠ some (.file text))
    (vacant : ∀ folder rest, disk.tree.node? (Path.rootName :: folder :: rest) = none) : (start settings).Roomy := by
  intro index
  have filed : ((start settings).depot index).disk = some disk := kept
  have blank : ((start settings).depot index).objects = [] := by
    rcases index with _ | index <;> rfl
  refine ⟨⟨disk, filed, root, fun space text held => ?_, fun space name held => ?_⟩, fun entry held => ?_⟩
  · rw [vacant] at held
    cases held
  · rw [vacant] at held
    cases held
  · rw [blank] at held
    cases held

/-- A store that keeps documents in a directory that was empty at first goes as a store in memory does, for all that is
seen of it: whatever is added, written back, deleted, looked up and worked on, with the same faults at the same steps. -/
theorem files_as_memory {settings : Settings} {disk : Disk} {commands : List Command}
    (kept : settings.disk = some disk) (root : ∀ text, disk.tree.node? [Path.rootName] ≠ some (.file text))
    (vacant : ∀ folder rest, disk.tree.node? (Path.rootName :: folder :: rest) = none)
    (permitted : permits addsFitting (start settings) commands = true) :
    (start { settings with disk := none }).watch (commands.map Command.inMemory) = (start settings).watch commands :=
  watch_inMemory (start_roomy kept root vacant) permitted

theorem files_as_memory_tended : permits addsFitting (start Trial.filing) Trial.tended = true ∧
    (start Trial.settings).watch (Trial.tended.map Command.inMemory) = (start Trial.filing).watch Trial.tended := by
  have permitted : permits addsFitting (start Trial.filing) Trial.tended = true := rfl
  have kept : Trial.filing.disk = some ⟨⟨[]⟩, Yaml.format⟩ := rfl
  exact ⟨permitted, files_as_memory kept (fun _ => nofun) (fun _ _ => rfl) permitted⟩

theorem addWritten_of_error {source : Source} {keep : Option String} {session after : Session} {image : Image}
    {notes : List Note} {fault : Fault} (taken : takeSource source keep session = ⟨.ok image, after, notes⟩)
    (refused : (Depot.addWritten image after.store).result = .error fault) :
    (step (.addWritten source keep) session).result = .error fault := by
  have inside : (inStore (Depot.addWritten image) after).result = .error fault := refused
  have steps : step (.addWritten source keep) session =
      (takeSource source keep >>= fun image => inStore (Depot.addWritten image) >>= fun _ => pure .done) session := rfl
  rw [steps, Attempt.bind_of_ok taken]
  exact Attempt.result_of_error inside _

namespace Trial

open Depot (documentSuffix temporarySuffix)

/-- The fields of an image of a name. -/
def fields (name : String) : Source :=
  .fields (.mapping [(.text "name", .text name), (.text "namespace", .text "s"), (.text "spec", spec)])

/-- A name that is short enough for a file, but not with all that is added to it. -/
def longName : String :=
  String.ofList (List.replicate 250 'a')

theorem mem_longName {c : Char} (held : c ∈ longName.toList) : c = 'a' := by
  have spelled : longName.toList = List.replicate 250 'a' := String.toList_ofList
  exact List.eq_of_mem_replicate (spelled ▸ held)

theorem checkName_longName : Tree.checkName (longName ++ documentSuffix ++ temporarySuffix) = .error .nameTooLong := by
  have short : longName.utf8ByteSize = 250 := by decide +kernel
  have long : (longName ++ documentSuffix ++ temporarySuffix).utf8ByteSize = 259 := by
    rw [String.utf8ByteSize_append, String.utf8ByteSize_append, short]
    rfl
  have clean : (longName ++ documentSuffix ++ temporarySuffix).toList.contains '\x00' = false := by
    have suffixes : '\x00' ∉ documentSuffix.toList ∧ '\x00' ∉ temporarySuffix.toList := by decide
    simp only [String.toList_append, List.contains_eq_mem, List.mem_append, suffixes, or_false, decide_eq_false_iff_not]
    intro held
    exact absurd (mem_longName held) (by decide)
  unfold Tree.checkName
  rw [clean, long]
  rfl

theorem addWritten_of_misnamed {name : String} {fault : FileFault} (slashless : '/' ∉ name.toList)
    (misnamed : Tree.checkName (name ++ documentSuffix ++ temporarySuffix) = .error fault) :
    (step (.addWritten (fields name) none) (start filing)).result = .error (.file fault) := by
  have path : Depot.documentPath (fresh name).id = .ok (Depot.pathAt "s" name) :=
    Depot.documentPath_of_slashless slashless (by decide) (by decide)
  have refused := @Depot.writeSteps_of_misnamed "s" name fault ⟨[]⟩ _ (by decide) rfl misnamed
    (Yaml.format.write (fresh name).document)
  have taken : takeSource (fields name) none (start filing) = ⟨.ok (fresh name), start filing, []⟩ := rfl
  exact addWritten_of_error taken (Depot.addWritten_of_refused rfl path refused)

theorem add_done (name : String) : (step (.add (fields name) none) (start settings)).result = .ok .done := rfl

end Trial

/-- An image whose name is a proper one of a file, but too long with all that is added to it, goes into a store in
memory only. -/
theorem long_name_differs : (Trial.longName ≠ "" ∧ '/' ∉ Trial.longName.toList ∧ '\x00' ∉ Trial.longName.toList) ∧
    (start Trial.settings).watch ([.addWritten (Trial.fields Trial.longName) none].map Command.inMemory) ≠
      (start Trial.filing).watch [.addWritten (Trial.fields Trial.longName) none] := by
  have slashless : '/' ∉ Trial.longName.toList := fun held => absurd (Trial.mem_longName held) (by decide)
  refine ⟨⟨?_, slashless, fun held => absurd (Trial.mem_longName held) (by decide)⟩, fun same => ?_⟩
  · decide +kernel
  · have results := congrArg (·.map Seen.result) same
    have kept := Trial.add_done Trial.longName
    have refused := Trial.addWritten_of_misnamed slashless Trial.checkName_longName
    simp only [List.map_cons, List.map_nil, Command.inMemory, watch, seen, kept, refused, List.cons.injEq, reduceCtorEq,
      false_and] at results

end Session

end ImageOperator
