import ImageOperator.Proofs.Store.Persist
import ImageOperator.Session.State

set_option autoImplicit false

namespace ImageOperator

/-- What passes turn on in a session: the objects of the store in use, the workspaces, and how clients are come by. -/
structure Scene where
  current : Nat
  objects : Catalog
  workspaces : String → Workspace
  factory : Factory
  home : String
  config : Config

namespace Scene

def withObjects (scene : Scene) (objects : Catalog) : Scene :=
  { scene with objects }

def withWorkspace (scene : Scene) (name : String) (workspace : Workspace) : Scene :=
  { scene with workspaces := fun other => if other = name then workspace else scene.workspaces other }

/-- The workspace whose client serves an image, if there is to be one. -/
def clientOf (scene : Scene) (image : Image) : Option String :=
  match scene.factory with
  | .shared => some scene.home
  | .perWorkspace => some image.spec.workspace
  | .failing _ => none

@[simp] theorem withWorkspace_self (scene : Scene) (name : String) (workspace : Workspace) :
    (scene.withWorkspace name workspace).workspaces name = workspace := by
  simp [withWorkspace]

theorem withWorkspace_of_ne (scene : Scene) {name other : String} (workspace : Workspace) (different : other ≠ name) :
    (scene.withWorkspace name workspace).workspaces other = scene.workspaces other := by
  simp [withWorkspace, different]

@[simp] theorem withWorkspace_objects (scene : Scene) (name : String) (workspace : Workspace) :
    (scene.withWorkspace name workspace).objects = scene.objects := rfl

@[simp] theorem withObjects_objects (scene : Scene) (objects : Catalog) :
    (scene.withObjects objects).objects = objects := rfl

@[simp] theorem withObjects_workspaces (scene : Scene) (objects : Catalog) :
    (scene.withObjects objects).workspaces = scene.workspaces := rfl

theorem withObjects_of_eq {scene : Scene} {objects : Catalog} (same : objects = scene.objects) :
    scene.withObjects objects = scene := by
  simp only [withObjects, same]

theorem withWorkspace_of_eq {scene : Scene} {name : String} {workspace : Workspace}
    (same : workspace = scene.workspaces name) : scene.withWorkspace name workspace = scene := by
  have unchanged : (fun other => if other = name then workspace else scene.workspaces other) = scene.workspaces := by
    funext other
    by_cases h : other = name <;> simp [h, same]
  simp only [withWorkspace, unchanged]

/-- A property of workspaces holds of all once it holds of all before and of the one that was put in. -/
theorem forall_withWorkspace {scene : Scene} {name : String} {workspace : Workspace}
    {property : String → Workspace → Prop} (all : ∀ other, property other (scene.workspaces other))
    (new : property name workspace) :
    ∀ other, property other ((scene.withWorkspace name workspace).workspaces other) := by
  intro other
  by_cases h : other = name
  · rw [h, withWorkspace_self]
    exact new
  · rw [withWorkspace_of_ne scene workspace h]
    exact all other

end Scene

namespace Session

variable {α : Type}

def scene (session : Session) : Scene where
  current := session.current
  objects := (session.depot session.current).objects
  workspaces := session.workspace
  factory := session.factory
  home := session.home
  config := session.config

@[simp] theorem scene_current (session : Session) : session.scene.current = session.current := rfl

@[simp] theorem scene_objects (session : Session) :
    session.scene.objects = (session.depot session.current).objects := rfl

@[simp] theorem scene_workspaces (session : Session) : session.scene.workspaces = session.workspace := rfl

@[simp] theorem scene_keepEvents (session : Session) (notes : List Note) :
    (session.keepEvents notes).scene = session.scene := rfl

/-- What the store holds under an identifier. -/
def stored? (session : Session) (id : ObjectId) : Option Image :=
  id.key?.bind session.scene.objects.get?

theorem stored?_of_objects {before after : Session} (same : after.scene.objects = before.scene.objects)
    (id : ObjectId) : after.stored? id = before.stored? id := by
  simp only [stored?, same]

theorem depot_putDepot_self (session : Session) (depot : Depot) :
    (putDepot session.current depot session).depot session.current = depot := by
  have put : (session.depots.set session.current depot)[session.current]? = some depot := by
    rw [List.getElem?_set_self session.current_lt]
  simp only [putDepot, Session.depot, put, Option.getD_some]

/-- Putting one store leaves the others as they are, but for the disk that they all have. -/
theorem depot_putDepot_of_ne (session : Session) {index other : Nat} (depot : Depot) (different : index ≠ other) :
    (putDepot index depot session).depot other = { session.depot other with disk := depot.disk } := by
  simp only [putDepot, Session.depot, List.getElem?_set_ne different]

theorem objects_putDepot_of_ne (session : Session) {index other : Nat} (depot : Depot) (different : index ≠ other) :
    ((putDepot index depot session).depot other).objects = (session.depot other).objects := by
  rw [depot_putDepot_of_ne session depot different]

theorem scene_putDepot (session : Session) (depot : Depot) :
    (putDepot session.current depot session).scene = session.scene.withObjects depot.objects := by
  have objects : ((putDepot session.current depot session).depot session.current).objects = depot.objects := by
    rw [depot_putDepot_self]
  simp only [scene, Scene.withObjects, Scene.mk.injEq]
  exact ⟨rfl, objects, rfl, rfl, rfl, rfl⟩

theorem lookup_replaceWorkspace_self (name : String) (workspace : Workspace) (entries : List (String × Workspace)) :
    (replaceWorkspace name workspace entries).lookup name = some workspace := by
  induction entries with
  | nil => simp [replaceWorkspace]
  | cons entry rest ih =>
    obtain ⟨key, held⟩ := entry
    by_cases h : key = name
    · simp [replaceWorkspace, h]
    · have skipped : (name == key) = false := by simpa using Ne.symm h
      simp [replaceWorkspace, h, List.lookup_cons, skipped, ih]

theorem lookup_replaceWorkspace_of_ne {name other : String} (different : other ≠ name) (workspace : Workspace)
    (entries : List (String × Workspace)) :
    (replaceWorkspace name workspace entries).lookup other = entries.lookup other := by
  have skipped : (other == name) = false := by simpa using different
  induction entries with
  | nil => simp [replaceWorkspace, List.lookup_cons, skipped]
  | cons entry rest ih =>
    obtain ⟨key, held⟩ := entry
    by_cases h : key = name
    · simp [replaceWorkspace, h, List.lookup_cons, skipped]
    · simp only [replaceWorkspace, h, ↓reduceIte, List.lookup_cons, ih]

theorem scene_putWorkspace (name : String) (workspace : Workspace) (session : Session) :
    (putWorkspace name workspace session).scene = session.scene.withWorkspace name workspace := by
  have workspaces : (putWorkspace name workspace session).workspace =
      fun other => if other = name then workspace else session.workspace other := by
    funext other
    by_cases h : other = name
    · simp [putWorkspace, Session.workspace, h, lookup_replaceWorkspace_self]
    · simp [putWorkspace, Session.workspace, h, lookup_replaceWorkspace_of_ne h]
  simp only [scene, Scene.withWorkspace, Scene.mk.injEq]
  exact ⟨rfl, rfl, workspaces, rfl, rfl, rfl⟩

@[simp] theorem objects_start (settings : Settings) : (start settings).scene.objects = [] := rfl

@[simp] theorem workspace_start (settings : Settings) (name : String) :
    (start settings).workspace name = Workspace.empty name := by
  by_cases home : name = settings.home
  · simp [Session.workspace, start, home]
  · have other : (name == settings.home) = false := by simpa using home
    simp [Session.workspace, start, List.lookup_cons, other]

/-- Deeds are noted whatever the log lets through. -/
theorem filter_shows (session : Session) (notes : List Note) :
    (notes.filter session.shows).filter Note.isDeed = notes.filter Note.isDeed := by
  rw [List.filter_filter]
  congr 1
  funext note
  cases note <;> simp [shows, Note.isDeed, Note.call?, Note.submitted?]

theorem bare_emit {notes : List Note} (told : notes.filter Note.isDeed = []) (session : Session) :
    (emit notes).bare session = ⟨.ok (), session.keepEvents notes, []⟩ := by
  change (⟨_, _, (notes.filter _).filter Note.isDeed⟩ : Outcome Session Unit) = _
  rw [filter_shows, told]
  rfl

theorem bare_say (channel : Channel) (level : Level) (message : String) (session : Session) :
    (say channel level message).bare session = ⟨.ok (), session, []⟩ := by
  have silent : [Note.log channel level message].filterMap Note.event? = [] := rfl
  unfold say
  rw [bare_emit rfl]
  simp only [keepEvents, silent, List.append_nil]

theorem bare_through_of {τ : Type} (part : Session → τ) (put : τ → Session → Session) {attempt : Attempt τ α}
    {session : Session} {result : Except Fault α} {state : τ} {notes : List Note}
    (ran : attempt.bare (part session) = ⟨result, state, notes⟩) :
    ∃ told, (through part put attempt).bare session = ⟨result, (put state session).keepEvents told, notes⟩ := by
  simp only [Attempt.bare, Outcome.mk.injEq] at ran
  obtain ⟨rfl, rfl, rfl⟩ := ran
  refine ⟨(attempt (part session)).notes, ?_⟩
  simp only [Attempt.bare, through, filter_shows]

theorem bare_inCurrent_of {attempt : Attempt Depot α} {session : Session} {result : Except Fault α} {depot : Depot}
    {notes : List Note} (ran : attempt.bare (session.depot session.current) = ⟨result, depot, notes⟩) :
    ∃ after, (inDepot session.current attempt).bare session = ⟨result, after, notes⟩ ∧
      after.scene = session.scene.withObjects depot.objects := by
  obtain ⟨told, done⟩ := bare_through_of (·.depot session.current) (putDepot session.current) ran
  exact ⟨_, done, (scene_keepEvents _ told).trans (scene_putDepot session depot)⟩

theorem bare_inStore_of {attempt : Attempt Depot α} {session : Session} {result : Except Fault α} {depot : Depot}
    {notes : List Note} (ran : attempt.bare (session.depot session.current) = ⟨result, depot, notes⟩) :
    ∃ after, (inStore attempt).bare session = ⟨result, after, notes⟩ ∧
      after.scene = session.scene.withObjects depot.objects := by
  unfold inStore
  rw [Attempt.bare_bind, Attempt.bare_read, Attempt.read_then]
  exact bare_inCurrent_of ran

theorem bare_stored_of {id : ObjectId} {key : ObjectKey} (known : id.key? = some key) (session : Session) :
    ∃ after, (inStore (Depot.getObject id)).bare session = ⟨.ok (session.scene.objects.get? key), after, []⟩ ∧
      after.scene = session.scene := by
  obtain ⟨after, done, same⟩ := bare_inStore_of (Depot.bare_getObject_of known (session.depot session.current))
  exact ⟨after, done, same.trans (Scene.withObjects_of_eq rfl)⟩

theorem bare_stored_of_none {id : ObjectId} (unknown : id.key? = none) (session : Session) :
    ∃ after, (inStore (Depot.getObject id)).bare session = ⟨.error .type, after, []⟩ ∧
      after.scene = session.scene := by
  obtain ⟨after, done, same⟩ := bare_inStore_of (Depot.bare_getObject_of_none unknown (session.depot session.current))
  exact ⟨after, done, same.trans (Scene.withObjects_of_eq rfl)⟩

theorem bare_inWorkspace_of {name : String} {attempt : Attempt Workspace α} {session : Session}
    {result : Except Fault α} {workspace : Workspace} {notes : List Note}
    (ran : attempt.bare (session.workspace name) = ⟨result, workspace, notes⟩) :
    ∃ after, (inWorkspace name attempt).bare session = ⟨result, after, notes⟩ ∧
      after.scene = session.scene.withWorkspace name workspace := by
  obtain ⟨told, done⟩ := bare_through_of (·.workspace name) (putWorkspace name) ran
  exact ⟨_, done, (scene_keepEvents _ told).trans (scene_putWorkspace name workspace session)⟩

theorem bare_visit_of {scope : Scope} {attempt : Attempt Bench α} {session : Session} {result : Except Fault α}
    {bench : Bench} {notes : List Note}
    (ran : attempt.bare ⟨scope.image, session.workspace scope.workspace⟩ = ⟨result, bench, notes⟩) :
    ∃ after, (visit scope attempt).bare session = ⟨.ok (result, { scope with image := bench.image }), after, notes⟩ ∧
      after.scene = session.scene.withWorkspace scope.workspace bench.workspace := by
  simp only [Attempt.bare, Outcome.mk.injEq] at ran
  obtain ⟨rfl, rfl, rfl⟩ := ran
  refine ⟨_, ?_, (scene_keepEvents _ (attempt ⟨scope.image, session.workspace scope.workspace⟩).notes).trans
    (scene_putWorkspace _ _ session)⟩
  simp only [Attempt.bare, visit, filter_shows]

end Session

end ImageOperator
