import ImageOperator.Proofs.Session.Benches
import ImageOperator.Proofs.Session.OneImport
import ImageOperator.Proofs.Session.Stored
import ImageOperator.Proofs.Session.Submitted

set_option autoImplicit false

/-!
One object in a workspace of its own, with scopes on it that are never closed beside the passes over it.
-/

namespace ImageOperator

def CloudCommand.deletesJob : CloudCommand → Bool
  | .deleteJob _ => true
  | _ => false

/-- What is made of a workspace from a bench leaves it orderly and its jobs there. -/
theorem Bench.Tries.grows {name : String} {bench : Bench} {after : Workspace} (tries : Bench.Tries bench after)
    (orderly : bench.workspace.Orderly name) (own : bench.image.spec.workspace = name) :
    after.Orderly name ∧ Workspace.Grows bench.workspace after := by
  cases tries with
  | spares jobs serial instanceId =>
    exact ⟨orderly.of_same instanceId jobs, .keeps (Workspace.jobIds_of_jobs jobs) (Nat.le_of_eq serial.symm)⟩
  | ensures ensured reached =>
    subst reached
    exact ⟨(Pass.ensures_orderly ensured orderly own).1, Pass.ensures_grows ensured⟩

namespace Session

open Pass (Leads tracks)
open Workspace (Grows jobIdOf)

/-- Commands under which a workspace has no jobs but those of one object, and keeps them: passes, scopes that are
opened on stored images and never closed, progress of jobs that have not ended, images that are deleted by others, calls
and writes that fail, and whatever concerns other workspaces and objects. -/
def importsOnly (id : ObjectId) (name : String) (session : Session) : Command → Bool
  | .open request =>
    match request.subject with
    | .source _ => false
    | .stored _ | .absent => true
  | .scope _ call =>
    match call with
    | .close | .deleteJob => false
    | _ => true
  | .requestDeletion other => other.key? ≠ id.key?
  | .cloud place order =>
    place.getD session.home ≠ name || (session.workspace name).fair order && !order.deletesJob
  | command =>
    command.isRoutine && (session.brings command).all fun image =>
      session.scene.clientOf image ≠ some name && image.id.key? ≠ id.key?

/-- The object is the only one whose client is that of a workspace, and jobs there are orderly; a job that the status
waits for is one of them. -/
structure Attached (id : ObjectId) (name : String) (session : Session) : Prop where
  filed : session.scene.objects.Filed
  object : ∃ image, session.stored? id = some image ∧ image.deletionRequested = false ∧ image.spec.workspace = name ∧
    session.scene.clientOf image = some name ∧
      (tracks image = true → image.status.jobId ∈ (session.workspace name).jobIds)
  others : ∀ entry ∈ session.scene.objects, session.scene.clientOf entry.2 = some name → entry.2.id.key? = id.key?
  scopes : ∀ scope ∈ session.scopes, scope.workspace = name → scope.image.spec.workspace = name
  orderly : (session.workspace name).Orderly name
  sorted : (session.workspace name).Sorted

variable {id : ObjectId} {name jobId : String} {session after : Session} {command : Command}
  {history : List (Session × Command)}

theorem permitted_cases (permitted : importsOnly id name session command = true) :
    (command.isRoutine = true ∧ (step command session).state.scopes = session.scopes) ∨
      Handles session (step command session).state := by
  have routinely (routine : command.isRoutine = true) :
      command.isRoutine = true ∧ (step command session).state.scopes = session.scopes :=
    ⟨routine, step_preserves routine session⟩
  cases command with
  | «open» request =>
    refine .inr (handles_answered (openNamed_handles (fun source same => ?_) session) fun _ _ => rfl)
    rw [importsOnly, same] at permitted
    cases permitted
  | scope place call =>
    unfold step
    rw [Attempt.read_then]
    cases session.scopeNames.lookup place with
    | none => exact .inr (.rests rfl rfl)
    | some index =>
      refine .inr (callScope_handles ?_ ?_ index session) <;>
      · rintro rfl
        cases permitted
  | requestDeletion other => exact .inl (routinely rfl)
  | cloud place order => exact .inl (routinely rfl)
  | add | addWritten | persist | get | list | kept | changeKept | modify | listen | unlisten | setNow | writeFile
  | makeFolder | deleteFile | deleteRoot | files | pathFor | load | reopen | within | reconcile | setRegistry | state =>
    simp only [importsOnly, Bool.and_eq_true] at permitted
    exact .inl (routinely permitted.1)

theorem brings_elsewhere (permitted : importsOnly id name session command = true) {image : Image}
    (brought : session.brings command = some image) :
    session.scene.clientOf image ≠ some name ∧ image.id.key? ≠ id.key? := by
  cases command with
  | add | addWritten =>
    simp only [importsOnly, brought, Option.all_some, Bool.and_eq_true, decide_eq_true_eq] at permitted
    exact permitted.2
  | persist | get | list | kept | changeKept | modify | listen | unlisten | setNow | writeFile | makeFolder | deleteFile
  | deleteRoot | files | pathFor | load | reopen | within | reconcile | setRegistry | state | «open» | scope
  | requestDeletion | cloud => cases brought

theorem Moves.others {scene : Scene} {notes : List Note} (moves : Moves session command scene notes)
    (attached : Attached id name session) (permitted : importsOnly id name session command = true) :
    ∀ entry ∈ scene.objects, session.scene.clientOf entry.2 = some name → entry.2.id.key? = id.key? := by
  have written {key : ObjectKey} {old image : Image} {result : Except Fault Unit} {objects : Catalog}
      (stored : session.scene.objects.get? key = some old) (same : image.id = old.id) (spec : image.spec = old.spec)
      (persists : Depot.Persists session.scene.objects image result objects) :
      ∀ entry ∈ objects, session.scene.clientOf entry.2 = some name → entry.2.id.key? = id.key? := by
    refine @Depot.Persists.forall _ _ _ _
      (fun _ held => session.scene.clientOf held = some name → held.id.key? = id.key?) persists attached.others ?_
    intro _ _ served
    rw [Scene.clientOf, spec] at served
    rw [same]
    exact attached.others _ (Catalog.mem_of_get? stored) served
  cases moves with
  | rests | turns turns => exact attached.others
  | adds brought adds =>
    refine @Depot.Adds.forall _ _ _ _
      (fun _ held => session.scene.clientOf held = some name → held.id.key? = id.key?) adds attached.others ?_
    exact fun _ _ served => absurd served (brings_elsewhere permitted brought).1
  | marks marks =>
    cases marks with
    | unknown unknown | absent known absent => exact attached.others
    | handed known stored persists => exact written stored (Image.marked_id _ _) (Image.marked_spec _ _) persists
  | reconciles told deeds reconciles =>
    cases reconciles with
    | idle other | refused known stored served works broken => exact attached.others
    | handed known stored served works sound persists => exact written stored works.akin.id works.akin.spec persists

/-- What a step comes to for the object: it is there, and its status follows the jobs. -/
structure Carries (id : ObjectId) (name : String) (session after : Session) : Prop where
  client : after.scene.clientOf = session.scene.clientOf
  orderly : (after.workspace name).Orderly name
  grows : Grows (session.workspace name) (after.workspace name)
  leads : ∃ image found, session.stored? id = some image ∧ after.stored? id = some found ∧
    Image.Akin image found ∧ Leads image (session.workspace name) found (after.workspace name)

theorem Carries.of_stored (attached : Attached id name session)
    (client : after.scene.clientOf = session.scene.clientOf) (same : after.stored? id = session.stored? id)
    (orderly : (after.workspace name).Orderly name)
    (grows : Grows (session.workspace name) (after.workspace name)) : Carries id name session after := by
  obtain ⟨image, stored, -⟩ := attached.object
  exact ⟨client, orderly, grows, image, image, stored, same.trans stored, ⟨rfl, rfl, rfl⟩, .rests rfl grows⟩

theorem Attached.withWorkspace {place : String} {workspace : Workspace} (attached : Attached id name session)
    (new : place = name → workspace.Orderly name ∧ Grows (session.workspace name) workspace) :
    ((session.scene.withWorkspace place workspace).workspaces name).Orderly name ∧
      Grows (session.workspace name) ((session.scene.withWorkspace place workspace).workspaces name) := by
  by_cases own : name = place
  · subst own
    rw [Scene.withWorkspace_self]
    exact new rfl
  · rw [Scene.withWorkspace_of_ne session.scene workspace own]
    exact ⟨attached.orderly, (Workspace.Alike.refl _).grows⟩

theorem Handles.carries (handles : Handles session after) (attached : Attached id name session) :
    Carries id name session after := by
  have still (same : after.scene = session.scene) : Carries id name session after := by
    have workspace : after.workspace name = session.workspace name := congrFun (congrArg Scene.workspaces same) name
    refine .of_stored attached (by rw [same]) (stored?_of_objects (congrArg Scene.objects same) id) ?_ ?_
    · exact workspace ▸ attached.orderly
    · exact workspace ▸ (Workspace.Alike.refl _).grows
  cases handles with
  | rests scene scopes | opens scene copied served scopes => exact still scene
  | @works index scope other workspace held tries scene spec place scopes =>
    have objects := congrArg Scene.objects scene
    have workspaces : after.workspace = (session.scene.withWorkspace scope.workspace workspace).workspaces :=
      congrArg Scene.workspaces scene
    have client : after.scene.clientOf = session.scene.clientOf := by
      rw [scene]
      rfl
    have grown (own : scope.workspace = name) : workspace.Orderly name ∧ Grows (session.workspace name) workspace := by
      rw [own] at tries
      exact tries.grows attached.orderly (attached.scopes scope (List.mem_of_getElem? held) own)
    obtain ⟨orderly, grows⟩ := attached.withWorkspace grown
    rw [← workspaces] at orderly grows
    exact .of_stored attached client (stored?_of_objects objects id) orderly grows

theorem Handles.scoped (handles : Handles session after) (attached : Attached id name session) :
    ∀ scope ∈ after.scopes, scope.workspace = name → scope.image.spec.workspace = name := by
  cases handles with
  | rests scene scopes => exact scopes ▸ attached.scopes
  | @opens other scope scene copied served scopes =>
    intro held member own
    rw [scopes] at member
    rcases List.mem_append.mp member with old | new
    · exact attached.scopes held old own
    · obtain rfl := List.mem_singleton.mp new
      -- The image that is served by the client of the workspace is the object.
      obtain ⟨image, stored, -, place, -⟩ := attached.object
      obtain ⟨key, known, there⟩ := Option.bind_eq_some_iff.mp copied
      have same := attached.others _ (Catalog.mem_of_get? there) (own ▸ served)
      have found : session.stored? id = some held.image :=
        (stored?_of_key same.symm).trans (stored?_own attached.filed copied)
      rw [Option.some.inj (found.symm.trans stored)]
      exact place
  | works held tries scene spec place scopes =>
    intro other member own
    rw [scopes] at member
    rcases List.mem_or_eq_of_mem_set member with old | rfl
    · exact attached.scopes other old own
    · rw [spec]
      exact attached.scopes _ (List.mem_of_getElem? held) (place ▸ own)

theorem Handles.filed (handles : Handles session after) : after.scene.objects = session.scene.objects := by
  cases handles with
  | rests scene scopes | opens scene copied served scopes => rw [scene]
  | works held tries scene spec place scopes => rw [scene, Scene.withWorkspace_objects]

theorem stored?_of_get? {key : ObjectKey} (known : id.key? = some key)
    (same : after.scene.objects.get? key = session.scene.objects.get? key) : after.stored? id = session.stored? id := by
  rw [stored?, stored?, known, Option.bind_some, Option.bind_some, same]

/-- A pass over the object, or one over another object, which is done in another workspace. -/
theorem Reconciles.carries {other : ObjectId} {scene : Scene} {result : Except Fault Pass.Requeue} {notes : List Note}
    (reconciles : Reconciles session.scene other result scene notes) (attached : Attached id name session)
    (reached : after.scene = scene) : Carries id name session after := by
  obtain ⟨image, stored, kept, place, serves, tracked⟩ := attached.object
  obtain ⟨key, known, there⟩ := Option.bind_eq_some_iff.mp stored
  have own_key : image.id.key? = some key := attached.filed _ (Catalog.mem_of_get? there)
  have workspaces : after.workspace = scene.workspaces := congrArg Scene.workspaces reached
  have objects : after.scene.objects = scene.objects := congrArg Scene.objects reached
  have clients : after.scene.clientOf = session.scene.clientOf := by
    rw [reached]
    cases reconciles <;> rfl
  -- What is served by the client of the workspace is the object.
  have only {other_key : ObjectKey} {found : Image} {client : String}
      (held : session.scene.objects.get? other_key = some found)
      (served : session.scene.clientOf found = some client) (here : client = name) :
      other_key = key ∧ found = image := by
    subst here
    have entry := Catalog.mem_of_get? held
    have same := attached.others _ entry served
    obtain rfl : other_key = key := Option.some.inj ((attached.filed _ entry).symm.trans (same.trans known))
    exact ⟨rfl, Option.some.inj (held.symm.trans there)⟩
  have passed {client : String} {result : Except Fault Pass.Requeue} {bench : Bench} {deeds : List Note}
      {found : Image} {other_key : ObjectKey} (held : session.scene.objects.get? other_key = some found)
      (served : session.scene.clientOf found = some client)
      (works : Pass.Works session.scene.config ⟨found, session.scene.workspaces client⟩ ⟨result, bench, deeds⟩) :
      ((session.scene.withWorkspace client bench.workspace).workspaces name).Orderly name ∧
        Grows (session.workspace name) ((session.scene.withWorkspace client bench.workspace).workspaces name) := by
    refine attached.withWorkspace fun here => ?_
    obtain ⟨rfl, rfl⟩ := only held served here
    subst here
    exact ⟨(works.orderly attached.orderly place).1, (works.normal kept).grows⟩
  cases reconciles with
  | idle silent =>
    refine .of_stored attached clients (stored?_of_objects objects id) ?_ ?_ <;> rw [workspaces]
    · exact attached.orderly
    · exact (Workspace.Alike.refl _).grows
  | refused same held served works broken =>
    obtain ⟨orderly, grows⟩ := passed held served works
    exact .of_stored attached clients (stored?_of_objects objects id) (workspaces ▸ orderly) (workspaces ▸ grows)
  | @handed other_key found client result bench deeds ending left same held served works sound persists =>
    obtain ⟨orderly, grows⟩ := passed held served works
    have bench_key : bench.image.id.key? = some other_key := by
      rw [works.akin.id]
      exact attached.filed _ (Catalog.mem_of_get? held)
    have quiet (still : left.get? key = session.scene.objects.get? key) : Carries id name session after := by
      refine .of_stored attached clients (stored?_of_get? known ?_) (workspaces ▸ orderly) (workspaces ▸ grows)
      rw [objects]
      exact still
    by_cases own : other_key = key
    · subst own
      obtain rfl := Option.some.inj (held.symm.trans there)
      rcases persists.get?_own bench_key with ⟨still, -⟩ | ⟨-, leaving, -⟩ | ⟨written, -, -⟩
      · exact quiet still
      · rw [Depot.leaves, works.akin.deletionRequested, kept] at leaving
        cases leaving
      · obtain rfl := Option.some.inj (served.symm.trans serves)
        have new : after.stored? id = some bench.image := by
          rw [stored?, known, objects]
          exact written
        refine ⟨clients, workspaces ▸ orderly, workspaces ▸ grows, found, bench.image, stored, new, works.akin, ?_⟩
        rw [workspaces, Scene.withObjects_workspaces, Scene.withWorkspace_self]
        exact (works.normal kept).leads
    · exact quiet (persists.get?_of_ne bench_key fun same => own same.symm)

theorem step_carries (routine : command.isRoutine = true) (permitted : importsOnly id name session command = true)
    (attached : Attached id name session) : Carries id name session (step command session).state := by
  obtain ⟨scene, notes, reached, noted, moves⟩ := step_moves routine session
  have client : (step command session).state.scene.clientOf = session.scene.clientOf := by
    rw [reached]
    exact funext moves.clientOf
  have workspaces : (step command session).state.workspace = scene.workspaces := congrArg Scene.workspaces reached
  have objects : (step command session).state.scene.objects = scene.objects := congrArg Scene.objects reached
  have quiet (same : (step command session).state.stored? id = session.stored? id)
      (still : scene.workspaces name = session.workspace name) :
      Carries id name session (step command session).state := by
    refine .of_stored attached client same ?_ ?_
    · rw [workspaces, still]
      exact attached.orderly
    · rw [workspaces, still]
      exact (Workspace.Alike.refl _).grows
  cases moves with
  | rests => exact quiet (stored?_of_objects objects id) rfl
  | @adds _ added _ _ brought adds =>
    obtain ⟨image, stored, -⟩ := attached.object
    obtain ⟨key, known, -⟩ := Option.bind_eq_some_iff.mp stored
    refine quiet (stored?_of_get? known ?_) rfl
    rw [objects]
    exact adds.get?_of_ne fun own same here => (brings_elsewhere permitted brought).2 (same.trans (here ▸ known.symm))
  | @marks other now _ _ _ marks =>
    obtain ⟨image, stored, -⟩ := attached.object
    obtain ⟨key, known, -⟩ := Option.bind_eq_some_iff.mp stored
    refine quiet (stored?_of_get? known ?_) rfl
    rw [objects]
    cases marks with
    | unknown unknown | absent absent_key absent => rfl
    | @handed other_key found _ _ other_known held persists =>
      have own : (found.marked now).id.key? = some other_key := by
        rw [Image.marked_id]
        exact attached.filed _ (Catalog.mem_of_get? held)
      refine persists.get?_of_ne own fun same => ?_
      simp only [importsOnly, decide_eq_true_eq] at permitted
      exact permitted (other_known.trans (same ▸ known.symm))
  | @turns place order workspace _ turns =>
    simp only [importsOnly, Bool.or_eq_true, Bool.and_eq_true, decide_eq_true_eq, Bool.not_eq_true'] at permitted
    have grown (here : place.getD session.home = name) :
        workspace.Orderly name ∧ Grows (session.workspace name) workspace := by
      obtain ⟨fair, spares⟩ := permitted.resolve_left fun other => other here
      rw [here] at turns
      refine ⟨(attached.orderly.turns fair turns).1, turns.grows fun jobId same => ?_⟩
      rw [same] at spares
      cases spares
    obtain ⟨orderly, grows⟩ := attached.withWorkspace grown
    exact .of_stored attached client (stored?_of_objects objects id) (workspaces ▸ orderly) (workspaces ▸ grows)
  | reconciles told deeds reconciles => exact reconciles.carries attached reached

theorem Attached.carried (attached : Attached id name session) (carries : Carries id name session after)
    (filed : after.scene.objects.Filed)
    (others : ∀ entry ∈ after.scene.objects, session.scene.clientOf entry.2 = some name → entry.2.id.key? = id.key?)
    (scopes : ∀ scope ∈ after.scopes, scope.workspace = name → scope.image.spec.workspace = name) :
    Attached id name after := by
  obtain ⟨image, stored, kept, place, serves, there⟩ := attached.object
  obtain ⟨old, found, known, written, akin, leads⟩ := carries.leads
  obtain rfl := Option.some.inj (stored.symm.trans known)
  refine ⟨filed, ⟨found, written, akin.deletionRequested.trans kept, akin.spec ▸ place, ?_, leads.there there⟩, ?_,
    scopes, carries.orderly, attached.sorted.queues carries.grows.queues⟩
  · rw [carries.client, Scene.clientOf, akin.spec]
    exact serves
  · rw [carries.client]
    exact others

theorem step_attached (permitted : importsOnly id name session command = true) (attached : Attached id name session) :
    Attached id name (step command session).state ∧ Carries id name session (step command session).state := by
  rcases permitted_cases permitted with ⟨routine, scopes⟩ | handles
  · have carries := step_carries routine permitted attached
    obtain ⟨scene, notes, reached, noted, moves⟩ := step_moves routine session
    refine ⟨attached.carried carries ?_ ?_ (scopes ▸ attached.scopes), carries⟩
    · exact reached ▸ moves.filed attached.filed
    · exact reached ▸ moves.others attached permitted
  · have carries := handles.carries attached
    refine ⟨attached.carried carries ?_ ?_ (handles.scoped attached), carries⟩
    · exact handles.filed ▸ attached.filed
    · exact handles.filed ▸ attached.others

end Session

end ImageOperator
