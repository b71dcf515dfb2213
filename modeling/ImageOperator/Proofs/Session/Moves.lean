import ImageOperator.Proofs.Cloud.Turns
import ImageOperator.Proofs.Session.Reconcile

set_option autoImplicit false

namespace ImageOperator

/-- Commands that passes run among: everything but handing images to the store by hand, working in scopes by hand, and
taking up another store. -/
def Command.isRoutine : Command → Bool
  | .add _ _ | .addWritten _ _ | .get _ _ | .list _ _ | .kept _ | .requestDeletion _ | .listen _ _ _ _ | .unlisten _
  | .setNow _ | .writeFile _ _ | .makeFolder _ | .deleteFile _ | .deleteRoot | .files | .pathFor _ | .cloud _ _
  | .reconcile _ | .setRegistry _ | .state => true
  | .persist _ _ | .changeKept _ _ | .modify _ _ _ | .load | .reopen | .open _ | .within _ _ _ | .scope _ _ => false

namespace Session

variable {α : Type}

/-- The image that a command is to add to the store. -/
def brings (session : Session) : Command → Option Image
  | .add source keep | .addWritten source keep => (takeSource source keep session).result.toOption
  | _ => none

/-- The moves that a routine command makes. -/
inductive Moves (session : Session) : Command → Scene → List Note → Prop
  | rests {command : Command} : Moves session command session.scene []
  | adds {command : Command} {image : Image} {result : Except Fault Unit} {objects : Catalog}
      (brought : session.brings command = some image)
      (adds : Depot.Adds session.scene.objects image result objects) :
      Moves session command (session.scene.withObjects objects) []
  | marks {id : ObjectId} {now : String} {result : Except Fault Unit} {objects : Catalog} {notes : List Note}
      (marks : Depot.Marks session.scene.objects id now result objects notes) :
      Moves session (.requestDeletion id) (session.scene.withObjects objects) notes
  | turns {place : Option String} {command : CloudCommand} {workspace : Workspace} {notes : List Note}
      (turns : Workspace.Turns (session.workspace (place.getD session.home)) command workspace notes) :
      Moves session (.cloud place command) (session.scene.withWorkspace (place.getD session.home) workspace) notes
  | reconciles {id : ObjectId} {result : Except Fault Pass.Requeue} {scene : Scene} {notes : List Note}
      (told : (reconcile id session).result = result) (deeds : ((reconcile id).bare session).notes = notes)
      (reconciles : Reconciles session.scene id result scene notes) : Moves session (.reconcile id) scene notes

theorem keeps_keep (name : Option String) (image : Image) (held : Option Held) :
    (keep name image held).Keeps scene := by
  cases name with
  | none => exact Attempt.keeps_pure scene ()
  | some name => cases held <;> exact Attempt.keeps_update fun _ => rfl

theorem keeps_keptImage (name : String) : (keptImage name).Keeps scene := by
  refine (Attempt.keeps_read scene).bind fun session => ?_
  cases session.kept.lookup name with
  | none => exact Attempt.keeps_fail scene _
  | some held =>
    cases image : session.heldImage? held with
    | none => simpa only [image] using Attempt.keeps_fail scene _
    | some image => simpa only [image] using Attempt.keeps_pure scene _

theorem keeps_takeSource (source : Source) (name : Option String) : (takeSource source name).Keeps scene := by
  cases source with
  | document value =>
    exact (Attempt.keeps_of scene _).bind fun image =>
      (keeps_keep name image none).bind fun _ => Attempt.keeps_pure scene image
  | fields value =>
    exact (Attempt.keeps_of scene _).bind fun image =>
      (keeps_keep name image none).bind fun _ => Attempt.keeps_pure scene image
  | kept kept =>
    exact (keeps_keptImage kept).bind fun held =>
      (keeps_keep name held.2 (some held.1)).bind fun _ => Attempt.keeps_pure scene held.2

theorem keeps_inDepot {attempt : Attempt Depot α} (keeps : attempt.Keeps (·.objects)) (index : Nat) :
    (inDepot index attempt).Keeps scene := by
  intro before
  obtain ⟨same, quiet⟩ := keeps (before.depot index)
  rcases ran : attempt.bare (before.depot index) with ⟨result, depot, notes⟩
  rw [ran] at same quiet
  obtain ⟨told, done⟩ := bare_through_of (·.depot index) (putDepot index) ran
  change scene ((through (·.depot index) (putDepot index) attempt).bare before).state = _ ∧ _
  rw [inDepot, done]
  refine ⟨?_, quiet⟩
  change (putDepot index depot before).scene = before.scene
  by_cases own : index = before.current
  · rw [own, scene_putDepot, Scene.withObjects_of_eq (by rw [own] at same; exact same)]
  · have objects := objects_putDepot_of_ne before depot own
    simp only [scene, Scene.mk.injEq]
    exact ⟨rfl, objects, rfl, rfl, rfl, rfl⟩

theorem keeps_inStore {attempt : Attempt Depot α} (keeps : attempt.Keeps (·.objects)) :
    (inStore attempt).Keeps scene :=
  (Attempt.keeps_read scene).bind fun session => keeps_inDepot keeps session.current

theorem keeps_getObject (id : ObjectId) : (inStore (Depot.getObject id)).Keeps scene :=
  keeps_inStore ((Attempt.keeps_of _ _).bind fun _ => (Attempt.keeps_read _).bind fun _ => Attempt.keeps_pure _ _)

theorem keeps_listen (change listener handle : String) (reaction : Reaction) :
    (listen change listener handle reaction).Keeps scene := by
  unfold listen
  cases Change.ofText? change with
  | none => exact Attempt.keeps_fail scene _
  | some change =>
    refine (Attempt.keeps_read scene).bind fun session => ?_
    refine Attempt.Keeps.bind (Attempt.keeps_update fun _ => rfl) fun _ => ?_
    exact keeps_inStore (Attempt.keeps_update fun _ => rfl)

theorem keeps_unlisten (handle : String) : (unlisten handle).Keeps scene := by
  refine (Attempt.keeps_read scene).bind fun session => ?_
  cases session.handles.lookup handle with
  | none => exact Attempt.keeps_fail scene _
  | some index =>
    refine keeps_inDepot (Attempt.keeps_update fun depot => ?_) index
    cases depot.audience.remover? handle <;> rfl

theorem keeps_onTree (steps : Tree → Except FileFault Unit × Tree) : (onTree steps).Keeps scene := by
  refine (Attempt.keeps_read scene).bind fun session => ?_
  cases session.disk with
  | none => exact Attempt.keeps_fail scene _
  | some disk =>
    rcases taken : steps disk.tree with ⟨fault | done, tree⟩
    · simp only [taken]
      exact Attempt.Keeps.bind (Attempt.keeps_update fun _ => rfl) fun _ => Attempt.keeps_fail scene _
    · simp only [taken]
      exact Attempt.keeps_update fun _ => rfl

theorem keeps_listStored (name : Option String) (index : Nat) : (listStored name index).Keeps scene := by
  refine (Attempt.keeps_read scene).bind fun session => ?_
  cases name with
  | none => exact Attempt.keeps_pure scene _
  | some name =>
    cases listed : (session.depot session.current).listObjects[index]? with
    | none =>
      simp only [Option.isSome_some, ↓reduceIte, listed]
      exact (Attempt.keeps_fail scene _).bind fun _ => Attempt.keeps_pure scene _
    | some image =>
      simp only [Option.isSome_some, ↓reduceIte, listed]
      exact (keeps_keep _ image none).bind fun _ => Attempt.keeps_pure scene _

/-- An attempt that leaves the scene as it is makes no move. -/
theorem moves_of_keeps {session : Session} {attempt : Attempt Session α} (keeps : attempt.Keeps scene)
    (command : Command) :
    Moves session command (attempt.bare session).state.scene (attempt.bare session).notes := by
  obtain ⟨same, quiet⟩ := keeps session
  rw [same, quiet]
  exact .rests

/-- Outcomes that are a move of a command. -/
def MovesTo (session : Session) (command : Command) (outcome : Outcome Session α) : Prop :=
  Moves session command outcome.state.scene outcome.notes

/-- What is answered at the end changes nothing. -/
theorem movesTo_answered {session before : Session} {command : Command} {attempt : Attempt Session α}
    {answer : α → Attempt Session Answer} (moves : MovesTo session command (attempt.bare before))
    (answers : ∀ value, (answer value).Keeps scene) :
    MovesTo session command ((attempt >>= answer).bare before) := by
  rw [Attempt.bare_bind]
  rcases ran : attempt.bare before with ⟨fault | value, after, notes⟩
  all_goals rw [ran] at moves
  · rw [Attempt.bind_of_error ran]
    exact moves
  · obtain ⟨same, quiet⟩ := answers value after
    rw [Attempt.bind_of_ok ran, MovesTo, same, quiet, List.append_nil]
    exact moves

/-- What is asked for first and changes nothing leaves the move to what follows. -/
theorem movesTo_after {β : Type} {session : Session} {command : Command} {first : Attempt Session α}
    {next : α → Attempt Session β} (keeps : first.Keeps scene)
    (moves : ∀ value after, (first session).result = .ok value → after.scene = session.scene →
      MovesTo session command ((next value).bare after)) :
    MovesTo session command ((first >>= next).bare session) := by
  obtain ⟨same, quiet⟩ := keeps session
  rw [Attempt.bare_bind]
  rcases ran : first.bare session with ⟨fault | value, after, notes⟩
  all_goals rw [ran] at same quiet
  · rw [Attempt.bind_of_error ran, MovesTo, same, quiet]
    exact .rests
  · obtain rfl : notes = [] := quiet
    have result : (first session).result = .ok value := by rw [← Attempt.bare_result, ran]
    rw [Attempt.bind_of_ok ran]
    exact moves value after result same

theorem add_movesTo {session : Session} {source : Source} {keep : Option String} {command : Command}
    {put : Image → Attempt Depot Unit}
    (brings : session.brings command = (takeSource source keep session).result.toOption)
    (adds : ∀ image depot, Depot.Adds depot.objects image ((put image).bare depot).result
      ((put image).bare depot).state.objects ∧ ((put image).bare depot).notes = []) :
    MovesTo session command ((do inStore (put (← takeSource source keep)) : Attempt Session Unit).bare session) := by
  refine movesTo_after (keeps_takeSource source keep) fun image taken result same => ?_
  have brought : session.brings command = some image := by
    rw [brings, result]
    rfl
  obtain ⟨added, nothing⟩ := adds image (taken.depot taken.current)
  rcases ran : (put image).bare (taken.depot taken.current) with ⟨result, depot, notes⟩
  rw [ran] at added nothing
  obtain ⟨after, done, put_same⟩ := bare_inStore_of ran
  have objects : (taken.depot taken.current).objects = session.scene.objects := congrArg Scene.objects same
  obtain rfl : notes = [] := nothing
  rw [objects] at added
  rw [done, MovesTo, put_same, same]
  exact .adds brought added

theorem requestDeletion_movesTo (id : ObjectId) (session : Session) :
    MovesTo session (.requestDeletion id)
      ((do inStore (Depot.requestDeletion id (← Attempt.state).now.iso) : Attempt Session Unit).bare session) := by
  rw [Attempt.bare_bind, Attempt.bare_read, Attempt.read_then]
  have marks := Depot.requestDeletion_marks id session.now.iso (session.depot session.current)
  rcases ran : (Depot.requestDeletion id session.now.iso).bare (session.depot session.current) with
    ⟨result, depot, notes⟩
  rw [ran] at marks
  obtain ⟨after, done, same⟩ := bare_inStore_of ran
  rw [done, MovesTo, same]
  exact .marks marks

theorem turn_movesTo {session before : Session} (place : Option String) {command : CloudCommand}
    {attempt : Attempt Workspace α} (same : before.scene = session.scene)
    (turns : ∀ workspace, Workspace.TurnsTo command workspace (attempt.bare workspace)) :
    MovesTo session (.cloud place command) ((inWorkspace (place.getD session.home) attempt).bare before) := by
  have turn := turns (before.workspace (place.getD session.home))
  rcases ran : attempt.bare (before.workspace (place.getD session.home)) with ⟨result, workspace, notes⟩
  rw [ran, ← scene_workspaces, same] at turn
  obtain ⟨after, done, put⟩ := bare_inWorkspace_of ran
  rw [done, MovesTo, put, same]
  exact .turns turn

theorem turn_answered {session : Session} {place : Option String} {command : CloudCommand}
    {attempt : Attempt Workspace α} {answer : α → Attempt Session Answer}
    (turns : ∀ workspace, Workspace.TurnsTo command workspace (attempt.bare workspace))
    (answers : ∀ value, (answer value).Keeps scene) :
    MovesTo session (.cloud place command)
      ((inWorkspace (place.getD session.home) attempt >>= answer).bare session) :=
  movesTo_answered (turn_movesTo place rfl turns) answers

theorem keeps_touch (name : String) : (inWorkspace name (pure ())).Keeps scene := by
  intro before
  have nothing : (pure () : Attempt Workspace Unit).bare (before.workspace name) =
    ⟨.ok (), before.workspace name, []⟩ := rfl
  obtain ⟨after, done, same⟩ := bare_inWorkspace_of nothing
  rw [done]
  exact ⟨same.trans (Scene.withWorkspace_of_eq rfl), rfl⟩

theorem callCreate_movesTo (place : Option String) (value : Value) (session : Session) :
    MovesTo session (.cloud place (.createJob value))
      ((callCloud (place.getD session.home) (.createJob value)).bare session) := by
  refine movesTo_after (keeps_touch _) fun _ touched _ same => ?_
  cases read : ImportRequest.ofFields value with
  | error fault =>
    change Moves session _ touched.scene []
    rw [same]
    exact .rests
  | ok request =>
    have created := turn_movesTo place same (Workspace.createJob_turns value request)
    change MovesTo session _ ((inWorkspace (place.getD session.home) (Workspace.createJob request) >>= fun jobId =>
      pure (Answer.jobId jobId)).bare touched)
    exact movesTo_answered created fun jobId => Attempt.keeps_pure scene (Answer.jobId jobId)


theorem callCloud_movesTo (place : Option String) (command : CloudCommand) (session : Session) :
    MovesTo session (.cloud place command) ((callCloud (place.getD session.home) command).bare session) := by
  have done (answer : Answer) : (pure answer : Attempt Session Answer).Keeps scene := Attempt.keeps_pure scene answer
  cases command with
  | addImage name imageId => exact turn_answered (fun _ => .imageAdded) fun _ => done _
  | startJob jobId => exact turn_answered (Workspace.startJob_turns jobId) fun _ => done _
  | completeJob jobId => exact turn_answered (Workspace.completeJob_turns jobId) fun _ => done _
  | failJob jobId message => exact turn_answered (Workspace.failJob_turns jobId message) fun _ => done _
  | getJob jobId => exact turn_answered (fun before => .rests (.refl before) (Workspace.noted_nil _ _)) fun _ => done _
  | deleteJob jobId => exact turn_answered (Workspace.deleteJob_turns jobId) fun _ => done _
  | listImages => exact turn_answered Workspace.listImages_turns fun _ => done _
  | createJob value => exact callCreate_movesTo place value session
  | latestJob instanceId =>
    refine turn_answered (Workspace.latestJob_turns instanceId) fun job => ?_
    cases job <;> exact done _
  | deleteImage imageId => exact turn_answered (Workspace.deleteImage_turns imageId) fun _ => done _
  | inject operation message kind =>
    refine turn_answered (fun before => .rests ?_ (Workspace.noted_nil _ _)) fun _ => done _
    exact Workspace.inject_alike operation message kind before
  | schedule due =>
    exact turn_answered (fun _ => .rests ⟨rfl, rfl, rfl, rfl⟩ (Workspace.noted_nil _ _)) fun _ => done _
  | clear => exact turn_answered (fun _ => .rests ⟨rfl, rfl, rfl, rfl⟩ (Workspace.noted_nil _ _)) fun _ => done _

theorem step_movesTo {command : Command} (routine : command.isRoutine = true) (session : Session) :
    MovesTo session command ((step command).bare session) := by
  have done (answer : Answer) : (pure answer : Attempt Session Answer).Keeps scene := Attempt.keeps_pure scene answer
  cases command with
  | add source keep =>
    unfold step
    rw [← bind_assoc]
    exact movesTo_answered (add_movesTo rfl Depot.addObject_adds) fun _ => done _
  | addWritten source keep =>
    unfold step
    rw [← bind_assoc]
    exact movesTo_answered (add_movesTo rfl Depot.addWritten_adds) fun _ => done _
  | get id keep =>
    refine moves_of_keeps ((keeps_getObject id).bind fun stored => ?_) _
    cases stored with
    | none => exact done _
    | some image => exact (keeps_keep keep image none).bind fun _ => done _
  | list keep index => exact moves_of_keeps (keeps_listStored keep index) _
  | kept name => exact moves_of_keeps ((keeps_keptImage name).bind fun held => done _) _
  | requestDeletion id =>
    unfold step
    rw [← bind_assoc]
    exact movesTo_answered (requestDeletion_movesTo id session) fun _ => done _
  | listen change listener handle reaction =>
    exact moves_of_keeps ((keeps_listen change listener handle reaction).bind fun _ => done _) _
  | unlisten handle => exact moves_of_keeps ((keeps_unlisten handle).bind fun _ => done _) _
  | setNow now =>
    refine moves_of_keeps ?_ _
    exact Attempt.Keeps.bind (Attempt.keeps_update fun _ => rfl) fun _ => done _
  | writeFile path text => exact moves_of_keeps ((keeps_onTree _).bind fun _ => done _) _
  | makeFolder path => exact moves_of_keeps ((keeps_onTree _).bind fun _ => done _) _
  | deleteFile path => exact moves_of_keeps ((keeps_onTree _).bind fun _ => done _) _
  | deleteRoot => exact moves_of_keeps ((keeps_onTree _).bind fun _ => done _) _
  | files =>
    refine moves_of_keeps ((Attempt.keeps_read scene).bind fun before => ?_) _
    cases shown : before.files with
    | none => simpa only [shown] using Attempt.keeps_fail scene _
    | some files => simpa only [shown] using done _
  | pathFor id =>
    refine moves_of_keeps ((Attempt.keeps_read scene).bind fun before => ?_) _
    cases before.disk with
    | none => exact (Attempt.keeps_fail scene _).bind fun _ => (Attempt.keeps_of scene _).bind fun _ => done _
    | some disk => exact (Attempt.keeps_of scene _).bind fun _ => done _
  | cloud place command =>
    unfold step
    rw [Attempt.bare_bind, Attempt.bare_read, Attempt.read_then]
    exact callCloud_movesTo place command session
  | reconcile id =>
    unfold step
    exact movesTo_answered (.reconciles rfl rfl (reconcile_passesOver id session)) fun _ => done _
  | setRegistry registry =>
    refine moves_of_keeps ?_ _
    exact Attempt.Keeps.bind (Attempt.keeps_update fun _ => rfl) fun _ => done _
  | state => exact moves_of_keeps ((Attempt.keeps_read scene).bind fun _ => done _) _
  | persist | changeKept | modify | load | reopen | «open» | within | scope => cases routine

theorem step_moves {command : Command} (routine : command.isRoutine = true) (session : Session) :
    ∃ after notes, (step command session).state.scene = after ∧ ((step command).bare session).notes = notes ∧
      Moves session command after notes :=
  ⟨_, _, rfl, rfl, step_movesTo routine session⟩

theorem step_reconcile_state (id : ObjectId) (session : Session) :
    (step (.reconcile id) session).state = ((reconcile id).bare session).state := by
  unfold step
  rcases ran : reconcile id session with ⟨fault | requeue, after, notes⟩
  · rw [Attempt.bind_of_error ran, Attempt.bare_state, ran]
  · rw [Attempt.bind_of_ok ran, Attempt.bare_state, ran]
    rfl

end Session

end ImageOperator
