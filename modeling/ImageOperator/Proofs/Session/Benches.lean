import ImageOperator.Proofs.Scope.Follow
import ImageOperator.Proofs.Session.Scopes

set_option autoImplicit false

/-!
What is done to workspaces from scopes. A scope that is opened has the stored image and the client that serves it; what
is done in it reaches its own workspace, and writes nothing to the store before the scope is closed.
-/

namespace ImageOperator

namespace Bench

/-- What a bench makes of its workspace: which jobs there are stays as it is, or the bench has made sure that its image
exists. -/
inductive Tries (bench : Bench) (after : Workspace) : Prop
  | spares (jobs : after.jobs = bench.workspace.jobs) (serial : after.serial = bench.workspace.serial)
      (instanceId : after.instanceId = bench.workspace.instanceId) : Tries bench after
  | ensures {outcome : Outcome Bench Ensured} (ensured : Ensures bench outcome)
      (reached : outcome.state.workspace = after) : Tries bench after

theorem Tries.refl (bench : Bench) : Tries bench bench.workspace :=
  .spares rfl rfl rfl

end Bench

namespace Session

open Bench (Tries)

variable {α : Type} {session after : Session}

/-- What opening scopes on stored images and working in them comes to. -/
inductive Handles (session after : Session) : Prop
  | rests (scene : after.scene = session.scene) (scopes : after.scopes = session.scopes) : Handles session after
  | opens {id : ObjectId} {scope : Scope} (scene : after.scene = session.scene)
      (copied : session.stored? id = some scope.image)
      (served : session.scene.clientOf scope.image = some scope.workspace)
      (scopes : after.scopes = session.scopes ++ [scope]) : Handles session after
  | works {index : Nat} {scope other : Scope} {workspace : Workspace} (held : session.scopes[index]? = some scope)
      (tries : Tries ⟨scope.image, session.workspace scope.workspace⟩ workspace)
      (scene : after.scene = session.scene.withWorkspace scope.workspace workspace)
      (spec : other.image.spec = scope.image.spec) (place : other.workspace = scope.workspace)
      (scopes : after.scopes = session.scopes.set index other) : Handles session after

theorem openScope_served (opening : Opening) (session : Session) {scope : Scope}
    (opened : (openScope opening session).result = .ok scope) :
    session.scene.clientOf scope.image = some scope.workspace := by
  obtain ⟨hasStore, image, channel, debug⟩ := opening
  cases hasStore with
  | false => cases opened
  | true =>
    cases image with
    | none => cases opened
    | some image =>
      have opens := openScope_opens session image channel debug
      rw [← Attempt.bare_result] at opened
      generalize (openScope ⟨true, some image, channel, debug⟩).bare session = outcome at opens opened
      cases opens with
      | refused other same => cases opened
      | opened served same =>
        cases opened
        exact served

theorem taken_handles {heard : Session} (scene : heard.scene = session.scene) (scopes : heard.scopes = session.scopes)
    {subject : Subject} (stored : ∀ source, subject ≠ .source source) (keep : Option String) (hasStore debug : Bool)
    (channel : Option Channel) (name : String) :
    Handles session ((do
      let image ← takeSubject subject keep
      let scope ← openScope ⟨hasStore, image, channel, debug⟩
      let index := (← Attempt.state).scopes.length
      Attempt.update fun session =>
        { session with
          scopes := session.scopes ++ [scope]
          scopeNames := (name, index) :: session.scopeNames }
      return index : Attempt Session Nat) heard).state := by
  have taken_scene := (keeps_takeSubject subject keep heard).1
  obtain ⟨taken_scopes, copied⟩ := takeSubject_copies stored keep heard
  rcases taken : takeSubject subject keep heard with ⟨fault | image, before, notes⟩
  all_goals
    rw [Attempt.bare_state] at taken_scene
    rw [taken] at taken_scene taken_scopes copied
  · rw [Attempt.bind_of_error taken]
    exact .rests (taken_scene.trans scene) (taken_scopes.trans scopes)
  · rw [Attempt.bind_of_ok taken]
    obtain ⟨opened_scene, asked⟩ := openScope_copies ⟨hasStore, image, channel, debug⟩ before
    have opened_scopes := preserves_openScope Session.scopes ⟨hasStore, image, channel, debug⟩ before
    have served := @openScope_served ⟨hasStore, image, channel, debug⟩ before
    have before_scene : before.scene = session.scene := taken_scene.trans scene
    have whole := opened_scene.trans before_scene
    have alone := opened_scopes.trans (taken_scopes.trans scopes)
    rcases opening : openScope ⟨hasStore, image, channel, debug⟩ before with ⟨fault | scope, after, told⟩
    all_goals rw [opening] at whole alone asked served
    · rw [Attempt.bind_of_error opening]
      exact .rests whole alone
    · rw [Attempt.bind_of_ok opening]
      obtain rfl : image = some scope.image := asked scope rfl
      obtain ⟨id, held⟩ := copied scope.image rfl
      have there := (stored?_of_objects (congrArg Scene.objects scene) id).symm.trans held
      refine .opens whole there (before_scene ▸ served rfl) ?_
      change after.scopes ++ [scope] = session.scopes ++ [scope]
      rw [alone]

theorem openNamed_handles {request : OpenRequest} (stored : ∀ source, request.subject ≠ .source source)
    (session : Session) : Handles session (openNamed request session).state := by
  obtain ⟨name, subject, hasStore, debug, logger, keep⟩ := request
  cases logger <;> exact taken_handles (by rfl) (by rfl) stored keep hasStore debug _ name

theorem atBench_handles {attempt : Voice → Attempt Bench α}
    (tries : ∀ voice bench, Tries bench (attempt voice bench).state.workspace)
    (spec : ∀ voice bench, (attempt voice bench).state.image.spec = bench.image.spec) (index : Nat)
    (session : Session) : Handles session (atBench index attempt session).state := by
  unfold atBench
  cases held : session.scopes[index]? with
  | none =>
    rw [Attempt.bind_of_error (scopeAt_of_none held)]
    exact .rests rfl rfl
  | some scope =>
    rw [Attempt.bind_of_ok (scopeAt_of held)]
    have put := scene_putWorkspace scope.workspace
      (attempt scope.voice ⟨scope.image, session.workspace scope.workspace⟩).state.workspace session
    have same : (Scope.image { scope with
        image := (attempt scope.voice ⟨scope.image, session.workspace scope.workspace⟩).state.image }).spec =
          scope.image.spec :=
      spec scope.voice ⟨scope.image, session.workspace scope.workspace⟩
    exact .works held (tries scope.voice _) put same rfl rfl

/-- What is answered at the end handles nothing. -/
theorem handles_answered {attempt : Attempt Session α} {answer : α → Attempt Session Answer}
    (handles : Handles session (attempt session).state) (answers : ∀ value after, (answer value after).state = after) :
    Handles session ((attempt >>= answer) session).state := by
  rcases ran : attempt session with ⟨fault | value, after, notes⟩
  all_goals rw [ran] at handles
  · rw [Attempt.bind_of_error ran]
    exact handles
  · rw [Attempt.bind_of_ok ran, answers]
    exact handles

theorem ensureImage_tries (voice : Voice) (bench : Bench) :
    Tries bench (Bench.ensureImage voice bench).state.workspace :=
  .ensures (Bench.ensureImage_ensures voice bench) rfl

theorem latestJob_tries (voice : Voice) (bench : Bench) :
    Tries bench (Bench.latestJob voice bench).state.workspace := by
  rw [← Attempt.bare_state, Bench.bare_latestJob]
  change Tries bench ((Workspace.latestJob bench.image.spec.workspace).bare bench.workspace).state
  cases made : bench.workspace.fault? .latestJob with
  | some fault =>
    rw [Workspace.latestJob_of_fault made]
    exact .spares rfl rfl rfl
  | none =>
    rw [Workspace.latestJob_of_calm made]
    exact .spares rfl rfl rfl

theorem deleteImage_tries (voice : Voice) (bench : Bench) :
    Tries bench (Bench.deleteImage voice bench).state.workspace := by
  have turns := Workspace.deleteImage_turns bench.image.status.imageId bench.workspace
  rcases called : (Workspace.deleteImage bench.image.status.imageId).bare bench.workspace with ⟨result, after, notes⟩
  rw [called] at turns
  rw [← Attempt.bare_state, Bench.deleteImage_of voice called]
  exact .spares (Workspace.deleteImage_cases called).2.1 (Workspace.deleteImage_spares called "").serial turns.lasting.1

theorem latestJob_image (voice : Voice) (bench : Bench) :
    (Bench.latestJob voice bench).state.image = bench.image := by
  rw [← Attempt.bare_state, Bench.bare_latestJob]
  rfl

theorem deleteImage_image (voice : Voice) (bench : Bench) :
    (Bench.deleteImage voice bench).state.image = bench.image := by
  rcases called : (Workspace.deleteImage bench.image.status.imageId).bare bench.workspace with ⟨result, after, notes⟩
  rw [← Attempt.bare_state, Bench.deleteImage_of voice called]

theorem addFinalizer_spec (name : Value) (bench : Bench) :
    (Bench.addFinalizer name bench).state.image.spec = bench.image.spec := by
  rw [← Attempt.bare_state, Bench.bare_addFinalizer]
  unfold Image.addFinalizer
  split <;> rfl

theorem removeFinalizer_spec (name : Value) (bench : Bench) :
    (Bench.removeFinalizer name bench).state.image.spec = bench.image.spec := by
  rw [← Attempt.bare_state, Bench.bare_removeFinalizer]
  unfold Image.removeFinalizer
  rfl

theorem addFinalizer_workspace (name : Value) (bench : Bench) :
    (Bench.addFinalizer name bench).state.workspace = bench.workspace := by
  rw [← Attempt.bare_state, Bench.bare_addFinalizer]

theorem removeFinalizer_workspace (name : Value) (bench : Bench) :
    (Bench.removeFinalizer name bench).state.workspace = bench.workspace := by
  rw [← Attempt.bare_state, Bench.bare_removeFinalizer]

theorem callScope_handles {call : ScopeCall} (open_still : call ≠ .close) (spares : call ≠ .deleteJob) (index : Nat)
    (session : Session) : Handles session (callScope index call session).state := by
  have asked {answer : Scope → Attempt Session Answer} (answers : ∀ value after, (answer value after).state = after) :
      Handles session ((scopeAt index >>= answer) session).state :=
    handles_answered (by rw [scopeAt_state]; exact .rests rfl rfl) answers
  -- What only changes the copy of a scope makes nothing of its workspace.
  have worked {attempt : Voice → Attempt Bench Unit}
      (quiet : ∀ voice bench, (attempt voice bench).state.workspace = bench.workspace)
      (spec : ∀ voice bench, (attempt voice bench).state.image.spec = bench.image.spec) :
      Handles session ((atBench index attempt >>= fun _ => pure Answer.done) session).state := by
    refine handles_answered (atBench_handles (fun voice bench => ?_) spec index session) fun _ _ => rfl
    rw [quiet voice bench]
    exact .refl bench
  cases call with
  | close => exact absurd rfl open_still
  | deleteJob => exact absurd rfl spares
  | ensureImage =>
    have kept (voice : Voice) (bench : Bench) :
        (Bench.ensureImage voice bench).state.image.spec = bench.image.spec :=
      congrArg Image.spec (Bench.ensureImage_ensures voice bench).image
    exact handles_answered (atBench_handles ensureImage_tries kept index session) fun _ _ => rfl
  | latestJob =>
    have kept (voice : Voice) (bench : Bench) : (Bench.latestJob voice bench).state.image.spec = bench.image.spec :=
      congrArg Image.spec (latestJob_image voice bench)
    exact handles_answered (atBench_handles latestJob_tries kept index session) fun job after => by cases job <;> rfl
  | deleteImage =>
    have kept (voice : Voice) (bench : Bench) : (Bench.deleteImage voice bench).state.image.spec = bench.image.spec :=
      congrArg Image.spec (deleteImage_image voice bench)
    exact handles_answered (atBench_handles deleteImage_tries kept index session) fun _ _ => rfl
  | setReady ready => exact worked (fun _ _ => rfl) fun _ _ => rfl
  | setJobId jobId => exact worked (fun _ _ => rfl) fun _ _ => rfl
  | setImageId imageId =>
    cases imageId with
    | none => exact .rests rfl rfl
    | some imageId => exact worked (fun _ _ => rfl) fun _ _ => rfl
  | setPhase text =>
    cases known : Phase.ofText? text with
    | none =>
      simp only [callScope, known]
      exact .rests rfl rfl
    | some phase =>
      simp only [callScope, known]
      exact worked (fun _ _ => rfl) fun _ _ => rfl
  | addFinalizer name => exact worked (fun _ => addFinalizer_workspace name) fun _ => addFinalizer_spec name
  | removeFinalizer name => exact worked (fun _ => removeFinalizer_workspace name) fun _ => removeFinalizer_spec name
  | closed | image | client | isReady | imageId | phase | jobId | hasFinalizer => exact asked fun _ _ => rfl
  | keepImage name =>
    have keeps : (callScope index (.keepImage name)).Keeps scene := by
      refine Attempt.Keeps.bind ?_ fun scope => (keeps_keep _ _ _).bind fun _ => Attempt.keeps_pure scene _
      refine (Attempt.keeps_read scene).bind fun session => ?_
      cases session.scopes[index]? with
      | none => exact Attempt.keeps_fail scene _
      | some scope => exact Attempt.keeps_pure scene _
    have preserves : (callScope index (.keepImage name)).Preserves scopes := by
      refine Attempt.Preserves.bind (fun session => congrArg scopes (scopeAt_state index session)) fun scope => ?_
      exact (preserves_keep scopes _ _ _).bind fun _ => Attempt.preserves_pure scopes _
    exact .rests (keeps session).1 (preserves session)

theorem preserves_onTree (steps : Tree → Except FileFault Unit × Tree) : (onTree steps).Preserves scopes := by
  refine (Attempt.preserves_read scopes).bind fun session => ?_
  cases session.disk with
  | none => exact Attempt.preserves_fail scopes _
  | some disk =>
    rcases taken : steps disk.tree with ⟨fault | done, tree⟩
    · simp only [taken]
      exact Attempt.Preserves.bind (Attempt.preserves_update fun _ => rfl) fun _ => Attempt.preserves_fail scopes _
    · simp only [taken]
      exact Attempt.preserves_update fun _ => rfl

/-- Routine commands leave the scopes alone. -/
theorem step_preserves {command : Command} (routine : command.isRoutine = true) : (step command).Preserves scopes := by
  have done (answer : Answer) : (pure answer : Attempt Session Answer).Preserves scopes :=
    Attempt.preserves_pure scopes answer
  cases command with
  | add source keep | addWritten source keep =>
    refine (preserves_takeSource scopes source keep).bind fun image => ?_
    exact (preserves_inStore scopes _).bind fun _ => done _
  | get id keep =>
    refine (preserves_inStore Session.scopes _).bind fun stored => ?_
    cases stored with
    | none => exact done _
    | some image => exact (preserves_keep scopes keep image none).bind fun _ => done _
  | requestDeletion id =>
    exact (Attempt.preserves_read scopes).bind fun _ => (preserves_inStore Session.scopes _).bind fun _ => done _
  | listen change listener handle reaction =>
    refine Attempt.Preserves.bind ?_ fun _ => done _
    unfold listen
    cases Change.ofText? change with
    | none => exact Attempt.preserves_fail scopes _
    | some change =>
      refine (Attempt.preserves_read scopes).bind fun session => ?_
      exact Attempt.Preserves.bind (Attempt.preserves_update fun _ => rfl) fun _ => preserves_inStore Session.scopes _
  | unlisten handle =>
    refine Attempt.Preserves.bind ?_ fun _ => done _
    refine (Attempt.preserves_read scopes).bind fun session => ?_
    cases session.handles.lookup handle with
    | none => exact Attempt.preserves_fail scopes _
    | some index => exact preserves_inDepot Session.scopes index _
  | writeFile path text => exact (preserves_onTree _).bind fun _ => done _
  | makeFolder path => exact (preserves_onTree _).bind fun _ => done _
  | deleteFile path => exact (preserves_onTree _).bind fun _ => done _
  | deleteRoot => exact (preserves_onTree _).bind fun _ => done _
  | reconcile id => exact (preserves_reconcile Session.scopes id).bind fun _ => done _
  | list | kept | setNow | setRegistry | files | pathFor | cloud | state => exact step_aside scopes rfl
  | persist | changeKept | modify | load | reopen | «open» | within | scope => cases routine

end Session

end ImageOperator
