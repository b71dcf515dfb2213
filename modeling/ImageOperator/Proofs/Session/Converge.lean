import ImageOperator.Proofs.Scope.Stage
import ImageOperator.Proofs.Session.Steady

set_option autoImplicit false

namespace ImageOperator

theorem Workspace.bare_completeJob_of {jobId : String} {record : JobRecord} {workspace : Workspace}
    (known : workspace.record? jobId = some record) :
    (completeJob jobId).bare workspace =
      ⟨.ok ((workspace.setJob jobId .completed none).addImage record.request.imageName "").1,
        ((workspace.setJob jobId .completed none).addImage record.request.imageName "").2, []⟩ := by
  unfold completeJob
  rw [Attempt.bare_bind, Attempt.bind_of_ok (bare_moveJob_of known _ _)]
  rfl

theorem Workspace.record?_of_latest {workspace : Workspace} {job : Job} (latest : workspace.latest? = some job) :
    ∃ record, workspace.record? job.jobId = some record := by
  obtain ⟨record, last, rfl⟩ := Option.map_eq_some_iff.mp latest
  refine Option.isSome_iff_exists.mp (List.find?_isSome.mpr ⟨record, List.mem_of_getLast? last, ?_⟩)
  exact decide_eq_true rfl

namespace Session

open Pass (Advances Stage Settled)
open Workspace (Completes Reachable)

/-- The session once the latest job of a workspace is completed, if it is still on its way. -/
def completeLatest (name : String) (session : Session) : Session :=
  match (session.workspace name).latest? with
  | none => session
  | some job =>
    if job.state.isTerminal then session
    else (step (.cloud (some name) (.completeJob job.jobId)) session).state

/-- The session after so many rounds, each a pass over the object and then the completion of the latest job. -/
def rounds (id : ObjectId) (name : String) : Nat → Session → Session
  | 0, session => session
  | count + 1, session => completeLatest name (step (.reconcile id) (rounds id name count session)).state

theorem step_completeJob_scene {session : Session} {name jobId : String} {record : JobRecord}
    (known : (session.workspace name).record? jobId = some record) :
    (step (.cloud (some name) (.completeJob jobId)) session).state.scene =
      session.scene.withWorkspace name
        (((session.workspace name).setJob jobId .completed none).addImage record.request.imageName "").2 := by
  obtain ⟨after, done, same⟩ := bare_inWorkspace_of (Workspace.bare_completeJob_of known)
  rw [← Attempt.bare_state]
  unfold step
  rw [Attempt.bare_bind, Attempt.bare_read, Attempt.read_then]
  change ((inWorkspace name (Workspace.completeJob jobId) >>= fun image =>
    pure (Answer.cloudImage image)).bare session).state.scene = _
  rw [Attempt.bare_bind, Attempt.bind_of_ok done]
  exact same

/-- Completing the latest job changes nothing but the workspace that holds it. -/
theorem completeLatest_completes (name : String) (session : Session) :
    ∃ later, Completes (session.workspace name) later ∧
      (completeLatest name session).scene = session.scene.withWorkspace name later := by
  unfold completeLatest
  cases latest : (session.workspace name).latest? with
  | none =>
    refine ⟨_, .ended fun job held => ?_, (Scene.withWorkspace_of_eq rfl).symm⟩
    rw [latest] at held
    cases held
  | some job =>
    cases running : job.state.isTerminal with
    | true =>
      refine ⟨_, .ended fun other held => ?_, ?_⟩
      · rw [latest] at held
        cases held
        exact running
      · simp only [running, ↓reduceIte]
        exact (Scene.withWorkspace_of_eq rfl).symm
    | false =>
      obtain ⟨record, known⟩ := Workspace.record?_of_latest latest
      refine ⟨_, .completed latest running known, ?_⟩
      simp only [running, Bool.false_eq_true, ↓reduceIte]
      exact step_completeJob_scene known

variable {session : Session} {id : ObjectId} {key : ObjectKey} {name : String} {image : Image}

theorem Tends.completes {scene : Scene} {later : Workspace} (tends : Tends scene key name image)
    (completes : Completes (scene.workspaces name) later) : Tends (scene.withWorkspace name later) key name image := by
  obtain ⟨command, notes, turns⟩ := completes.turns
  have workspace := scene.withWorkspace_self name later
  exact {
    known := tends.known
    stored := tends.stored
    kept := tends.kept
    sound := tends.sound
    served := tends.served
    own := by rw [workspace, turns.lasting.1, tends.own]
    named := workspace.symm ▸ tends.named.turns turns
    numbered := workspace.symm ▸ tends.numbered.turns turns }

/-- A round brings the object on by a pass, then completes the job that is on its way. -/
theorem Tends.round (tends : Tends session.scene key name image) (known : id.key? = some key)
    (unhindered : Unhindered id session) :
    ∃ bench asked, Advances ⟨image, session.workspace name⟩ bench asked ∧
      Completes bench.workspace ((rounds id name 1 session).workspace name) ∧
        Tends (rounds id name 1 session).scene key name bench.image := by
  obtain ⟨-, bench, asked, comes⟩ := tends.pass known unhindered
  obtain ⟨later, completes, scene⟩ := completeLatest_completes name (step (.reconcile id) session).state
  have completed := (comes.tends tends).completes completes
  have workspace : (rounds id name 1 session).workspace name = later := by
    rw [← scene_workspaces, rounds, rounds, scene, Scene.withWorkspace_self]
  refine ⟨bench, asked, comes.advances, ?_, ?_⟩
  · rw [workspace, ← comes.workspace]
    exact completes
  · rw [rounds, rounds, scene]
    exact completed

/-- Each of the first three rounds brings the import a stage further. -/
theorem Tends.reaches (tends : Tends session.scene key name image) (known : id.key? = some key) {count : Nat}
    (few : count ≤ 3) (unhindered : ∀ earlier < count, Unhindered id (rounds id name earlier session)) :
    ∃ last, Tends (rounds id name count session).scene key name last ∧ last.name = image.name ∧
      Stage ⟨last, (rounds id name count session).workspace name⟩ count := by
  induction count with
  | zero => exact ⟨image, tends, rfl, .begun⟩
  | succ count ih =>
    obtain ⟨last, reached, same, stage⟩ := ih (Nat.le_of_succ_le few) fun earlier below =>
      unhindered earlier (Nat.lt_succ_of_lt below)
    obtain ⟨bench, asked, advances, completes, tended⟩ :=
      reached.round known (unhindered count (Nat.lt_succ_self count))
    have name := congrArg ObjectId.name advances.akin.id
    exact ⟨bench.image, tended, name.trans same, advances.stage completes stage few reached.own reached.named
      reached.numbered (Image.same_name reached.known)⟩

/-- Once an image is recorded, a round leaves the object as it is and the image the first one listed. -/
theorem recorded_of_round {bench : Bench} {workspace later : Workspace} {asked : Nat}
    (recorded : Stage ⟨image, workspace⟩ 3) (advances : Advances ⟨image, workspace⟩ bench asked)
    (completes : Completes bench.workspace later) : bench.image = image ∧ Stage ⟨image, later⟩ 3 := by
  cases recorded with
  | @recorded found first guarded status =>
    obtain ⟨kept, alike, -⟩ := advances.rests (.recorded first guarded status)
    have same : (Bench.mk image bench.workspace).match? = (Bench.mk image workspace).match? :=
      Bench.match?_of_alike rfl alike
    exact ⟨kept, .recorded (Bench.match?_of_completes completes (same.trans first)) guarded status⟩

theorem Tends.stays (tends : Tends session.scene key name image) (known : id.key? = some key)
    (recorded : Stage ⟨image, session.workspace name⟩ 3) {count : Nat}
    (unhindered : ∀ earlier < count, Unhindered id (rounds id name earlier session)) :
    Tends (rounds id name count session).scene key name image ∧
      Stage ⟨image, (rounds id name count session).workspace name⟩ 3 := by
  induction count with
  | zero => exact ⟨tends, recorded⟩
  | succ count ih =>
    obtain ⟨reached, still⟩ := ih fun earlier below => unhindered earlier (Nat.lt_succ_of_lt below)
    obtain ⟨bench, asked, advances, completes, tended⟩ :=
      reached.round known (unhindered count (Nat.lt_succ_self count))
    obtain ⟨same, again⟩ := recorded_of_round still advances completes
    exact ⟨same ▸ tended, again⟩

/-- Two images in one workspace, whose latest job is on its way for the other one. -/
def queued : List Command :=
  [Trial.add "m", Trial.add "n", .reconcile (Trial.id "n")]

end Session

end ImageOperator
