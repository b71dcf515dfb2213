import ImageOperator.Proofs.Scope.Advance

set_option autoImplicit false

namespace ImageOperator

namespace Workspace

/-- Workspaces whose jobs differ at most by one of a given identifier, which the later one may lack. -/
structure Spares (jobId : String) (before after : Workspace) : Prop where
  left : ∀ record ∈ after.jobs, record ∈ before.jobs
  others : ∀ record ∈ before.jobs, record.job.jobId ≠ jobId → record ∈ after.jobs
  serial : after.serial = before.serial

theorem spares_of_same {jobId : String} {before after : Workspace} (jobs : after.jobs = before.jobs)
    (serial : after.serial = before.serial) : Spares jobId before after where
  left := fun _ held => jobs ▸ held
  others := fun _ held _ => jobs ▸ held
  serial := serial

theorem Alike.spares {before after : Workspace} (alike : Alike before after) (jobId : String) :
    Spares jobId before after :=
  spares_of_same alike.jobs alike.serial

theorem Spares.trans {jobId : String} {before middle after : Workspace} (first : Spares jobId before middle)
    (second : Spares jobId middle after) : Spares jobId before after where
  left := fun record held => first.left record (second.left record held)
  others := fun record held other => second.others record (first.others record held other) other
  serial := second.serial.trans first.serial

theorem deleteImage_spares {imageId : String} {workspace after : Workspace} {result : Except Fault Unit}
    {notes : List Note} (called : (deleteImage imageId).bare workspace = ⟨result, after, notes⟩) (jobId : String) :
    Spares jobId workspace after := by
  cases made : workspace.fault? .deleteImage with
  | some fault =>
    rw [deleteImage_of_fault made, Outcome.mk.injEq] at called
    exact called.2.1 ▸ spares_of_same rfl rfl
  | none =>
    rw [deleteImage_of_calm made, Outcome.mk.injEq] at called
    exact called.2.1 ▸ spares_of_same rfl rfl

theorem deleteJob_spares {jobId : String} {workspace after : Workspace} {result : Except Fault Unit}
    {notes : List Note} (called : (deleteJob jobId).bare workspace = ⟨result, after, notes⟩) :
    Spares jobId workspace after := by
  cases made : workspace.fault? .deleteJob with
  | some fault =>
    rw [deleteJob_of_fault made, Outcome.mk.injEq] at called
    exact called.2.1 ▸ spares_of_same rfl rfl
  | none =>
    rw [deleteJob_of_calm made, Outcome.mk.injEq] at called
    obtain ⟨-, rfl, -⟩ := called
    refine ⟨fun record held => (List.mem_filter.mp held).1, fun record held other => ?_, rfl⟩
    exact List.mem_filter.mpr ⟨held, by simpa using other⟩

end Workspace

namespace Pass

open Bench (Ensures)
open Workspace (Alike Spares)

variable {config : Config} {bench after : Bench} {asked : Nat}

theorem tracked_of_tracks {image : Image} (tracked : tracks image = true) (job : Job) :
    image.status.tracked job = image.status.jobId := by
  simp only [tracks, Bool.and_eq_true, decide_eq_true_eq] at tracked
  simp [Image.Status.tracked, tracked]

theorem tracked_of_idle {image : Image} (idle : tracks image = false) (job : Job) :
    image.status.tracked job = job.jobId := by
  unfold Image.Status.tracked
  split
  · rfl
  · rename_i own
    simp_all [tracks]

/-- What a pass makes of the job that the status names, and of the jobs that there are. -/
inductive Follows (bench after : Bench) : Prop
  | keeps (same : after.image.status.jobId = bench.image.status.jobId ∨ after.image.status.jobId = "")
      (spares : Spares bench.image.status.jobId bench.workspace after.workspace)
  | submits (own : after.image.status.jobId = Workspace.jobIdOf (bench.workspace.serial + 1))
      (alike : Alike bench.imported.workspace after.workspace)
  | adopts {record : JobRecord} (kept : bench.image.deletionRequested = false) (unlisted : bench.match? = none)
      (idle : tracks bench.image = false) (last : bench.workspace.jobs.getLast? = some record) 
      (running : record.job.state.isTerminal = false) (taken : after.image.status.jobId = record.job.jobId)
      (alike : Alike bench.workspace after.workspace)

theorem Advances.follows (advances : Advances bench after asked) (kept : bench.image.deletionRequested = false) :
    Follows bench after := by
  cases advances with
  | failed seen alike asks | found unseen first alike asks =>
    have status : bench.image.guarded.status.jobId = bench.image.status.jobId := by rw [Image.guarded_status]
    exact .keeps (.inl status) (alike.spares _)
  | @pending job workspace unseen absent latest running alike asks =>
    have status : bench.image.guarded.status.tracked job = bench.image.status.tracked job := by
      rw [Image.guarded_status]
    cases tracked : tracks bench.image with
    | true => exact .keeps (.inl (status.trans (tracked_of_tracks tracked job))) (alike.spares _)
    | false =>
      obtain ⟨-, latest⟩ := Bench.latest?_eq_some.mp latest
      obtain ⟨record, last, rfl⟩ := Option.map_eq_some_iff.mp latest
      exact .adopts kept absent tracked last running (status.trans (tracked_of_idle tracked record.job)) alike
  | created unseen absent free alike asks => exact .submits rfl alike

theorem Normal.follows {outcome : Outcome Bench Requeue} (normal : Normal config bench outcome)
    (kept : bench.image.deletionRequested = false) : Follows bench outcome.state := by
  have status := congrArg Image.Status.jobId bench.image.guarded_status
  rcases outcome with ⟨fault | requeue, after, notes⟩
  · cases normal with
    | unasked looked => exact .keeps (.inl status) (looked.alike.spares _)
    | unsettled looked ensured =>
      exact .keeps (.inl status) ((looked.alike.spares _).trans ((ensures_alike ensured nofun).spares _))
  · obtain ⟨asked, advances⟩ := normal.advances
    exact advances.follows kept

theorem ClearsImage.spares {outcome : Outcome Bench Unit} (clears : ClearsImage bench outcome) (jobId : String) :
    outcome.state.image.status.jobId = bench.image.status.jobId ∧
      Spares jobId bench.workspace outcome.state.workspace := by
  cases clears with
  | blank unnamed => exact ⟨rfl, (Alike.refl _).spares _⟩
  | refused named called failed | cleared named called done => exact ⟨rfl, Workspace.deleteImage_spares called jobId⟩

theorem ClearsJob.spares {outcome : Outcome Bench Unit} (clears : ClearsJob bench outcome) :
    (outcome.state.image.status.jobId = bench.image.status.jobId ∨ outcome.state.image.status.jobId = "") ∧
      Spares bench.image.status.jobId bench.workspace outcome.state.workspace := by
  cases clears with
  | blank unnamed => exact ⟨.inl rfl, (Alike.refl _).spares _⟩
  | refused named called failed => exact ⟨.inl rfl, Workspace.deleteJob_spares called⟩
  | cleared named called done => exact ⟨.inr rfl, Workspace.deleteJob_spares called⟩

theorem Deletes.follows {outcome : Outcome Bench Requeue} (deletes : Deletes bench outcome) :
    Follows bench outcome.state := by
  cases deletes with
  | imageRefused image =>
    obtain ⟨same, spares⟩ := image.spares bench.image.status.jobId
    exact .keeps (.inl same) spares
  | jobRefused image job | cleared image job =>
    obtain ⟨same, first⟩ := image.spares bench.image.status.jobId
    obtain ⟨then_same, second⟩ := job.spares
    rw [same] at then_same second
    exact .keeps then_same (first.trans second)

theorem Works.follows {outcome : Outcome Bench Requeue} (works : Works config bench outcome) :
    Follows bench outcome.state := by
  cases works with
  | kept kept normal => exact normal.follows kept
  | requested requested deletes => exact deletes.follows

/-- A pass has the phase of an image fail only at the sight of the failure of the job that its status names. -/
theorem Works.seesFailure {outcome : Outcome Bench Requeue} (works : Works config bench outcome)
    (failed : outcome.state.image.status.phase = .failed) (sound : bench.image.status.phase ≠ .failed) :
    bench.seesFailure = true := by
  have status := congrArg Image.Status.phase bench.image.guarded_status
  cases works with
  | kept kept normal =>
    rcases outcome with ⟨fault | requeue, after, notes⟩
    · cases normal with
      | unasked looked | unsettled looked ensured => exact absurd (status.symm.trans failed) sound
    · obtain ⟨asked, advances⟩ := normal.advances
      cases advances with
      | failed seen alike asks => exact seen
      | found unseen first alike asks | pending unseen absent latest running alike asks
      | created unseen absent free alike asks => cases failed
  | requested requested deletes =>
    have first {outcome : Outcome Bench Unit} (clears : ClearsImage bench outcome) :
        outcome.state.image.status.phase = bench.image.status.phase := by
      cases clears <;> rfl
    cases deletes with
    | imageRefused image => exact absurd ((first image).symm.trans failed) sound
    | jobRefused image job | cleared image job =>
      refine absurd ((first image).symm.trans ?_) sound
      cases job <;> exact failed

end Pass

end ImageOperator
