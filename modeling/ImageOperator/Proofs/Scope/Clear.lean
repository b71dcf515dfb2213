import ImageOperator.Proofs.Cloud.Turns
import ImageOperator.Proofs.Scope.Pass

set_option autoImplicit false

namespace ImageOperator

/-- The deletes that are owed for what a status names. -/
inductive Image.Status.Holds (status : Image.Status) : Call → Prop
  | image (named : status.imageId ≠ "") : Holds status (.deleteImage status.imageId)
  | job (named : status.jobId ≠ "") : Holds status (.deleteJob status.jobId)

theorem Image.Status.holds_of_named {status : Image.Status} (named : status.imageId ≠ "" ∨ status.jobId ≠ "") :
    ∃ call, status.Holds call := by
  rcases named with image | job
  · exact ⟨_, .image image⟩
  · exact ⟨_, .job job⟩

/-- How a delete has to end for its target to be gone: it succeeds, or the target is not found. -/
def Gone (result : Except Fault Unit) : Prop :=
  result = .ok () ∨ ∃ fault, result = .error fault ∧ fault.category = .cloudAbsent

instance (result : Except Fault Unit) : Decidable (Gone result) :=
  match result with
  | .ok () => isTrue (.inl rfl)
  | .error fault => decidable_of_iff (fault.category = .cloudAbsent) <| by simp [Gone]

theorem gone_of_settled {result : Except Fault Unit} (done : Bench.settled result = .ok ()) : Gone result := by
  rcases result with fault | value
  · simp only [Bench.settled] at done
    split at done
    · rename_i absent
      exact .inr ⟨fault, rfl, absent⟩
    · cases done
  · exact .inl rfl

namespace Workspace

/-- Whether a call is a delete that leaves its target gone. -/
def Settles (workspace : Workspace) : Call → Prop
  | .deleteImage imageId => Gone (deleteImage imageId workspace).result
  | .deleteJob jobId => Gone (deleteJob jobId workspace).result
  | _ => False

instance (workspace : Workspace) (call : Call) : Decidable (workspace.Settles call) :=
  match call with
  | .deleteImage imageId => inferInstanceAs (Decidable (Gone (deleteImage imageId workspace).result))
  | .deleteJob jobId => inferInstanceAs (Decidable (Gone (deleteJob jobId workspace).result))
  | .listImages | .createJob _ | .latestJob _ => isFalse id

end Workspace

/-- Whether the notes tell of a call that left its target gone. -/
def Cleared (notes : List Note) (call : Call) : Prop :=
  ∃ workspace, .called workspace call ∈ notes ∧ workspace.Settles call

theorem Cleared.left {notes : List Note} {call : Call} (cleared : Cleared notes call) (more : List Note) :
    Cleared (notes ++ more) call := by
  obtain ⟨workspace, noted, settles⟩ := cleared
  exact ⟨workspace, List.mem_append_left _ noted, settles⟩

theorem Cleared.right {notes : List Note} {call : Call} (cleared : Cleared notes call) (more : List Note) :
    Cleared (more ++ notes) call := by
  obtain ⟨workspace, noted, settles⟩ := cleared
  exact ⟨workspace, List.mem_append_right _ noted, settles⟩

namespace Pass

theorem ClearsImage.refused_image {bench after : Bench} {fault : Fault} {notes : List Note}
    (clears : ClearsImage bench ⟨.error fault, after, notes⟩) : after.image = bench.image := by
  cases clears
  rfl

theorem ClearsJob.refused_image {bench after : Bench} {fault : Fault} {notes : List Note}
    (clears : ClearsJob bench ⟨.error fault, after, notes⟩) : after.image = bench.image := by
  cases clears
  rfl

/-- With its image cleared a status names none, and the rest is as it was but for being ready. -/
theorem ClearsImage.done {bench after : Bench} {notes : List Note}
    (clears : ClearsImage bench ⟨.ok (), after, notes⟩) :
    after.image.status.imageId = "" ∧ after.image.status.jobId = bench.image.status.jobId ∧
      after.image.finalizers = bench.image.finalizers ∧
      (bench.image.status.imageId ≠ "" → Cleared notes (.deleteImage bench.image.status.imageId)) := by
  cases clears with
  | blank unnamed => exact ⟨unnamed, rfl, rfl, fun named => absurd unnamed named⟩
  | cleared named called done =>
    obtain ⟨rfl, -⟩ := Workspace.deleteImage_cases called
    refine ⟨rfl, rfl, rfl, fun _ => ⟨bench.workspace, List.mem_singleton_self _, ?_⟩⟩
    change Gone (Workspace.deleteImage bench.image.status.imageId bench.workspace).result
    rw [← Attempt.bare_result, called]
    exact gone_of_settled done

theorem ClearsJob.done {bench after : Bench} {notes : List Note}
    (clears : ClearsJob bench ⟨.ok (), after, notes⟩) :
    after.image.status.jobId = "" ∧ after.image.status.imageId = bench.image.status.imageId ∧
      (bench.image.status.jobId ≠ "" → Cleared notes (.deleteJob bench.image.status.jobId)) := by
  cases clears with
  | blank unnamed => exact ⟨unnamed, rfl, fun named => absurd unnamed named⟩
  | cleared named called done =>
    obtain ⟨rfl, -⟩ := Workspace.deleteJob_within called
    refine ⟨rfl, rfl, fun _ => ⟨bench.workspace, List.mem_singleton_self _, ?_⟩⟩
    change Gone (Workspace.deleteJob bench.image.status.jobId bench.workspace).result
    rw [← Attempt.bare_result, called]
    exact gone_of_settled done

theorem ClearsJob.isConsistent {bench : Bench} {outcome : Outcome Bench Unit} (clears : ClearsJob bench outcome) :
    outcome.state.image.status.isConsistent = bench.image.status.isConsistent := by
  cases clears <;> rfl

theorem ClearsJob.finalizers {bench : Bench} {outcome : Outcome Bench Unit} (clears : ClearsJob bench outcome) :
    outcome.state.image.finalizers = bench.image.finalizers := by
  cases clears <;> rfl

/-- What a status held it still holds after a pass that deletes, unless the pass cleared it. -/
theorem Deletes.holds {bench : Bench} {outcome : Outcome Bench Requeue} (deletes : Deletes bench outcome) {call : Call}
    (holds : bench.image.status.Holds call) :
    outcome.state.image.status.Holds call ∨ Cleared outcome.notes call := by
  cases deletes with
  | imageRefused image =>
    rw [image.refused_image]
    exact .inl holds
  | jobRefused image job =>
    obtain ⟨blank, kept, _, cleared⟩ := image.done
    rw [job.refused_image]
    cases holds with
    | image named => exact .inr ((cleared named).left _)
    | job named =>
      rw [← kept]
      exact .inl (.job (kept ▸ named))
  | cleared image job =>
    obtain ⟨blank, kept, _, cleared⟩ := image.done
    cases holds with
    | image named => exact .inr ((cleared named).left _)
    | job named =>
      have jobCleared := job.done.2.2 (kept ▸ named)
      rw [kept] at jobCleared
      exact .inr (jobCleared.right _)

/-- A pass that deletes takes the finalizer from no image that still holds something. -/
theorem Deletes.finalizers {bench : Bench} {outcome : Outcome Bench Requeue} (deletes : Deletes bench outcome)
    {call : Call} (holds : outcome.state.image.status.Holds call) :
    outcome.state.image.finalizers = bench.image.finalizers ∧ ∃ before, bench.image.status.Holds before := by
  cases deletes with
  | imageRefused image =>
    have same := image.refused_image
    exact ⟨congrArg Image.finalizers same, call, same ▸ holds⟩
  | jobRefused image job =>
    obtain ⟨blank, kept, finalizers, _⟩ := image.done
    have same := job.refused_image
    refine ⟨(congrArg Image.finalizers same).trans finalizers, ?_⟩
    rw [same] at holds
    cases holds with
    | image named => exact absurd blank named
    | job named => exact ⟨_, .job (kept ▸ named)⟩
  | cleared image job =>
    obtain ⟨blank, _⟩ := image.done
    obtain ⟨jobBlank, kept, _⟩ := job.done
    cases holds with
    | image named => exact absurd (kept.trans blank) named
    | job named => exact absurd jobBlank named

end Pass

end ImageOperator
