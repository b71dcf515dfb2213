import ImageOperator.Proofs.Cloud.Turns

set_option autoImplicit false

namespace ImageOperator.Workspace

/-- No image and no job is without an identifier. -/
structure Named (workspace : Workspace) : Prop where
  images : ∀ image ∈ workspace.images, image.imageId ≠ ""
  jobs : ∀ record ∈ workspace.jobs, record.job.jobId ≠ ""

theorem imageIdOf_ne (serial : Nat) : imageIdOf serial ≠ "" := by
  intro empty
  have length := congrArg String.length empty
  simp [imageIdOf] at length

theorem jobIdOf_ne (serial : Nat) : jobIdOf serial ≠ "" := by
  intro empty
  have length := congrArg String.length empty
  simp [jobIdOf] at length

theorem named_empty (name : String) : Named (empty name) where
  images := by
    intro image member
    cases member
  jobs := by
    intro record member
    cases member

theorem Named.of_same {before after : Workspace} (named : Named before) (images : after.images = before.images)
    (jobs : after.jobs = before.jobs) : Named after where
  images := images ▸ named.images
  jobs := jobs ▸ named.jobs

theorem Named.written {workspace : Workspace} (named : Named workspace) (call : Call) :
    Named (workspace.written call) :=
  named.of_same rfl rfl

theorem Named.addImage {workspace : Workspace} (named : Named workspace) (name : Value) (imageId : String) :
    Named (workspace.addImage name imageId).2 := by
  unfold Workspace.addImage
  split
  · refine ⟨fun image member => ?_, named.jobs⟩
    rcases List.mem_append.mp member with old | new
    · exact named.images image old
    · rw [List.mem_singleton.mp new]
      exact imageIdOf_ne _
  · rename_i given
    refine ⟨fun image member => ?_, named.jobs⟩
    rcases List.mem_append.mp member with old | new
    · exact named.images image old
    · rw [List.mem_singleton.mp new]
      simpa using given

theorem Named.withJob {workspace : Workspace} (named : Named workspace) (request : ImportRequest) :
    Named (workspace.withJob request) where
  images := named.images
  jobs := by
    intro record member
    rcases List.mem_append.mp member with old | new
    · exact named.jobs record old
    · rw [List.mem_singleton.mp new]
      exact jobIdOf_ne _

theorem Named.setJob {workspace : Workspace} (named : Named workspace) (jobId : String) (state : JobState)
    (message : Option String) : Named (workspace.setJob jobId state message) where
  images := named.images
  jobs := by
    intro record member
    obtain ⟨old, held, rfl⟩ := List.mem_map.mp member
    split <;> exact named.jobs old held

theorem Named.turns {before after : Workspace} {command : CloudCommand} {notes : List Note} (named : Named before)
    (turns : Turns before command after notes) : Named after := by
  cases turns with
  | rests alike noted => exact named.of_same alike.images alike.jobs
  | imageAdded => exact named.addImage _ _
  | @imageDeleted imageId _ alike =>
    have left : Named (before.withoutImage imageId) :=
      ⟨fun image member => named.images image (List.mem_of_mem_eraseP member), named.jobs⟩
    exact left.of_same alike.images alike.jobs
  | jobMoved progress known unfinished => exact named.setJob _ _ _
  | jobCompleted known => exact (named.setJob _ _ _).addImage _ _
  | @jobDeleted jobId _ alike =>
    have left : Named (before.withoutJob jobId) :=
      ⟨named.images, fun record member => named.jobs record (List.mem_filter.mp member).1⟩
    exact left.of_same alike.images alike.jobs
  | jobCreated alike => exact (named.withJob _).of_same alike.images alike.jobs

theorem Named.latest {workspace : Workspace} (named : Named workspace) {job : Job}
    (latest : workspace.latest? = some job) : job.jobId ≠ "" := by
  obtain ⟨record, last, same⟩ := Option.map_eq_some_iff.mp latest
  rw [← same]
  exact named.jobs record (List.mem_of_getLast? last)

end ImageOperator.Workspace
