import ImageOperator.Cloud.Workspace
import ImageOperator.Proofs.Attempt

set_option autoImplicit false

namespace ImageOperator.Workspace

@[simp] theorem written_images (workspace : Workspace) (call : Call) :
    (workspace.written call).images = workspace.images := rfl

@[simp] theorem written_jobs (workspace : Workspace) (call : Call) :
    (workspace.written call).jobs = workspace.jobs := rfl

@[simp] theorem written_serial (workspace : Workspace) (call : Call) :
    (workspace.written call).serial = workspace.serial := rfl

@[simp] theorem written_instanceId (workspace : Workspace) (call : Call) :
    (workspace.written call).instanceId = workspace.instanceId := rfl

@[simp] theorem written_latest? (workspace : Workspace) (call : Call) :
    (workspace.written call).latest? = workspace.latest? := rfl

theorem receive_of_fault {workspace : Workspace} {call : Call} {fault : Fault}
    (failed : workspace.fault? call.operation = some fault) :
    receive call workspace = ⟨.error fault, workspace.written call, [.called workspace call]⟩ := by
  simp only [receive, Attempt.read_then]
  rw [Attempt.note_then, Attempt.update_then, failed]
  rfl

theorem receive_of_calm {workspace : Workspace} {call : Call}
    (calm : workspace.fault? call.operation = none) :
    receive call workspace = ⟨.ok (), workspace.written call, [.called workspace call]⟩ := by
  simp only [receive, Attempt.read_then]
  rw [Attempt.note_then, Attempt.update_then, calm]
  rfl

theorem bare_then_of_fault {α : Type} {workspace : Workspace} {call : Call} {fault : Fault}
    (failed : workspace.fault? call.operation = some fault) (next : Unit → Attempt Workspace α) :
    (receive call >>= next).bare workspace =
      ⟨.error fault, workspace.written call, [.called workspace call]⟩ := by
  simp only [Attempt.bare, Attempt.bind_of_error (receive_of_fault failed)]
  rfl

theorem bare_then_of_calm {α : Type} {workspace : Workspace} {call : Call}
    (calm : workspace.fault? call.operation = none) (next : Unit → Attempt Workspace α) :
    (receive call >>= next).bare workspace =
      ⟨((next ()).bare (workspace.written call)).result, ((next ()).bare (workspace.written call)).state,
        .called workspace call :: ((next ()).bare (workspace.written call)).notes⟩ := by
  simp only [Attempt.bare, Attempt.bind_of_ok (receive_of_calm calm)]
  rfl

theorem listImages_of_fault {workspace : Workspace} {fault : Fault}
    (failed : workspace.fault? .listImages = some fault) :
    listImages.bare workspace =
      ⟨.error fault, workspace.written .listImages, [.called workspace .listImages]⟩ :=
  bare_then_of_fault failed _

theorem listImages_of_calm {workspace : Workspace} (calm : workspace.fault? .listImages = none) :
    listImages.bare workspace =
      ⟨.ok workspace.images, workspace.written .listImages, [.called workspace .listImages]⟩ :=
  bare_then_of_calm calm _

theorem createJob_of_fault {workspace : Workspace} {request : ImportRequest} {fault : Fault}
    (failed : workspace.fault? .createJob = some fault) :
    (createJob request).bare workspace =
      ⟨.error fault, workspace.written (.createJob request), [.called workspace (.createJob request)]⟩ :=
  bare_then_of_fault failed _

theorem createJob_of_calm {workspace : Workspace} {request : ImportRequest}
    (calm : workspace.fault? .createJob = none) :
    (createJob request).bare workspace =
      ⟨.ok (jobIdOf (workspace.serial + 1)), (workspace.written (.createJob request)).withJob request,
        [.called workspace (.createJob request)]⟩ :=
  bare_then_of_calm calm _

theorem latestJob_of_fault {workspace : Workspace} {instanceId : String} {fault : Fault}
    (failed : workspace.fault? .latestJob = some fault) :
    (latestJob instanceId).bare workspace =
      ⟨.error fault, workspace.written (.latestJob instanceId), [.called workspace (.latestJob instanceId)]⟩ :=
  bare_then_of_fault failed _

theorem latestJob_of_calm {workspace : Workspace} {instanceId : String}
    (calm : workspace.fault? .latestJob = none) :
    (latestJob instanceId).bare workspace =
      ⟨.ok (if instanceId = workspace.instanceId then workspace.latest? else none),
        workspace.written (.latestJob instanceId), [.called workspace (.latestJob instanceId)]⟩ :=
  bare_then_of_calm calm _

theorem deleteImage_of_fault {workspace : Workspace} {imageId : String} {fault : Fault}
    (failed : workspace.fault? .deleteImage = some fault) :
    (deleteImage imageId).bare workspace =
      ⟨.error fault, workspace.written (.deleteImage imageId), [.called workspace (.deleteImage imageId)]⟩ :=
  bare_then_of_fault failed _

theorem deleteJob_of_fault {workspace : Workspace} {jobId : String} {fault : Fault}
    (failed : workspace.fault? .deleteJob = some fault) :
    (deleteJob jobId).bare workspace =
      ⟨.error fault, workspace.written (.deleteJob jobId), [.called workspace (.deleteJob jobId)]⟩ :=
  bare_then_of_fault failed _

theorem withoutImage_of_absent {workspace : Workspace} {imageId : String}
    (absent : workspace.images.any (·.imageId = imageId) = false) :
    workspace.withoutImage imageId = workspace := by
  have kept : workspace.images.eraseP (·.imageId = imageId) = workspace.images :=
    List.eraseP_of_forall_not (by simpa using absent)
  simp only [withoutImage, kept]

theorem withoutJob_of_absent {workspace : Workspace} {jobId : String}
    (absent : workspace.jobs.any (·.job.jobId = jobId) = false) :
    workspace.withoutJob jobId = workspace := by
  have kept : workspace.jobs.filter (·.job.jobId ≠ jobId) = workspace.jobs :=
    List.filter_eq_self.mpr (by simpa using absent)
  simp only [withoutJob, kept]

/-- The answer to a delete that is not made to fail. -/
def deletion (operation : Operation) (what target : String) (present : Bool) : Except Fault Unit :=
  if present then .ok () else .error (.callTarget operation.text (some (what ++ target ++ " not found")))

theorem deleteImage_of_calm {workspace : Workspace} {imageId : String}
    (calm : workspace.fault? .deleteImage = none) :
    (deleteImage imageId).bare workspace =
      ⟨deletion .deleteImage "image " imageId (workspace.images.any (·.imageId = imageId)),
        (workspace.written (.deleteImage imageId)).withoutImage imageId,
        [.called workspace (.deleteImage imageId)]⟩ := by
  unfold deleteImage
  rw [bare_then_of_calm calm, Attempt.bare_bind, Attempt.bare_read, Attempt.read_then, written_images]
  cases present : workspace.images.any (·.imageId = imageId) with
  | true => rfl
  | false =>
    rw [withoutImage_of_absent (by simpa using present)]
    rfl

theorem deleteJob_of_calm {workspace : Workspace} {jobId : String}
    (calm : workspace.fault? .deleteJob = none) :
    (deleteJob jobId).bare workspace =
      ⟨deletion .deleteJob "job " jobId (workspace.jobs.any (·.job.jobId = jobId)),
        (workspace.written (.deleteJob jobId)).withoutJob jobId,
        [.called workspace (.deleteJob jobId)]⟩ := by
  unfold deleteJob
  rw [bare_then_of_calm calm, Attempt.bare_bind, Attempt.bare_read, Attempt.read_then, written_jobs]
  cases present : workspace.jobs.any (·.job.jobId = jobId) with
  | true => rfl
  | false =>
    rw [withoutJob_of_absent (by simpa using present)]
    rfl

end ImageOperator.Workspace
