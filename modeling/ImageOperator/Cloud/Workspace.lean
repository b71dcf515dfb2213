import ImageOperator.Attempt
/-!
A cloud workspace with its images and import jobs. Images and jobs take their identifiers from one counter, so none
is given twice. Jobs stay in the order of their creation; they move on only when they are told to. Every call of a
client is written down before anything else happens, and a call that is made to fail changes nothing more.
-/

set_option autoImplicit false

namespace ImageOperator

namespace Workspace

def empty (instanceId : String) : Workspace :=
  ⟨instanceId, [], [], 0, [], [], [], [], []⟩

def activeState : String := "active"

def imageIdOf (serial : Nat) : String := "image-" ++ toString serial

def jobIdOf (serial : Nat) : String := "job-" ++ toString serial

/-- The fault that the next call ends with: the one that is due, else a message, else any other fault. -/
def fault? (workspace : Workspace) (operation : Operation) : Option Fault :=
  match workspace.due.head?.join with
  | some (category, message) => some (.raised category operation.text message)
  | none =>
    match workspace.failures.lookup operation with
    | some message => some (.call operation.text (some message))
    | none =>
      (workspace.faults.lookup operation).map fun (category, message) =>
        .raised category operation.text message

def injectFailure (workspace : Workspace) (operation : Operation) (message : String) : Workspace :=
  { workspace with failures := (operation, message) :: workspace.failures }

def injectFault (workspace : Workspace) (operation : Operation) (upset : Upset) : Workspace :=
  { workspace with faults := (operation, upset) :: workspace.faults }

/-- Says what happens to the coming calls, one by one. -/
def schedule (workspace : Workspace) (due : List (Option Upset)) : Workspace :=
  { workspace with due }

def clearFailures (workspace : Workspace) : Workspace :=
  { workspace with failures := [], faults := [] }

/-- Puts an image in; without an identifier it gets the next one. -/
def addImage (workspace : Workspace) (name : Value) (imageId : String) : CloudImage × Workspace :=
  if imageId.isEmpty then
    let serial := workspace.serial + 1
    let image : CloudImage := ⟨imageIdOf serial, name, some activeState⟩
    (image, { workspace with images := workspace.images ++ [image], serial })
  else
    let image : CloudImage := ⟨imageId, name, some activeState⟩
    (image, { workspace with images := workspace.images ++ [image] })

def record? (workspace : Workspace) (jobId : String) : Option JobRecord :=
  workspace.jobs.find? fun record => record.job.jobId = jobId

def getJob (workspace : Workspace) (jobId : String) : Except Fault Job :=
  match workspace.record? jobId with
  | some record => .ok record.job
  | none => .error (.jobUnknown jobId)

/-- The job created last among those that are left. -/
def latest? (workspace : Workspace) : Option Job :=
  workspace.jobs.getLast?.map (·.job)

def setJob (workspace : Workspace) (jobId : String) (state : JobState) (message : Option String) : Workspace :=
  { workspace with
    jobs := workspace.jobs.map fun record =>
      if record.job.jobId = jobId then { record with job := { record.job with state, message } } else record }

/-- Moves a job to a state, with a message or none. -/
def moveJob (jobId : String) (state : JobState) (message : Option String) : Attempt Workspace JobRecord := do
  let workspace ← Attempt.state
  match workspace.record? jobId with
  | none => Attempt.fail (.jobUnknown jobId)
  | some record =>
    Attempt.log .workspaces .debug ("Import job " ++ jobId ++ " moved to " ++ state.text)
    Attempt.update (·.setJob jobId state message)
    return record

def startJob (jobId : String) : Attempt Workspace Unit := do
  let _ ← moveJob jobId .running none

/-- Completes a job: the image that it imports is in the workspace from then on. -/
def completeJob (jobId : String) : Attempt Workspace CloudImage := do
  let record ← moveJob jobId .completed none
  let workspace ← Attempt.state
  let (image, workspace) := workspace.addImage record.request.imageName ""
  Attempt.update fun _ => workspace
  return image

def failJob (jobId message : String) : Attempt Workspace Unit := do
  let _ ← moveJob jobId .failed (some message)

/-- The workspace after a call has been written down. -/
def written (workspace : Workspace) (call : Call) : Workspace :=
  { workspace with calls := workspace.calls ++ [call], due := workspace.due.tail }

/-- The start of every call: it is written down, then fails if it is made to. -/
def receive (call : Call) : Attempt Workspace Unit := do
  let workspace ← Attempt.state
  Attempt.note [.called workspace call]
  Attempt.update (·.written call)
  match workspace.fault? call.operation with
  | some fault => Attempt.fail fault
  | none => return ()

def listImages : Attempt Workspace (List CloudImage) := do
  receive .listImages
  return (← Attempt.state).images

/-- The workspace with one more job, queued under the next identifier. -/
def withJob (workspace : Workspace) (request : ImportRequest) : Workspace :=
  { workspace with
    serial := workspace.serial + 1
    jobs := workspace.jobs ++ [⟨⟨jobIdOf (workspace.serial + 1), .queued, none⟩, request⟩]
    requests := workspace.requests ++ [request] }

def withoutImage (workspace : Workspace) (imageId : String) : Workspace :=
  { workspace with images := workspace.images.eraseP (·.imageId = imageId) }

def withoutJob (workspace : Workspace) (jobId : String) : Workspace :=
  { workspace with jobs := workspace.jobs.filter (·.job.jobId ≠ jobId) }

def createJob (request : ImportRequest) : Attempt Workspace String := do
  receive (.createJob request)
  let jobId := jobIdOf ((← Attempt.state).serial + 1)
  Attempt.update (·.withJob request)
  Attempt.log .workspaces .debug ("Created import job " ++ jobId ++ " for " ++ request.imageName.plain)
  return jobId

/-- The latest job, for a client that asks for its own workspace. -/
def latestJob (instanceId : String) : Attempt Workspace (Option Job) := do
  receive (.latestJob instanceId)
  let workspace ← Attempt.state
  return if instanceId = workspace.instanceId then workspace.latest? else none

def deleteImage (imageId : String) : Attempt Workspace Unit := do
  receive (.deleteImage imageId)
  if (← Attempt.state).images.any (·.imageId = imageId) then Attempt.update (·.withoutImage imageId)
  else Attempt.fail (.callTarget Operation.deleteImage.text (some ("image " ++ imageId ++ " not found")))

def deleteJob (jobId : String) : Attempt Workspace Unit := do
  receive (.deleteJob jobId)
  if (← Attempt.state).jobs.any (·.job.jobId = jobId) then Attempt.update (·.withoutJob jobId)
  else Attempt.fail (.callTarget Operation.deleteJob.text (some ("job " ++ jobId ++ " not found")))

end Workspace

end ImageOperator
