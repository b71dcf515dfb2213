import ImageOperator.Number.Binary64
import ImageOperator.Scope.Bench
/-!
One pass over an image. An image that is not to be deleted gets the finalizer; a failed job that it tracks is told
and left for a later pass, else the image is looked for or asked for, and the status follows what was found. An image
that is to be deleted loses what its status names in the cloud, image first, and the finalizer last.
-/

set_option autoImplicit false

namespace ImageOperator

structure Config where
  pollInterval : Binary64
  retryInterval : Binary64
  debug : Bool
deriving Inhabited

namespace Config

def standard : Config := ⟨Binary64.ofInt 60, Binary64.ofInt 300, false⟩

end Config

namespace Pass

/-- The seconds until the next pass, if there is to be one. -/
abbrev Requeue := Option Binary64

def say (level : Level) (message : String) : Attempt Bench Unit :=
  Attempt.log .passes level message

/-- The job that the status tracks, if the status says that it runs and the cloud that it failed. -/
def failedJob (voice : Voice) : Attempt Bench (Option Job) := do
  let status := (← Bench.current).status
  if status.jobId ≠ "" && status.phase = .importing then
    match ← Bench.latestJob voice with
    | some job => return if job.jobId = status.jobId && job.state = .failed then some job else none
    | none => return none
  else return none

def markFailed (config : Config) (job : Job) : Attempt Bench Requeue := do
  let image ← Bench.current
  say .warning
    ("Import job " ++ job.jobId ++ " for " ++ image.path ++ " failed: " ++ (job.message.getD "None"))
  Bench.setReady false
  Bench.setPhase .failed
  return some config.retryInterval

def markFound (found : CloudImage) : Attempt Bench Requeue := do
  Bench.setImageId found.imageId
  Bench.setReady true
  Bench.setPhase .available
  let image ← Bench.current
  say .info ("Image " ++ image.path ++ " is available (" ++ found.imageId ++ ")")
  return none

/-- An identifier of an image that is no longer listed is dropped. -/
def dropImageId : Attempt Bench Unit := do
  let image ← Bench.current
  if image.status.imageId ≠ "" then
    say .warning
      ("Image " ++ image.path ++ " (" ++ image.status.imageId ++ ") no longer exists, importing it again")
    Bench.setImageId ""

/-- A running job is tracked, unless the status tracks one already. -/
def trackPending (job : Job) : Attempt Bench Unit := do
  let image ← Bench.current
  say .debug
    ("Waiting on import job " ++ job.jobId ++ " (" ++ job.state.text ++ ") for " ++ image.path)
  if image.status.jobId = "" || image.status.phase ≠ .importing then Bench.setJobId job.jobId

def markImporting (config : Config) : Attempt Bench Requeue := do
  Bench.setReady false
  Bench.setPhase .importing
  return some config.pollInterval

def normal (config : Config) (voice : Voice) : Attempt Bench Requeue := do
  Bench.addFinalizer (.text Image.finalizer)
  match ← failedJob voice with
  | some job => markFailed config job
  | none =>
    match ← Bench.ensureImage voice with
    | .found found => markFound found
    | .created jobId =>
      dropImageId
      Bench.setJobId jobId
      markImporting config
    | .pending job =>
      dropImageId
      trackPending job
      markImporting config

/-- Deletes the image that the status names, if it names one, and forgets it. -/
def clearImage (voice : Voice) : Attempt Bench Unit := do
  if (← Bench.current).status.imageId ≠ "" then
    Bench.deleteImage voice
    Bench.setReady false
    Bench.setImageId ""

/-- Deletes the job that the status names, if it names one, and forgets it. -/
def clearJob (voice : Voice) : Attempt Bench Unit := do
  if (← Bench.current).status.jobId ≠ "" then
    Bench.deleteJob voice
    Bench.setJobId ""

def delete (voice : Voice) : Attempt Bench Requeue := do
  let image ← Bench.current
  say .info ("Deleting " ++ image.path)
  clearImage voice
  clearJob voice
  Bench.removeFinalizer (.text Image.finalizer)
  return none

def body (config : Config) (voice : Voice) : Attempt Bench Requeue := do
  if (← Bench.current).deletionRequested then delete voice else normal config voice

end Pass

end ImageOperator
