import ImageOperator.Cloud.Workspace
import ImageOperator.Journal.Recorder
/-!
The bench of a scope: a working copy of one image beside the workspace it lives in, and what is done with the two.
Looking for an image never changes the copy; it asks for a new job only if no image of the name is listed and the
latest job has ended.
-/

set_option autoImplicit false

namespace ImageOperator

/-- Where a scope tells its events and writes its log. -/
structure Voice where
  recorder : Recorder
  channel : Channel
deriving Inhabited

structure Bench where
  image : Image
  workspace : Workspace
deriving Inhabited

/-- What came of making sure that an image exists. -/
inductive Ensured
  | found (image : CloudImage)
  | pending (job : Job)
  | created (jobId : String)
deriving Inhabited

namespace Bench

variable {α : Type}

/-- A call of the workspace's client. -/
def call (attempt : Attempt Workspace α) : Attempt Bench α :=
  attempt.on (·.workspace) fun workspace bench => { bench with workspace }

def current : Attempt Bench Image := do
  return (← Attempt.state).image

def change (edit : Image → Image) : Attempt Bench Unit :=
  Attempt.update fun bench => { bench with image := edit bench.image }

def changeStatus (edit : Image.Status → Image.Status) : Attempt Bench Unit :=
  change fun image => { image with status := edit image.status }

def tell (voice : Voice) (severity : Severity) (reason message : String) : Attempt Bench Unit := do
  let bench ← Attempt.state
  Attempt.note (voice.recorder.notes bench.workspace ⟨bench.image.id, severity, reason, message⟩)

def say (voice : Voice) (level : Level) (message : String) : Attempt Bench Unit :=
  Attempt.log voice.channel level message

/-- An attempt whose cloud faults are told as warnings before they go on. -/
def warned (voice : Voice) (reason : String) (wording : Fault → String) (attempt : Attempt Bench α) :
    Attempt Bench α := do
  match ← attempt.tried with
  | .ok value => return value
  | .error fault =>
    if fault.isCloud then tell voice .warning reason (wording fault)
    Attempt.fail fault

/-- The first listed image of a name. -/
def findImage (voice : Voice) (name : Value) : Attempt Bench (Option CloudImage) := do
  let images ← call Workspace.listImages
  match images.filter (·.name.same name) with
  | [] => return none
  | image :: others =>
    if !others.isEmpty then
      say voice .warning
        ("Found " ++ toString (others.length + 1) ++ " images named " ++ name.plain ++ ", using the first listed (" ++
          image.imageId ++ ")")
    return some image

/-- The latest job of the image's workspace. -/
def latestJob (voice : Voice) : Attempt Bench (Option Job) := do
  let image ← current
  warned voice "FailedRetrieveImageImportJob"
    (fun fault => "Failed to retrieve image import job - " ++ fault.message)
    (call (Workspace.latestJob image.spec.workspace))

def importRequest (image : Image) : ImportRequest where
  imageName := image.name
  bucketName := image.spec.bucket
  region := image.spec.region
  imageFilename := image.spec.object
  storageType := image.spec.tier
  bucketAccess := ImportRequest.publicAccess

/-- Asks for a new job. -/
def createJob (voice : Voice) : Attempt Bench Ensured := do
  let image ← current
  match ← (call (Workspace.createJob (importRequest image))).tried with
  | .ok jobId =>
    say voice .info "New import job request created"
    tell voice .normal "SuccessfulCreateImageImportJob" ("Created image import job " ++ Text.literal jobId)
    return .created jobId
  | .error fault =>
    if fault.isCloud then
      say voice .info "Unable to create new import job request"
      tell voice .warning "FailedCreateImageImportJob" ("Failed image import job creation - " ++ fault.message)
    Attempt.fail fault

/-- Makes sure that the image exists or is on its way. -/
def ensureImage (voice : Voice) : Attempt Bench Ensured := do
  let image ← current
  let listed ← warned voice "FailedRetrieveImage"
    (fun fault => "Failed to retrieve image " ++ image.name.literal ++ " - " ++ fault.message)
    (findImage voice image.name)
  match listed with
  | some found =>
    say voice .info ("Image " ++ image.name.plain ++ " already exists")
    tell voice .normal "SuccessfulRetrieveImage" ("Retrieved image " ++ image.name.literal)
    return .found found
  | none =>
    match ← latestJob voice with
    | some job =>
      if job.state.isTerminal then createJob voice
      else
        say voice .info
          ("Previous import job " ++ job.jobId ++ " not yet finished - " ++ job.state.text)
        return .pending job
    | none => createJob voice

/-- A delete that takes a missing target for a success. -/
def deleteTarget (voice : Voice) (attempt : Attempt Workspace Unit) (gone failedReason failedText doneReason
    doneText : String) : Attempt Bench Unit := do
  match ← (call attempt).tried with
  | .ok () => pure ()
  | .error fault =>
    if fault.category = .cloudAbsent then say voice .info gone
    else
      if fault.isCloud then tell voice .warning failedReason (failedText ++ fault.message)
      Attempt.fail fault
  tell voice .normal doneReason doneText

/-- Deletes the image that the status names. -/
def deleteImage (voice : Voice) : Attempt Bench Unit := do
  let imageId := (← current).status.imageId
  deleteTarget voice (Workspace.deleteImage imageId) ("Image " ++ imageId ++ " already deleted")
    "FailedDeleteImage" "Failed image deletion - " "SuccessfulDeleteImage" ("Deleted image " ++ Text.literal imageId)

/-- Deletes the job that the status names. -/
def deleteJob (voice : Voice) : Attempt Bench Unit := do
  let jobId := (← current).status.jobId
  deleteTarget voice (Workspace.deleteJob jobId) ("Import job " ++ jobId ++ " already deleted")
    "FailedDeleteImageImportJob" "Failed image import job deletion - " "SuccessfulDeleteImageImportJob"
    ("Deleted image import job " ++ Text.literal jobId)

def setReady (ready : Bool) : Attempt Bench Unit :=
  changeStatus fun status => { status with ready }

def setImageId (imageId : String) : Attempt Bench Unit :=
  changeStatus fun status => { status with imageId }

def setPhase (phase : Phase) : Attempt Bench Unit :=
  changeStatus fun status => { status with phase }

def setJobId (jobId : String) : Attempt Bench Unit :=
  changeStatus fun status => { status with jobId }

end Bench

namespace Image

/-- Puts a finalizer on, with a note if it was not there. -/
def withFinalizer (image : Image) (name : Value) : Image × List Note :=
  if image.hasFinalizer name then (image, [])
  else
    (image.addFinalizer name,
      [.log .images .debug ("Adding finalizer " ++ name.plain ++ " to " ++ image.path)])

/-- Takes a finalizer away, with a note if it was there. -/
def withoutFinalizer (image : Image) (name : Value) : Image × List Note :=
  if image.hasFinalizer name then
    (image.removeFinalizer name,
      [.log .images .debug ("Removing finalizer " ++ name.plain ++ " from " ++ image.path)])
  else (image, [])

end Image

namespace Bench

def addFinalizer (name : Value) : Attempt Bench Unit := do
  let (image, notes) := (← current).withFinalizer name
  Attempt.note notes
  change fun _ => image

def removeFinalizer (name : Value) : Attempt Bench Unit := do
  let (image, notes) := (← current).withoutFinalizer name
  Attempt.note notes
  change fun _ => image

end Bench

end ImageOperator
