import ImageOperator.Record
/-!
What the cloud holds: images, import jobs and the requests that jobs were made from, side by side in a workspace; and
the calls that a client of a workspace can make.
-/

set_option autoImplicit false

namespace ImageOperator

inductive JobState
  | queued
  | running
  | completed
  | failed
deriving DecidableEq, Inhabited

namespace JobState

def text : JobState → String
  | .queued => "queued"
  | .running => "in-progress"
  | .completed => "completed"
  | .failed => "failed"

def all : List JobState := [.queued, .running, .completed, .failed]

def ofText? (text : String) : Option JobState :=
  all.find? fun state => state.text = text

/-- A job in a terminal state stays there. -/
def isTerminal : JobState → Bool
  | .completed | .failed => true
  | .queued | .running => false

end JobState

/-- An image in the cloud; its name is that of the request it was made from, or the one it was put in with. -/
structure CloudImage where
  imageId : String
  name : Value
  state : Option String
deriving Inhabited

structure Job where
  jobId : String
  state : JobState
  message : Option String
deriving DecidableEq, Inhabited

structure ImportRequest where
  imageName : Value
  bucketName : String
  region : String
  imageFilename : String
  storageType : String
  bucketAccess : String
deriving Inhabited

namespace ImportRequest

def publicAccess : String := "public"

def owner : String := "ImportJobRequest"

def ofFields (value : Value) : Except Fault ImportRequest := do
  let entries ← Record.entries "image_import.cloud.client.ImportJobRequest" value
  let imageName ← Record.text entries owner "image_name" "imageName"
  let bucketName ← Record.text entries owner "bucket_name" "bucketName"
  let region ← Record.text entries owner "region" "region"
  let imageFilename ← Record.text entries owner "image_filename" "imageFilename"
  let storageType ← Record.text entries owner "storage_type" "storageType"
  return {
    imageName := .text imageName, bucketName, region, imageFilename, storageType
    bucketAccess := Record.textOr entries "bucketAccess" publicAccess }

def fields (request : ImportRequest) : Value :=
  .mapping [
    (.text "imageName", request.imageName),
    (.text "bucketName", .text request.bucketName),
    (.text "region", .text request.region),
    (.text "imageFilename", .text request.imageFilename),
    (.text "storageType", .text request.storageType),
    (.text "bucketAccess", .text request.bucketAccess)]

end ImportRequest

/-- The calls that count and that can be made to fail. -/
inductive Operation
  | listImages
  | createJob
  | latestJob
  | deleteImage
  | deleteJob
deriving DecidableEq, Inhabited

namespace Operation

def text : Operation → String
  | .listImages => "list_images"
  | .createJob => "create_import_job"
  | .latestJob => "get_import_job"
  | .deleteImage => "delete_image"
  | .deleteJob => "delete_job"

def all : List Operation := [.listImages, .createJob, .latestJob, .deleteImage, .deleteJob]

def ofText? (text : String) : Option Operation :=
  all.find? fun operation => operation.text = text

end Operation

/-- A call with what it was made with. -/
inductive Call
  | listImages
  | createJob (request : ImportRequest)
  | latestJob (workspace : String)
  | deleteImage (imageId : String)
  | deleteJob (jobId : String)
deriving Inhabited

namespace Call

def operation : Call → Operation
  | .listImages => .listImages
  | .createJob _ => .createJob
  | .latestJob _ => .latestJob
  | .deleteImage _ => .deleteImage
  | .deleteJob _ => .deleteJob

end Call

structure JobRecord where
  job : Job
  request : ImportRequest
deriving Inhabited

/-- What a call is made to fail with: the category of the fault and its wording. -/
abbrev Upset := Category × String

structure Workspace where
  instanceId : String
  images : List CloudImage
  jobs : List JobRecord
  /-- How many identifiers have been given out. -/
  serial : Nat
  /-- Messages that calls fail with. -/
  failures : List (Operation × String)
  /-- Other faults that calls end with. -/
  faults : List (Operation × Upset)
  /-- What is to happen to the coming calls, one by one, whatever they are. -/
  due : List (Option Upset)
  calls : List Call
  /-- The requests of all jobs ever created. -/
  requests : List ImportRequest
deriving Inhabited

end ImageOperator
