import ImageOperator.ObjectId
import ImageOperator.Value.Same
/-!
Images as objects: the wanted state in the specification, the observed state in the status. Name, namespace,
finalizers and the mark of a wanted deletion are kept with whatever values the document gave them; a null mark is
none.
-/

set_option autoImplicit false

namespace ImageOperator

/-- What was last seen of an image in the cloud. -/
inductive Phase
  | unknown
  | importing
  | available
  | failed
deriving DecidableEq, Inhabited

namespace Phase

def text : Phase → String
  | .unknown => "unknown"
  | .importing => "importing"
  | .available => "available"
  | .failed => "failed"

def all : List Phase := [.unknown, .importing, .available, .failed]

def ofText? (text : String) : Option Phase :=
  all.find? fun phase => phase.text = text

/-- The name of the member, as literals show it. -/
def label : Phase → String
  | .unknown => "UNKNOWN"
  | .importing => "IMPORTING"
  | .available => "AVAILABLE"
  | .failed => "FAILED"

theorem ofText?_text (phase : Phase) : ofText? phase.text = some phase := by
  cases phase <;> decide

end Phase

namespace Image

/-- The wanted state: a workspace, the file in object storage and the storage tier. -/
structure Spec where
  workspace : String
  bucket : String
  object : String
  region : String
  tier : String
deriving DecidableEq, Inhabited

def defaultTier : String := "tier1"

/-- The observed state. An empty identifier is none. -/
structure Status where
  ready : Bool
  imageId : String
  phase : Phase
  jobId : String
deriving DecidableEq, Inhabited

namespace Status

def fresh : Status := ⟨false, "", .unknown, ""⟩

/-- The image identifier is set exactly when the image is ready. -/
def isConsistent (status : Status) : Bool :=
  status.ready == (status.imageId != "")

def literal (status : Status) : String :=
  "ImageStatus(ready=" ++ Value.boolText status.ready ++ ", image_id=" ++ Text.literal status.imageId ++
    ", image_state=<ImageState." ++ status.phase.label ++ ": " ++ Text.literal status.phase.text ++
    ">, job_id=" ++ Text.literal status.jobId ++ ")"

end Status

def kind : String := "IBMPowerVSImage"

/-- The finalizer that guards the image and job in the cloud. -/
def finalizer : String := "ibmpowervsimage.infrastructure.cluster.x-k8s.io"

end Image

structure Image where
  name : Value
  space : Value
  spec : Image.Spec
  status : Image.Status
  finalizers : List Value
  deletion : Value
deriving Inhabited

namespace Image

def id (image : Image) : ObjectId :=
  ⟨kind, image.space, image.name⟩

/-- Namespace and name, as messages show an image. -/
def path (image : Image) : String :=
  image.space.plain ++ "/" ++ image.name.plain

def deletionRequested (image : Image) : Bool :=
  !image.deletion.isNull

/-- The image marked for deletion at a time; a mark that it has stays. -/
def marked (image : Image) (now : String) : Image :=
  if image.deletionRequested then image else { image with deletion := .text now }

def isConsistent (image : Image) : Bool :=
  image.status.isConsistent

def same (a b : Image) : Bool :=
  a.name.same b.name && a.space.same b.space && a.spec = b.spec && a.status = b.status &&
    Value.sameItems a.finalizers b.finalizers && a.deletion.same b.deletion

/-- Whether a finalizer is among those of the image. -/
def hasFinalizer (image : Image) (name : Value) : Bool :=
  image.finalizers.any (name.same ·)

/-- Puts a finalizer last, unless it is there. -/
def addFinalizer (image : Image) (name : Value) : Image :=
  if image.hasFinalizer name then image else { image with finalizers := image.finalizers ++ [name] }

/-- Takes the first occurrence of a finalizer away. -/
def removeFinalizer (image : Image) (name : Value) : Image :=
  { image with finalizers := image.finalizers.eraseP (name.same ·) }

end Image

end ImageOperator
