import ImageOperator.Image.Basic
import ImageOperator.Record
/-!
Field dictionaries of images: reading takes the plain text of text fields and refuses what no field can hold; writing
leaves the deletion mark out when there is none.
-/

set_option autoImplicit false

namespace ImageOperator.Image

namespace Spec

def owner : String := "ImageSpec"

def ofFields (value : Value) : Except Fault Spec := do
  let entries ← Record.entries "image_import.manifest.ImageSpec" value
  let workspace ← Record.text entries owner "service_instance_id" "serviceInstanceID"
  let bucket ← Record.text entries owner "bucket" "bucket"
  let object ← Record.text entries owner "object_key" "object"
  let region ← Record.text entries owner "region" "region"
  return ⟨workspace, bucket, object, region, Record.textOr entries "storageType" defaultTier⟩

def fields (spec : Spec) : Value :=
  .mapping [
    (.text "serviceInstanceID", .text spec.workspace),
    (.text "bucket", .text spec.bucket),
    (.text "object", .text spec.object),
    (.text "region", .text spec.region),
    (.text "storageType", .text spec.tier)]

end Spec

namespace Status

def owner : String := "ImageStatus"

def phaseOf (value : Value) : Except Fault Phase :=
  match value with
  | .text s =>
    match Phase.ofText? s with
    | some phase => .ok phase
    | none => .error (.fieldInvalid owner "image_state" "ImageState" value)
  | _ => .error (.fieldInvalid owner "image_state" "ImageState" value)

def ofFields (value : Value) : Except Fault Status := do
  let entries ← Record.entries "image_import.manifest.ImageStatus" value
  let phase ← match entries.get? "imageState" with
    | some value => phaseOf value
    | none => pure fresh.phase
  return {
    ready := Record.truthOr entries "ready" fresh.ready
    imageId := Record.textOr entries "imageID" fresh.imageId
    phase
    jobId := Record.textOr entries "jobID" fresh.jobId }

def fields (status : Status) : Value :=
  .mapping [
    (.text "ready", .bool status.ready),
    (.text "imageID", .text status.imageId),
    (.text "imageState", .text status.phase.text),
    (.text "jobID", .text status.jobId)]

end Status

def owner : String := "ManagedImage"

/-- A nested record that has to be there; whatever is wrong inside is a fault of the whole field. -/
def partOf {α : Type} (field shape : String) (read : Value → Except Fault α) (value : Value) : Except Fault α :=
  match read value with
  | .ok part => .ok part
  | .error _ => .error (.fieldInvalid owner field shape value)

def finalizersOf (value : Value) : Except Fault (List Value) :=
  match Record.items? value with
  | some items => .ok (items.map fun item => .text item.plain)
  | none => .error (.fieldInvalid owner "finalizers" "list[str]" value)

def ofFields (value : Value) : Except Fault Image := do
  let entries ← Record.entries "image_import.manifest.ManagedImage" value
  let name ← Record.text entries owner "name" "name"
  let space ← Record.text entries owner "namespace" "namespace"
  let spec ← match entries.get? "spec" with
    | some value => partOf "spec" "ImageSpec" Spec.ofFields value
    | none => .error (.fieldAbsent owner "spec" "ImageSpec")
  let status ← match entries.get? "status" with
    | some value => partOf "status" "ImageStatus" Status.ofFields value
    | none => pure Status.fresh
  let finalizers ← match entries.get? "finalizers" with
    | some value => finalizersOf value
    | none => pure []
  let deletion := match entries.get? "deletion_timestamp" with
    | none | some .null => .null
    | some value => .text value.plain
  return { name := .text name, space := .text space, spec, status, finalizers, deletion }

def fields (image : Image) : Value :=
  .mapping ([
    (.text "name", image.name),
    (.text "namespace", image.space),
    (.text "spec", image.spec.fields),
    (.text "status", image.status.fields),
    (.text "finalizers", .sequence image.finalizers)] ++
    if image.deletion.isNull then [] else [(.text "deletion_timestamp", image.deletion)])

end ImageOperator.Image
