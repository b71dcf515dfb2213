import ImageOperator.Image.Fields
/-!
Resource documents of images. Reading checks the head of a document from the outside in and names the first part that
is missing; name, namespace, finalizers and deletion mark are taken as they are. Writing always gives all parts of the
specification and the status.
-/

set_option autoImplicit false

namespace ImageOperator.Image

def domain : String := "infrastructure.cluster.x-k8s.io"

def version : String := domain ++ "/v1beta1"

def defaultSpace : String := "default"

/-- The parts of a specification that have to be there. -/
def requiredParts : List String := ["serviceInstanceID", "bucket", "object", "region"]

/-- The entries of a value that is looked into. -/
def inside (value : Value) : Except Fault Entries :=
  match value with
  | .mapping entries => .ok entries
  | _ => .error .attribute

def checkVersion (document value : Value) : Except Fault Unit :=
  if !value.isTrue then .error (.versionAbsent document)
  else
    match value with
    | .text s => if domain.toList.isPrefixOf s.toList then .ok () else .error (.versionForeign document)
    | .bytes _ => .error .type
    | _ => .error .attribute

def checkKind (document value : Value) : Except Fault Unit :=
  match value with
  | .text s => if s = kind then .ok () else .error (.kindForeign value document)
  | _ => .error (.kindForeign value document)

/-- A part that has to be there and not be empty. -/
def part (document : Value) (path : String) (value : Value) : Except Fault Value :=
  if value.isTrue then .ok value else .error (.partAbsent path document)

def checkParts (document : Value) (spec : Entries) : List String → Except Fault Unit
  | [] => .ok ()
  | name :: rest =>
    match part document ("spec." ++ name) (spec.get name) with
    | .ok _ => checkParts document spec rest
    | .error fault => .error fault

/-- A value, or another one in place of an empty one. -/
def orElse (value absent : Value) : Value :=
  if value.isTrue then value else absent

def listOf (value : Value) : Except Fault (List Value) :=
  match Record.items? value with
  | some items => .ok items
  | none => .error .type

def ofDocument (document : Value) : Except Fault Image := do
  let head ← inside document
  checkVersion document (head.get "apiVersion")
  checkKind document (head.get "kind")
  let metadata ← part document "metadata" (head.get "metadata") >>= inside
  let name ← part document "metadata.name" (metadata.get "name")
  let specValue ← part document "spec" (head.get "spec")
  let specEntries ← inside specValue
  checkParts document specEntries requiredParts
  let spec ← Spec.ofFields specValue
  let status ← Status.ofFields (orElse (head.get "status") (.mapping []))
  let finalizers ← listOf (orElse (metadata.get "finalizers") (.sequence []))
  return {
    name
    space := orElse (metadata.get "namespace") (.text defaultSpace)
    spec
    status
    finalizers
    deletion := metadata.get "deletionTimestamp" }

def metadata (image : Image) : Value :=
  .mapping ([(.text "name", image.name), (.text "namespace", image.space)] ++
    (if image.finalizers.isEmpty then [] else [(.text "finalizers", .sequence image.finalizers)]) ++
    (if image.deletion.isTrue then [(.text "deletionTimestamp", image.deletion)] else []))

def document (image : Image) : Value :=
  .mapping [
    (.text "apiVersion", .text version),
    (.text "kind", .text kind),
    (.text "metadata", image.metadata),
    (.text "spec", image.spec.fields),
    (.text "status", image.status.fields)]

end ImageOperator.Image
