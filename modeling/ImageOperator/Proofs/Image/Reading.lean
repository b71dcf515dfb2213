import ImageOperator.Proofs.Value.Json

set_option autoImplicit false

/-!
What the reading of a document takes from where, and what of it the document of the image gives back.
-/

namespace ImageOperator.Image

theorem mapping_of_inside {value : Value} {entries : Entries} (opened : inside value = .ok entries) :
    value = .mapping entries := by
  unfold inside at opened
  split at opened
  · rw [Except.ok.inj opened]
  · cases opened

/-- The image that a document is read as, part by part. -/
structure Reads (document : Value) (image : Image) : Prop where
  mapping : document.isMapping = true
  version : checkVersion document (document.under "apiVersion") = .ok ()
  kind : checkKind document (document.under "kind") = .ok ()
  metadata : (document.under "metadata").isMapping = true
  named : ((document.under "metadata").under "name").isTrue = true
  spec : (document.under "spec").isMapping = true
  parts : ∀ name ∈ requiredParts, ((document.under "spec").under name).isTrue = true
  name : image.name = (document.under "metadata").under "name"
  space : image.space = orElse ((document.under "metadata").under "namespace") (.text defaultSpace)
  specified : Spec.ofFields (document.under "spec") = .ok image.spec
  status : Status.ofFields (orElse (document.under "status") (.mapping [])) = .ok image.status
  finalizers : listOf (orElse ((document.under "metadata").under "finalizers") (.sequence [])) = .ok image.finalizers
  deletion : image.deletion = (document.under "metadata").under "deletionTimestamp"

theorem reads_of_ofDocument {document : Value} {image : Image} (read : ofDocument document = .ok image) :
    Reads document image := by
  obtain ⟨head, opened, read⟩ := ok_of_bind read
  obtain rfl := mapping_of_inside opened
  obtain ⟨_, version, read⟩ := ok_of_bind read
  obtain ⟨_, kind, read⟩ := ok_of_bind read
  obtain ⟨metadata, described, read⟩ := ok_of_bind read
  obtain ⟨given, there, inner⟩ := ok_of_bind described
  obtain ⟨rfl, _⟩ := isTrue_of_part there
  have metadata_eq := mapping_of_inside inner
  obtain ⟨name, named, read⟩ := ok_of_bind read
  obtain ⟨rfl, full⟩ := isTrue_of_part named
  obtain ⟨specValue, specified, read⟩ := ok_of_bind read
  obtain ⟨rfl, _⟩ := isTrue_of_part specified
  obtain ⟨entries, spec_opened, read⟩ := ok_of_bind read
  have spec_eq := mapping_of_inside spec_opened
  obtain ⟨_, checked, read⟩ := ok_of_bind read
  obtain ⟨spec, spec_read, read⟩ := ok_of_bind read
  obtain ⟨status, status_read, read⟩ := ok_of_bind read
  obtain ⟨finalizers, listed, read⟩ := ok_of_bind read
  cases read
  have metadata_there : (Value.mapping head).under "metadata" = .mapping metadata := metadata_eq
  have spec_there : (Value.mapping head).under "spec" = .mapping entries := spec_eq
  constructor
  case mapping => rfl
  case version => exact version
  case kind => exact kind
  case metadata => rw [metadata_there]; rfl
  case named => rw [metadata_there]; exact full
  case spec => rw [spec_there]; rfl
  case parts => rw [spec_there]; exact isTrue_of_checkParts checked
  case specified => exact spec_read
  case status => exact status_read
  case finalizers => rw [metadata_there]; exact listed
  all_goals rw [metadata_there]; rfl

/-! ### The parts of a document -/

theorem items_of_listOf {value : Value} {items : List Value} (listed : listOf value = .ok items) :
    Record.items? value = some items := by
  unfold listOf at listed
  split at listed
  · rename_i there
    rw [there, Except.ok.inj listed]
  · cases listed

theorem isJson_orElse {value absent : Value} (json : value.isJson = true) (other : absent.isJson = true) :
    (orElse value absent).isJson = true := by
  unfold orElse
  split <;> assumption

/-- What is read from JSON is equal to itself: nothing else gets into an image than parts of its document. -/
theorem same_of_isJson {document : Value} {image : Image} (json : document.isJson = true)
    (read : ofDocument document = .ok image) : image.same image = true := by
  have reads := reads_of_ofDocument read
  have metadata := Value.isJson_under json "metadata"
  have name : image.name.isJson = true := reads.name ▸ Value.isJson_under metadata "name"
  have space : image.space.isJson = true :=
    reads.space ▸ isJson_orElse (Value.isJson_under metadata "namespace") rfl
  have deletion : image.deletion.isJson = true := reads.deletion ▸ Value.isJson_under metadata "deletionTimestamp"
  have finalizers : Value.areJson image.finalizers = true :=
    Value.areJson_items (isJson_orElse (Value.isJson_under metadata "finalizers") rfl)
      (items_of_listOf reads.finalizers)
  simp [same, Value.same_of_isJson, Value.sameItems_of_areJson, name, space, deletion, finalizers]

/-- Documents round-trip: the document of an image that was read from JSON is read as an equal image, which has the same
document. Only a deletion mark that is there and counts as none would be left out on the way. -/
theorem document_rereads {document : Value} {image : Image} (json : document.isJson = true)
    (mark : (document.under "metadata").under "deletionTimestamp" = .null ∨
      ((document.under "metadata").under "deletionTimestamp").isTrue = true)
    (read : ofDocument document = .ok image) :
    ∃ again, ofDocument image.document = .ok again ∧ again = image ∧ again.same image = true ∧
      again.document = image.document := by
  have kept : image.deletion.isTrue = true ∨ image.deletion = .null := by
    rw [(reads_of_ofDocument read).deletion]
    exact mark.symm
  exact ⟨image, ofDocument_document (isWhole_of_document read) kept, rfl, same_of_isJson json read, rfl⟩

/-- A document with values of many types: a number as name, a list as namespace, an object as finalizers, a number as
mark, truth values and lists in the specification, a text as truth. -/
def motley : Value :=
  .mapping [
    (.text "apiVersion", .text "infrastructure.cluster.x-k8s.io/v2"),
    (.text "kind", .text "IBMPowerVSImage"),
    (.text "metadata", .mapping [
      (.text "name", .int 7),
      (.text "namespace", .sequence [.text "a", .null]),
      (.text "finalizers", .mapping [(.text "held", .bool false), (.text "kept", .int 2)]),
      (.text "deletionTimestamp", .int 1)]),
    (.text "spec", .mapping [
      (.text "serviceInstanceID", .int 12),
      (.text "bucket", .bool true),
      (.text "object", .sequence [.int 1]),
      (.text "region", .text "us-south"),
      (.text "storageType", .null)]),
    (.text "status", .mapping [(.text "ready", .text "no"), (.text "imageState", .text "failed")])]

theorem motley_rereads :
    ∃ image again, ofDocument motley = .ok image ∧ image.spec.object = "[1]" ∧
      image.finalizers.map Value.plain = ["held", "kept"] ∧ ofDocument image.document = .ok again ∧
      again.same image = true ∧ again.document = image.document := by
  have json : motley.isJson = true := by decide
  obtain ⟨again, read, -, same, document⟩ := document_rereads json (.inr (by decide)) rfl
  exact ⟨_, again, rfl, by decide, by decide, read, same, document⟩

end ImageOperator.Image
