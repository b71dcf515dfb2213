import ImageOperator.Cloud.Basic
import ImageOperator.Proofs.Value.Json

set_option autoImplicit false

/-!
Field dictionaries read again. Whatever a record was read from, its fields are texts then, and what is written of it is
read as the same record: writing what was read brings a dictionary into a form that stays.
-/

namespace ImageOperator

namespace Record

/-- What is written of a record that was read from a value is JSON, is read as the same record, and is written of that
one again. -/
def Settles {α : Type} (read : Value → Except Fault α) (write : α → Value) (value : Value) : Prop :=
  ∀ held, read value = .ok held →
    (write held).isJson = true ∧ ∃ again, read (write held) = .ok again ∧ again = held ∧ write again = write held

/-- It is enough to know of what shape the records are that are read, and that records of the shape are read from what
is written of them. -/
theorem settles_of {α : Type} {read : Value → Except Fault α} {write : α → Value} (shape : α → Prop)
    (shaped : ∀ value held, read value = .ok held → shape held)
    (settled : ∀ held, shape held → (write held).isJson = true ∧ read (write held) = .ok held) (value : Value) :
    Settles read write value := by
  intro held given
  obtain ⟨json, again⟩ := settled held (shaped value held given)
  exact ⟨json, held, again, rfl, rfl⟩

theorem text_of_isText {value : Value} (shaped : value.isText = true) : .text value.plain = value := by
  obtain ⟨text, rfl⟩ := Value.text_of_isText shaped
  rfl

theorem isJson_of_isText {value : Value} (shaped : value.isText = true) : value.isJson = true := by
  obtain ⟨text, rfl⟩ := Value.text_of_isText shaped
  rfl

theorem same_of_isText {value : Value} (shaped : value.isText = true) : value.same value = true :=
  Value.same_of_isJson (isJson_of_isText shaped)

end Record

namespace ImportRequest

theorem isText_of_ofFields {value : Value} {request : ImportRequest} (read : ofFields value = .ok request) :
    request.imageName.isText = true := by
  obtain ⟨entries, _, read⟩ := ok_of_bind read
  obtain ⟨imageName, _, read⟩ := ok_of_bind read
  obtain ⟨bucketName, _, read⟩ := ok_of_bind read
  obtain ⟨region, _, read⟩ := ok_of_bind read
  obtain ⟨imageFilename, _, read⟩ := ok_of_bind read
  obtain ⟨storageType, _, read⟩ := ok_of_bind read
  cases read
  rfl

theorem ofFields_fields {request : ImportRequest} (named : request.imageName.isText = true) :
    ofFields request.fields = .ok request := by
  obtain ⟨imageName, bucketName, region, imageFilename, storageType, bucketAccess⟩ := request
  obtain ⟨name, rfl⟩ := Value.text_of_isText named
  rfl

theorem isJson_fields {request : ImportRequest} (named : request.imageName.isText = true) :
    request.fields.isJson = true := by
  obtain ⟨imageName, bucketName, region, imageFilename, storageType, bucketAccess⟩ := request
  obtain ⟨name, rfl⟩ := Value.text_of_isText named
  rfl

end ImportRequest

namespace Image

theorem Spec.isJson_fields (spec : Spec) : spec.fields.isJson = true := rfl

theorem Status.isJson_fields (status : Status) : status.fields.isJson = true := rfl

/-- Images all of whose own fields are texts; the mark may be missing. -/
structure IsTextual (image : Image) : Prop where
  name : image.name.isText = true
  space : image.space.isText = true
  finalizers : ∀ finalizer ∈ image.finalizers, finalizer.isText = true
  deletion : image.deletion = .null ∨ image.deletion.isText = true

theorem isText_of_finalizersOf {value : Value} {finalizers : List Value}
    (read : finalizersOf value = .ok finalizers) : ∀ finalizer ∈ finalizers, finalizer.isText = true := by
  intro finalizer held
  unfold finalizersOf at read
  split at read
  · rw [← Except.ok.inj read] at held
    obtain ⟨item, _, rfl⟩ := List.mem_map.mp held
    rfl
  · cases read

section Parts

variable (entries : Entries)

def specIn : Except Fault Spec :=
  match entries.get? "spec" with
  | some value => partOf "spec" "ImageSpec" Spec.ofFields value
  | none => .error (.fieldAbsent owner "spec" "ImageSpec")

def statusIn : Except Fault Status :=
  match entries.get? "status" with
  | some value => partOf "status" "ImageStatus" Status.ofFields value
  | none => .ok Status.fresh

def finalizersIn : Except Fault (List Value) :=
  match entries.get? "finalizers" with
  | some value => finalizersOf value
  | none => .ok []

def markIn : Value :=
  match entries.get? "deletion_timestamp" with
  | none | some .null => .null
  | some value => .text value.plain

end Parts

/-- Reading an image with each part read on its own, those with defaults too. -/
theorem ofFields_parts (value : Value) :
    ofFields value = (do
      let entries ← Record.entries "image_import.manifest.ManagedImage" value
      let name ← Record.text entries owner "name" "name"
      let space ← Record.text entries owner "namespace" "namespace"
      let spec ← specIn entries
      let status ← statusIn entries
      let finalizers ← finalizersIn entries
      return { name := .text name, space := .text space, spec, status, finalizers, deletion := markIn entries }) := by
  unfold ofFields
  refine bind_congr fun entries => bind_congr fun name => bind_congr fun space => ?_
  unfold specIn statusIn finalizersIn
  cases entries.get? "spec" <;> cases entries.get? "status" <;> cases entries.get? "finalizers" <;> rfl

theorem isText_of_finalizersIn {entries : Entries} {finalizers : List Value}
    (read : finalizersIn entries = .ok finalizers) : ∀ finalizer ∈ finalizers, finalizer.isText = true := by
  unfold finalizersIn at read
  split at read
  · exact isText_of_finalizersOf read
  · cases read
    simp

theorem null_or_isText_markIn (entries : Entries) : markIn entries = .null ∨ (markIn entries).isText = true := by
  unfold markIn
  split
  · exact .inl rfl
  · exact .inl rfl
  · exact .inr rfl

theorem isTextual_of_ofFields {value : Value} {image : Image} (read : ofFields value = .ok image) :
    image.IsTextual := by
  rw [ofFields_parts] at read
  obtain ⟨entries, _, read⟩ := ok_of_bind read
  obtain ⟨name, _, read⟩ := ok_of_bind read
  obtain ⟨space, _, read⟩ := ok_of_bind read
  obtain ⟨spec, _, read⟩ := ok_of_bind read
  obtain ⟨status, _, read⟩ := ok_of_bind read
  obtain ⟨finalizers, listed, read⟩ := ok_of_bind read
  cases read
  exact ⟨rfl, rfl, isText_of_finalizersIn listed, null_or_isText_markIn entries⟩

/-- The entries of the fields of an image. -/
def fieldEntries (image : Image) : Entries :=
  [(.text "name", image.name), (.text "namespace", image.space), (.text "spec", image.spec.fields),
    (.text "status", image.status.fields), (.text "finalizers", .sequence image.finalizers)] ++
    if image.deletion.isNull then [] else [(.text "deletion_timestamp", image.deletion)]

theorem finalizersIn_fieldEntries {image : Image} (texts : ∀ finalizer ∈ image.finalizers, finalizer.isText = true) :
    finalizersIn image.fieldEntries = .ok image.finalizers := by
  have same : image.finalizers.map (fun item => Value.text item.plain) = image.finalizers.map fun item => item :=
    List.map_congr_left fun finalizer held => Record.text_of_isText (texts finalizer held)
  rw [List.map_id'] at same
  exact congrArg Except.ok same

/-- A mark that is not there is left out, and what is left out is read as none. -/
theorem markIn_fieldEntries {image : Image} (given : image.deletion = .null ∨ image.deletion.isText = true) :
    markIn image.fieldEntries = image.deletion := by
  unfold markIn fieldEntries
  rcases given with unmarked | marked
  · rw [unmarked]
    rfl
  · obtain ⟨mark, same⟩ := Value.text_of_isText marked
    rw [same]
    rfl

theorem ofFields_fields {image : Image} (textual : image.IsTextual) : ofFields image.fields = .ok image := by
  have opened : Record.entries "image_import.manifest.ManagedImage" image.fields = .ok image.fieldEntries := rfl
  have name : Record.text image.fieldEntries owner "name" "name" = .ok image.name.plain := rfl
  have space : Record.text image.fieldEntries owner "namespace" "namespace" = .ok image.space.plain := rfl
  have spec : specIn image.fieldEntries = .ok image.spec := by
    show partOf "spec" "ImageSpec" Spec.ofFields image.spec.fields = .ok image.spec
    rw [partOf, image.spec.ofFields_fields]
  have status : statusIn image.fieldEntries = .ok image.status := by
    show partOf "status" "ImageStatus" Status.ofFields image.status.fields = .ok image.status
    rw [partOf, image.status.ofFields_fields]
  rw [ofFields_parts, then_of_ok opened, then_of_ok name, then_of_ok space, then_of_ok spec, then_of_ok status,
    then_of_ok (finalizersIn_fieldEntries textual.finalizers), markIn_fieldEntries textual.deletion,
    Record.text_of_isText textual.name, Record.text_of_isText textual.space]
  rfl

theorem isJson_fields {image : Image} (textual : image.IsTextual) : image.fields.isJson = true := by
  have finalizers : Value.areJson image.finalizers = true :=
    Value.areJson_iff.mpr fun finalizer held => Record.isJson_of_isText (textual.finalizers finalizer held)
  have name := Record.isJson_of_isText textual.name
  have space := Record.isJson_of_isText textual.space
  unfold fields
  rcases textual.deletion with unmarked | marked
  · simp [Value.isJson, Value.isObject, Value.isText, Value.isNull, unmarked, name, space, finalizers,
      Spec.isJson_fields, Status.isJson_fields]
  · obtain ⟨mark, same⟩ := Value.text_of_isText marked
    simp [Value.isJson, Value.isObject, Value.isText, Value.isNull, same, name, space, finalizers,
      Spec.isJson_fields, Status.isJson_fields]

/-- An image of texts is equal to itself, part by part. -/
theorem same_of_isTextual {image : Image} (textual : image.IsTextual) : image.same image = true := by
  have finalizers : Value.sameItems image.finalizers image.finalizers = true :=
    Value.sameItems_of_areJson <| Value.areJson_iff.mpr fun finalizer held =>
      Record.isJson_of_isText (textual.finalizers finalizer held)
  have deletion : image.deletion.same image.deletion = true := by
    rcases textual.deletion with unmarked | marked
    · rw [unmarked]
      rfl
    · exact Record.same_of_isText marked
  simp [same, Record.same_of_isText textual.name, Record.same_of_isText textual.space, finalizers, deletion]

end Image

namespace Record

/-- Field dictionaries round-trip for all four records, whatever value they are read from; and an image that is read
again is equal to the first also as values are compared. -/
theorem field_dictionaries_settle (value : Value) :
    (Settles Image.ofFields Image.fields value ∧
        ∀ image, Image.ofFields value = .ok image → image.same image = true) ∧
      Settles Image.Spec.ofFields Image.Spec.fields value ∧
      Settles Image.Status.ofFields Image.Status.fields value ∧
      Settles ImportRequest.ofFields ImportRequest.fields value := by
  refine ⟨⟨?_, ?_⟩, ?_, ?_, ?_⟩
  · exact settles_of Image.IsTextual (fun _ _ => Image.isTextual_of_ofFields)
      (fun _ textual => ⟨Image.isJson_fields textual, Image.ofFields_fields textual⟩) value
  · exact fun image read => Image.same_of_isTextual (Image.isTextual_of_ofFields read)
  · exact settles_of (fun _ => True) (fun _ _ _ => trivial)
      (fun spec _ => ⟨spec.isJson_fields, spec.ofFields_fields⟩) value
  · exact settles_of (fun _ => True) (fun _ _ _ => trivial)
      (fun status _ => ⟨status.isJson_fields, status.ofFields_fields⟩) value
  · exact settles_of (fun request => request.imageName.isText = true) (fun _ _ => ImportRequest.isText_of_ofFields)
      (fun _ named => ⟨ImportRequest.isJson_fields named, ImportRequest.ofFields_fields named⟩) value

/-- The fields of an image with hardly a text among them, and one field too many. -/
def motleyFields : Value :=
  .mapping [
    (.text "name", .int 7),
    (.text "namespace", .sequence [.bool true, .null]),
    (.text "spec", .mapping [(.text "serviceInstanceID", .null), (.text "bucket", .bool false),
      (.text "object", .int 0), (.text "region", .mapping []), (.text "tier", .text "tier3")]),
    (.text "finalizers", .mapping [(.text "held", .null)]),
    (.text "deletion_timestamp", .bool false),
    (.text "uid", .text "u-1")]

def motleyImage : Image :=
  { name := .text "7", space := .text "[True, None]", spec := ⟨"None", "False", "0", "\x7b\x7d", "tier1"⟩,
    status := Image.Status.fresh, finalizers := [.text "held"], deletion := .text "False" }

theorem motleyFields_read : Image.ofFields motleyFields = .ok motleyImage := by rfl

theorem field_dictionaries_settle_of_motley :
    Image.ofFields motleyFields = .ok motleyImage ∧ motleyImage.fields.isJson = true ∧
      Image.ofFields motleyImage.fields = .ok motleyImage := by
  obtain ⟨json, again, read, same, _⟩ := (field_dictionaries_settle motleyFields).1.1 motleyImage motleyFields_read
  exact ⟨motleyFields_read, json, same ▸ read⟩

end Record

end ImageOperator
