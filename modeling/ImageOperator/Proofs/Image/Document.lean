import ImageOperator.Disk.Format
import ImageOperator.Image.Document

set_option autoImplicit false

/-!
What documents keep of an image. Images that are read from a document have all the parts that a document must have,
and an image with these parts is read back from its own document as it was.
-/

namespace ImageOperator

theorem Decimal.chars_ne_nil (decimal : Decimal) : decimal.chars ≠ [] := by
  unfold chars positional exponential
  dsimp only
  repeat' split
  all_goals simp

theorem Binary64.text_ne_empty (number : Binary64) : number.text ≠ "" := by
  unfold text
  split
  · decide
  · simp only [ne_eq, String.ofList_eq_empty_iff]
    split <;> simp [Decimal.chars_ne_nil]
  · decide
  · split <;> decide
  · decide

namespace Value

/-- What counts as true has a text that is not empty. -/
theorem plain_ne_empty {value : Value} (full : value.isTrue = true) : value.plain ≠ "" := by
  cases value with
  | null => cases full
  | bool b => cases b <;> decide
  | int i => cases i <;> simp [plain, literal, Int.repr, Nat.repr_ne_empty]
  | float x => exact x.text_ne_empty
  | text s => simpa [plain, isTrue] using full
  | bytes data => simp [plain, literal, Text.byteLiteral]
  | date d => simp [plain, Date.iso]
  | timestamp t => simp [plain, Timestamp.isoWith, Date.iso]
  | sequence items | mapping entries => simp [plain, literal]
  | tuple items =>
    simp only [plain, literal]
    unfold tupleText
    split <;> simp
  | set members =>
    simp only [plain, literal]
    unfold setText
    split <;> simp

theorem text_isTrue {text : String} (full : text ≠ "") : (Value.text text).isTrue = true := by
  simpa [isTrue] using full

def isText : Value → Bool
  | .text _ => true
  | _ => false

mutual

/-- Mappings with texts as keys, each once, down to texts, truth values and lists of texts. -/
def isSimple : Value → Bool
  | .text _ | .bool _ => true
  | .sequence items => items.all isText
  | .mapping entries => areSimple entries
  | _ => false

def areSimple : List (Value × Value) → Bool
  | [] => true
  | (name, value) :: rest =>
    name.isText && rest.all (fun other => other.1.key? ≠ name.key?) && isSimple value && areSimple rest

end

mutual

/-- Whether two values are of the simple kind and the same. -/
def agrees : Value → Value → Bool
  | .text s, .text t => s = t
  | .bool a, .bool b => a = b
  | .sequence items, .sequence others => itemsAgree items others
  | .mapping entries, .mapping others => entriesAgree entries others
  | _, _ => false

def itemsAgree : List Value → List Value → Bool
  | [], [] => true
  | item :: rest, other :: others => agrees item other && itemsAgree rest others
  | _, _ => false

def entriesAgree : List (Value × Value) → List (Value × Value) → Bool
  | [], [] => true
  | (name, value) :: rest, (otherName, other) :: others =>
    agrees name otherName && agrees value other && entriesAgree rest others
  | _, _ => false

end

mutual

theorem eq_of_agrees {value other : Value} (same : agrees value other = true) : value = other := by
  unfold agrees at same
  split at same
  · rw [of_decide_eq_true same]
  · rw [of_decide_eq_true same]
  · rw [eq_of_itemsAgree same]
  · rw [eq_of_entriesAgree same]
  · cases same

theorem eq_of_itemsAgree {items others : List Value} (same : itemsAgree items others = true) : items = others := by
  unfold itemsAgree at same
  split at same
  · rfl
  · obtain ⟨first, rest⟩ := Bool.and_eq_true_iff.mp same
    rw [eq_of_agrees first, eq_of_itemsAgree rest]
  · cases same

theorem eq_of_entriesAgree {entries others : List (Value × Value)} (same : entriesAgree entries others = true) :
    entries = others := by
  unfold entriesAgree at same
  split at same
  · rfl
  · simp only [Bool.and_eq_true] at same
    obtain ⟨⟨name, value⟩, rest⟩ := same
    rw [eq_of_agrees name, eq_of_agrees value, eq_of_entriesAgree rest]
  · cases same

end

end Value

/-- The format gives a value back that it has written. -/
def Format.Restores (format : Format) (value : Value) : Prop :=
  format.read (format.write value) = .ok value

/-- What is read from the text of a simple value tells whether the format gives it back. -/
theorem Format.restores_of_agrees {format : Format} {value : Value} {text : String}
    (written : format.write value = text) (read : (format.read text).toOption.any value.agrees = true) :
    format.Restores value := by
  rw [Restores, written]
  cases there : format.read text with
  | error fault =>
    rw [there] at read
    cases read
  | ok other =>
    rw [there] at read
    have same : value = other := Value.eq_of_agrees read
    rw [same]

theorem ok_of_bind {α β : Type} {first : Except Fault α} {next : α → Except Fault β} {result : β}
    (ran : (first >>= next) = .ok result) : ∃ value, first = .ok value ∧ next value = .ok result := by
  cases first with
  | error fault => cases ran
  | ok value => exact ⟨value, rfl, ran⟩

theorem then_of_ok {α β : Type} {first : Except Fault α} {value : α} (done : first = .ok value)
    (next : α → Except Fault β) : (first >>= next) = next value := by
  rw [done]
  rfl

namespace Image

/-- Whether the image has all the parts that a document must have. -/
def isWhole (image : Image) : Bool :=
  image.name.isTrue && image.space.isTrue && image.spec.workspace ≠ "" && image.spec.bucket ≠ "" &&
    image.spec.object ≠ "" && image.spec.region ≠ ""

theorem isTrue_of_part {document value given : Value} {path : String} (there : part document path value = .ok given) :
    given = value ∧ value.isTrue = true := by
  unfold part at there
  split at there
  · rename_i full
    exact ⟨(Except.ok.inj there).symm, full⟩
  · cases there

theorem isTrue_of_checkParts {document : Value} {entries : Entries} {names : List String}
    (checked : checkParts document entries names = .ok ()) : ∀ name ∈ names, (entries.get name).isTrue = true := by
  induction names with
  | nil => simp
  | cons first rest ih =>
    unfold checkParts at checked
    split at checked
    · rename_i there
      intro name held
      rcases List.mem_cons.mp held with rfl | later
      · exact (isTrue_of_part there).2
      · exact ih checked name later
    · cases checked

theorem text_ne_empty {entries : Entries} {owner field key text : String} (full : (entries.get key).isTrue = true)
    (read : Record.text entries owner field key = .ok text) : text ≠ "" := by
  unfold Record.text at read
  split at read
  · rename_i value there
    rw [← Except.ok.inj read]
    apply Value.plain_ne_empty
    simpa [Entries.get, there] using full
  · cases read

theorem orElse_isTrue {value absent : Value} (full : absent.isTrue = true) : (orElse value absent).isTrue = true := by
  unfold orElse
  split <;> assumption

theorem Spec.parts_ne_empty {entries : Entries} {spec : Spec}
    (full : ∀ name ∈ requiredParts, (entries.get name).isTrue = true)
    (read : Spec.ofFields (.mapping entries) = .ok spec) :
    spec.workspace ≠ "" ∧ spec.bucket ≠ "" ∧ spec.object ≠ "" ∧ spec.region ≠ "" := by
  obtain ⟨_, ⟨⟩, read⟩ := ok_of_bind read
  obtain ⟨workspace, workspace_read, read⟩ := ok_of_bind read
  obtain ⟨bucket, bucket_read, read⟩ := ok_of_bind read
  obtain ⟨object, object_read, read⟩ := ok_of_bind read
  obtain ⟨region, region_read, read⟩ := ok_of_bind read
  cases read
  exact ⟨text_ne_empty (full _ (by decide)) workspace_read, text_ne_empty (full _ (by decide)) bucket_read,
    text_ne_empty (full _ (by decide)) object_read, text_ne_empty (full _ (by decide)) region_read⟩

theorem isWhole_of_document {document : Value} {image : Image} (read : ofDocument document = .ok image) :
    image.isWhole = true := by
  obtain ⟨head, -, read⟩ := ok_of_bind read
  obtain ⟨_, -, read⟩ := ok_of_bind read
  obtain ⟨_, -, read⟩ := ok_of_bind read
  obtain ⟨metadata, -, read⟩ := ok_of_bind read
  obtain ⟨name, named, read⟩ := ok_of_bind read
  obtain ⟨specified, -, read⟩ := ok_of_bind read
  obtain ⟨entries, opened, read⟩ := ok_of_bind read
  obtain ⟨_, checked, read⟩ := ok_of_bind read
  obtain ⟨spec, spec_read, read⟩ := ok_of_bind read
  obtain ⟨status, -, read⟩ := ok_of_bind read
  obtain ⟨finalizers, -, read⟩ := ok_of_bind read
  cases read
  unfold inside at opened
  split at opened
  · cases opened
    have parts := Spec.parts_ne_empty (isTrue_of_checkParts checked) spec_read
    obtain ⟨rfl, full⟩ := isTrue_of_part named
    have placed := @orElse_isTrue (metadata.get "namespace") (.text defaultSpace) rfl
    simp [isWhole, parts, full, placed]
  · cases opened

/-! ### Documents of images -/

theorem part_of_isTrue (document : Value) (path : String) {value : Value} (full : value.isTrue = true) :
    part document path value = .ok value := by
  simp only [part, full, ↓reduceIte]

theorem checkVersion_version (document : Value) : checkVersion document (.text version) = .ok () := by
  have own : domain.toList.isPrefixOf version.toList = true := by decide
  have full : (Value.text version).isTrue = true := by decide
  simp only [checkVersion, full, own, Bool.not_true, Bool.false_eq_true, ↓reduceIte]

theorem Spec.ofFields_fields (spec : Spec) : Spec.ofFields spec.fields = .ok spec := rfl

theorem Status.ofFields_fields (status : Status) : Status.ofFields status.fields = .ok status := by
  obtain ⟨ready, imageId, phase, jobId⟩ := status
  cases phase <;> rfl

/-- The entries of the metadata of an image. -/
def metadataEntries (image : Image) : Entries :=
  [(.text "name", image.name), (.text "namespace", image.space)] ++
    (if image.finalizers.isEmpty then [] else [(.text "finalizers", .sequence image.finalizers)]) ++
    (if image.deletion.isTrue then [(.text "deletionTimestamp", image.deletion)] else [])

theorem finalizers_metadata (image : Image) :
    listOf (orElse (image.metadataEntries.get "finalizers") (.sequence [])) = .ok image.finalizers := by
  unfold metadataEntries
  cases image.finalizers <;> cases image.deletion.isTrue <;> rfl

/-- A mark that counts as none is left out, so it has to be none. -/
theorem deletion_metadata {image : Image} (mark : image.deletion.isTrue = true ∨ image.deletion = .null) :
    image.metadataEntries.get "deletionTimestamp" = image.deletion := by
  unfold metadataEntries
  rcases mark with marked | unmarked
  · cases image.finalizers.isEmpty <;> simp only [marked] <;> rfl
  · cases image.finalizers.isEmpty <;> simp only [unmarked] <;> rfl

theorem checkParts_of_isWhole {image : Image} (whole : image.isWhole = true) {entries : Entries}
    (fields : image.spec.fields = .mapping entries) (document : Value) :
    checkParts document entries requiredParts = .ok () := by
  cases fields
  simp only [isWhole, Bool.and_eq_true, decide_eq_true_eq] at whole
  obtain ⟨⟨⟨⟨_, workspace⟩, bucket⟩, object⟩, region⟩ := whole
  simp [checkParts, requiredParts, Entries.get, Entries.get?, part_of_isTrue, Value.text_isTrue, workspace, bucket,
    object, region]

/-- An image with all its parts is what its document is read as. -/
theorem ofDocument_document {image : Image} (whole : image.isWhole = true)
    (mark : image.deletion.isTrue = true ∨ image.deletion = .null) : ofDocument image.document = .ok image := by
  have full : image.name.isTrue = true ∧ image.space.isTrue = true := by
    simp only [isWhole, Bool.and_eq_true] at whole
    exact whole.1.1.1.1
  obtain ⟨head, opened⟩ : ∃ head, inside image.document = .ok head := ⟨_, rfl⟩
  obtain ⟨specified, spec_opened⟩ : ∃ specified, image.spec.fields = .mapping specified := ⟨_, rfl⟩
  have version : head.get "apiVersion" = .text version := by cases opened; rfl
  have kind : head.get "kind" = .text kind := by cases opened; rfl
  have metadata : head.get "metadata" = .mapping image.metadataEntries := by cases opened; rfl
  have spec : head.get "spec" = image.spec.fields := by cases opened; rfl
  have status : orElse (head.get "status") (.mapping []) = image.status.fields := by cases opened; rfl
  have name : image.metadataEntries.get "name" = image.name := rfl
  have space : orElse (image.metadataEntries.get "namespace") (.text defaultSpace) = image.space :=
    if_pos full.2
  have described : part image.document "metadata" (.mapping image.metadataEntries) =
      .ok (.mapping image.metadataEntries) := part_of_isTrue _ _ rfl
  have specified_part : part image.document "spec" image.spec.fields = .ok image.spec.fields := part_of_isTrue _ _ rfl
  have inner : inside image.spec.fields = .ok specified := by rw [spec_opened]; rfl
  unfold ofDocument
  rw [then_of_ok opened, version, then_of_ok (checkVersion_version _), kind,
    then_of_ok (rfl : checkKind image.document (.text Image.kind) = .ok ()), metadata, then_of_ok described]
  rw [then_of_ok (rfl : inside (.mapping image.metadataEntries) = .ok image.metadataEntries), name,
    then_of_ok (part_of_isTrue _ _ full.1), spec, then_of_ok specified_part, then_of_ok inner,
    then_of_ok (checkParts_of_isWhole whole spec_opened _), then_of_ok image.spec.ofFields_fields, status,
    then_of_ok image.status.ofFields_fields, then_of_ok image.finalizers_metadata, space, deletion_metadata mark]
  rfl

/-! ### Images with a document of their own -/

/-- Texts without a slash. -/
def namesFile : Value → Bool
  | .text name => !name.toList.contains '/'
  | _ => false

/-- Texts without a slash that stand for no other folder. -/
def namesFolder : Value → Bool
  | .text name => !name.toList.contains '/' && name ≠ "." && name ≠ ".."
  | _ => false

/-- No mark at all, or a text that says something. -/
def isMark : Value → Bool
  | .null => true
  | .text mark => mark ≠ ""
  | _ => false

/-- Whether the image can be filed under its namespace and name, and the rest of it is text. -/
def isFileable (image : Image) : Bool :=
  namesFile image.name && namesFolder image.space && image.finalizers.all Value.isText && isMark image.deletion

/-- What an image has to have for its document to stand for it. -/
structure Portable (image : Image) : Prop where
  fileable : image.isFileable = true
  whole : image.isWhole = true

theorem text_of_namesFile {value : Value} (names : namesFile value = true) :
    ∃ name, value = .text name ∧ '/' ∉ name.toList := by
  cases value with
  | text name => exact ⟨name, rfl, by simpa [namesFile] using names⟩
  | null | bool | int | float | bytes | date | timestamp | sequence | tuple | mapping | set => cases names

theorem text_of_namesFolder {value : Value} (names : namesFolder value = true) :
    ∃ name, value = .text name ∧ '/' ∉ name.toList ∧ name ≠ "." ∧ name ≠ ".." := by
  cases value with
  | text name => exact ⟨name, rfl, by simpa [namesFolder, and_assoc] using names⟩
  | null | bool | int | float | bytes | date | timestamp | sequence | tuple | mapping | set => cases names

theorem full_of_isMark {value : Value} (mark : isMark value = true) :
    value = .null ∨ ∃ text, value = .text text ∧ text ≠ "" := by
  cases value with
  | null => exact .inl rfl
  | text text => exact .inr ⟨text, rfl, by simpa [isMark] using mark⟩
  | bool | int | float | bytes | date | timestamp | sequence | tuple | mapping | set => cases mark

section

variable {image : Image}

theorem isSimple_metadata (fileable : image.isFileable = true) : image.metadata.isSimple = true := by
  obtain ⟨name, space, spec, status, finalizers, deletion⟩ := image
  simp only [isFileable, Bool.and_eq_true] at fileable
  obtain ⟨⟨⟨named, placed⟩, texts⟩, mark⟩ := fileable
  obtain ⟨name, rfl, _⟩ := text_of_namesFile named
  obtain ⟨space, rfl, _⟩ := text_of_namesFolder placed
  have listed : (Value.sequence finalizers).isSimple = true := texts
  unfold metadata
  generalize Value.sequence finalizers = list at listed
  rcases full_of_isMark mark with rfl | ⟨text, rfl, full⟩
  · cases finalizers.isEmpty <;> simp [Value.isSimple, Value.areSimple, Value.isText, Value.isTrue, listed]
  · have marked := Value.text_isTrue full
    cases finalizers.isEmpty <;> simp [Value.isSimple, Value.areSimple, Value.isText, listed, marked]

theorem isSimple_document (fileable : image.isFileable = true) : image.document.isSimple = true := by
  have spec : image.spec.fields.isSimple = true := rfl
  have status : image.status.fields.isSimple = true := rfl
  have metadata := isSimple_metadata fileable
  simp [document, Value.isSimple, Value.areSimple, Value.isText, spec, status, metadata]

theorem isMark_of_isFileable (fileable : image.isFileable = true) : isMark image.deletion = true := by
  simp only [isFileable, Bool.and_eq_true] at fileable
  exact fileable.2

theorem Portable.ofDocument_document (portable : image.Portable) : ofDocument image.document = .ok image := by
  refine Image.ofDocument_document portable.whole ?_
  rcases full_of_isMark (isMark_of_isFileable portable.fileable) with unmarked | ⟨text, marked, full⟩
  · exact .inr unmarked
  · exact .inl (marked ▸ Value.text_isTrue full)

/-- A mark of some time keeps an image portable. -/
theorem Portable.marked (portable : image.Portable) {now : String} (said : now ≠ "") :
    (image.marked now).Portable := by
  unfold Image.marked
  split
  · exact portable
  · refine ⟨?_, portable.whole⟩
    have fileable := portable.fileable
    simp only [isFileable, Bool.and_eq_true] at fileable ⊢
    exact ⟨fileable.1, by simpa [isMark] using said⟩

end

end Image

end ImageOperator
