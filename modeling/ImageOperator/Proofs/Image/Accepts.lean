import ImageOperator.Proofs.Image.Reading

set_option autoImplicit false

/-!
Which values are documents of images, and what the others are refused with. The reader makes its demands in order, from
the outside in; a document is refused with the fault of the first one that it does not meet.
-/

namespace ImageOperator.Image

/-! ### What is demanded -/

/-- Texts that begin with the domain, whatever the version after it. -/
def isOwnVersion : Value → Bool
  | .text version => "infrastructure.cluster.x-k8s.io".toList.isPrefixOf version.toList
  | _ => false

def isOwnKind : Value → Bool
  | .text kind => kind = "IBMPowerVSImage"
  | _ => false

/-- What can be gone through one by one: texts, lists, mappings, and what other formats than JSON have of the kind. -/
def isListable : Value → Bool
  | .text _ | .sequence _ | .mapping _ | .bytes _ | .tuple _ | .set _ => true
  | .null | .bool _ | .int _ | .float _ | .date _ | .timestamp _ => false

/-- A status says nothing of the phase, or one of the four. -/
def NamesPhase (status : Value) : Prop :=
  ∀ phase, status.under? "imageState" = some phase →
    ∃ name ∈ ["unknown", "importing", "available", "failed"], phase = .text name

/-- What a document of an image has up to its specification. -/
structure IsHeaded (document : Value) : Prop where
  mapping : document.isMapping = true
  version : isOwnVersion (document.under "apiVersion") = true
  kind : isOwnKind (document.under "kind") = true
  metadata : (document.under "metadata").isMapping = true
  name : ((document.under "metadata").under "name").isTrue = true
  spec : (document.under "spec").isMapping = true
  parts : ∀ name ∈ ["serviceInstanceID", "bucket", "object", "region"],
    ((document.under "spec").under name).isTrue = true

/-- What a document of an image has. -/
structure IsResource (document : Value) : Prop extends IsHeaded document where
  status : (document.under "status").isTrue = false ∨
    (document.under "status").isMapping = true ∧ NamesPhase (document.under "status")
  finalizers : ((document.under "metadata").under "finalizers").isTrue = false ∨
    isListable ((document.under "metadata").under "finalizers") = true

/-- The document and its parts are of the types that they should be of, where they are there and not empty. -/
structure IsShaped (document : Value) : Prop where
  whole : document.isTrue = true → document.isMapping = true
  version : (document.under "apiVersion").isTrue = true → (document.under "apiVersion").isText = true
  metadata : (document.under "metadata").isTrue = true → (document.under "metadata").isMapping = true
  spec : (document.under "spec").isTrue = true → (document.under "spec").isMapping = true

/-- The demands on the head and the specification in the order of the document, each with the fault of a document that
does not meet it. -/
def demands (document : Value) : List (Bool × Fault) :=
  [((document.under "apiVersion").isTrue, .versionAbsent document),
    (isOwnVersion (document.under "apiVersion"), .versionForeign document),
    (isOwnKind (document.under "kind"), .kindForeign (document.under "kind") document),
    ((document.under "metadata").isTrue, .partAbsent "metadata" document),
    (((document.under "metadata").under "name").isTrue, .partAbsent "metadata.name" document),
    ((document.under "spec").isTrue, .partAbsent "spec" document),
    (((document.under "spec").under "serviceInstanceID").isTrue, .partAbsent "spec.serviceInstanceID" document),
    (((document.under "spec").under "bucket").isTrue, .partAbsent "spec.bucket" document),
    (((document.under "spec").under "object").isTrue, .partAbsent "spec.object" document),
    (((document.under "spec").under "region").isTrue, .partAbsent "spec.region" document)]

/-- The fault of the first demand that is not met. -/
def firstUnmet (demands : List (Bool × Fault)) : Option Fault :=
  (demands.find? fun demand => !demand.1).map (·.2)

/-! ### Meeting demands in order -/

/-- Going through demands up to the first that is not met. -/
def meet : List (Bool × Fault) → Except Fault Unit
  | [] => .ok ()
  | (met, fault) :: rest => if met then meet rest else .error fault

theorem meet_append (first second : List (Bool × Fault)) :
    meet (first ++ second) = meet first >>= fun _ => meet second := by
  induction first with
  | nil => rfl
  | cons demand rest ih =>
    obtain ⟨_ | _, fault⟩ := demand
    · rfl
    · exact ih

theorem meet_of_firstUnmet {demands : List (Bool × Fault)} {fault : Fault} (unmet : firstUnmet demands = some fault) :
    meet demands = .error fault := by
  induction demands with
  | nil => cases unmet
  | cons demand rest ih =>
    obtain ⟨_ | _, own⟩ := demand
    · exact congrArg Except.error (Option.some.inj unmet)
    · exact ih unmet

theorem meet_of_met {demands : List (Bool × Fault)} (met : firstUnmet demands = none) : meet demands = .ok () := by
  induction demands with
  | nil => rfl
  | cons demand rest ih =>
    obtain ⟨_ | _, own⟩ := demand
    · cases met
    · exact ih met

theorem met_of_firstUnmet {demands : List (Bool × Fault)} (met : firstUnmet demands = none) :
    ∀ demand ∈ demands, demand.1 = true := by
  simpa [firstUnmet] using met

section

variable (document : Value)

theorem checkVersion_eq {value : Value} (shaped : value.isTrue = true → value.isText = true) :
    checkVersion document value =
      meet [(value.isTrue, .versionAbsent document), (isOwnVersion value, .versionForeign document)] := by
  by_cases full : value.isTrue = true
  · obtain ⟨text, rfl⟩ := Value.text_of_isText (shaped full)
    unfold checkVersion
    rw [full]
    rfl
  · rw [Bool.not_eq_true] at full
    unfold checkVersion
    rw [full]
    rfl

theorem checkKind_eq (value : Value) :
    checkKind document value = meet [(isOwnKind value, .kindForeign value document)] := by
  cases value with
  | text text =>
    by_cases own : text = kind
    · simp only [checkKind, meet, isOwnKind, own]
      rfl
    · have foreign : isOwnKind (.text text) = false := decide_eq_false own
      simp only [checkKind, meet, foreign, own, ↓reduceIte, Bool.false_eq_true]
  | null | bool | int | float | bytes | date | timestamp | sequence | tuple | mapping | set => rfl

theorem part_then {α : Type} (path : String) (value : Value) (next : Value → Except Fault α) :
    (part document path value >>= next) =
      (meet [(value.isTrue, .partAbsent path document)] >>= fun _ => next value) := by
  unfold part
  cases full : value.isTrue <;> rfl

theorem checkParts_eq (entries : Entries) (names : List String) :
    checkParts document entries names =
      meet (names.map fun name => ((entries.get name).isTrue, .partAbsent ("spec." ++ name) document)) := by
  induction names with
  | nil => rfl
  | cons name rest ih =>
    unfold checkParts part
    cases full : (entries.get name).isTrue
    · simp [meet, full]
    · simpa [meet, full] using ih

end

/-- What is read once the demands are met: the specification, the status and the rest of the metadata. -/
def fill (document : Value) : Except Fault Image := do
  let metadata := document.under "metadata"
  let spec ← Spec.ofFields (document.under "spec")
  let status ← Status.ofFields (orElse (document.under "status") (.mapping []))
  let finalizers ← listOf (orElse (metadata.under "finalizers") (.sequence []))
  return {
    name := metadata.under "name"
    space := orElse (metadata.under "namespace") (.text defaultSpace)
    spec
    status
    finalizers
    deletion := metadata.under "deletionTimestamp" }

/-- Values with another truth than `value` has do not matter to what goes on from the demand for it. -/
theorem then_of_met {α : Type} {value : Value} {fault : Fault} {next other : Except Fault α}
    (same : value.isTrue = true → next = other) :
    (meet [(value.isTrue, fault)] >>= fun _ => next) = (meet [(value.isTrue, fault)] >>= fun _ => other) := by
  cases full : value.isTrue
  · rfl
  · exact same full

theorem demands_eq (document : Value) :
    demands document =
      [((document.under "apiVersion").isTrue, .versionAbsent document),
        (isOwnVersion (document.under "apiVersion"), .versionForeign document)] ++
      ([(isOwnKind (document.under "kind"), .kindForeign (document.under "kind") document)] ++
      ([((document.under "metadata").isTrue, .partAbsent "metadata" document)] ++
      ([(((document.under "metadata").under "name").isTrue, .partAbsent "metadata.name" document)] ++
      ([((document.under "spec").isTrue, .partAbsent "spec" document)] ++
      requiredParts.map fun name =>
        (((document.under "spec").under name).isTrue, .partAbsent ("spec." ++ name) document))))) := rfl

/-- A document of the right types is read demand by demand. -/
theorem ofDocument_eq {document : Value} (mapping : document.isMapping = true) (shaped : IsShaped document) :
    ofDocument document = meet (demands document) >>= fun _ => fill document := by
  obtain ⟨head, rfl⟩ := Value.mapping_of_isMapping mapping
  have version := checkVersion_eq (.mapping head) shaped.version
  rw [demands_eq]
  simp only [meet_append, bind_assoc]
  unfold ofDocument fill
  simp only [Value.under_mapping] at version ⊢
  rw [then_of_ok (rfl : inside (.mapping head) = .ok head), version, checkKind_eq]
  refine bind_congr fun _ => bind_congr fun _ => ?_
  rw [bind_assoc, part_then]
  refine then_of_met fun described => ?_
  obtain ⟨metadata, metadata_eq⟩ := Value.mapping_of_isMapping (shaped.metadata described)
  rw [Value.under_mapping] at metadata_eq
  rw [metadata_eq, then_of_ok (rfl : inside (.mapping metadata) = .ok metadata), part_then]
  refine bind_congr fun _ => ?_
  rw [part_then]
  refine then_of_met fun specified => ?_
  obtain ⟨entries, spec_eq⟩ := Value.mapping_of_isMapping (shaped.spec specified)
  rw [Value.under_mapping] at spec_eq
  rw [spec_eq, then_of_ok (rfl : inside (.mapping entries) = .ok entries), checkParts_eq]
  rfl

/-! ### What is accepted -/

theorem isShaped_of_isHeaded {document : Value} (headed : IsHeaded document) : IsShaped document where
  whole _ := headed.mapping
  version _ := by
    have own := headed.version
    unfold isOwnVersion at own
    split at own
    · rename_i there
      rw [there]
      rfl
    · cases own
  metadata _ := headed.metadata
  spec _ := headed.spec

theorem isTrue_of_isOwnVersion {value : Value} (own : isOwnVersion value = true) : value.isTrue = true := by
  unfold isOwnVersion at own
  split at own
  · apply Value.text_isTrue
    rintro rfl
    revert own
    decide
  · cases own

theorem isTrue_of_under {value : Value} {name : String} (full : (value.under name).isTrue = true) :
    value.isTrue = true := by
  cases value with
  | mapping entries =>
    cases entries with
    | nil => cases full
    | cons => rfl
  | null | bool | int | float | text | bytes | date | timestamp | sequence | tuple | set => cases full

/-- All demands are met by what has a head and a specification, and by nothing else of the right types. -/
theorem firstUnmet_eq_none_iff {document : Value} (mapping : document.isMapping = true)
    (shaped : IsShaped document) : firstUnmet (demands document) = none ↔ IsHeaded document := by
  constructor
  · intro met
    have all := met_of_firstUnmet met
    simp only [demands, List.forall_mem_cons] at all
    obtain ⟨_, version, kind, metadata, name, spec, workspace, bucket, object, region, _⟩ := all
    exact ⟨mapping, version, kind, shaped.metadata metadata, name, shaped.spec spec,
      by simp [workspace, bucket, object, region]⟩
  · intro headed
    have versioned := isTrue_of_isOwnVersion headed.version
    have described := isTrue_of_under headed.name
    have parts := headed.parts
    simp only [List.forall_mem_cons] at parts
    obtain ⟨workspace, bucket, object, region, _⟩ := parts
    have specified := isTrue_of_under workspace
    simp [firstUnmet, demands, headed.version, headed.kind, headed.name, versioned, described, workspace, bucket,
      object, region, specified]

theorem textField {entries : Entries} {key : String} (full : (entries.get key).isTrue = true) (owner field : String) :
    ∃ text, Record.text entries owner field key = .ok text := by
  unfold Record.text
  split
  · exact ⟨_, rfl⟩
  · rename_i absent
    simp [Entries.get, absent, Value.isTrue] at full

/-- Whatever the parts of a specification are, they are converted to texts. -/
theorem Spec.ofFields_of_parts {value : Value} (shaped : value.isMapping = true)
    (full : ∀ name ∈ requiredParts, (value.under name).isTrue = true) : ∃ spec, Spec.ofFields value = .ok spec := by
  obtain ⟨entries, rfl⟩ := Value.mapping_of_isMapping shaped
  obtain ⟨workspace, workspace_read⟩ := textField (full "serviceInstanceID" (by decide)) owner "service_instance_id"
  obtain ⟨bucket, bucket_read⟩ := textField (full "bucket" (by decide)) owner "bucket"
  obtain ⟨object, object_read⟩ := textField (full "object" (by decide)) owner "object_key"
  obtain ⟨region, region_read⟩ := textField (full "region" (by decide)) owner "region"
  refine ⟨⟨workspace, bucket, object, region, Record.textOr entries "storageType" defaultTier⟩, ?_⟩
  unfold Spec.ofFields
  rw [then_of_ok (rfl : Record.entries _ (.mapping entries) = .ok entries), then_of_ok workspace_read,
    then_of_ok bucket_read, then_of_ok object_read, then_of_ok region_read]
  rfl

theorem phaseOf_iff {value : Value} :
    (∃ phase, Status.phaseOf value = .ok phase) ↔
      ∃ name ∈ ["unknown", "importing", "available", "failed"], value = .text name := by
  constructor
  · rintro ⟨phase, read⟩
    unfold Status.phaseOf at read
    split at read
    · rename_i text
      split at read
      · rename_i known there
        have named : known.text = text := by simpa [Phase.ofText?] using List.find?_some there
        exact ⟨known.text, by cases known <;> decide, by rw [named]⟩
      · cases read
    · cases read
  · rintro ⟨name, known, rfl⟩
    simp only [List.mem_cons, List.not_mem_nil, or_false] at known
    rcases known with rfl | rfl | rfl | rfl
    · exact ⟨.unknown, rfl⟩
    · exact ⟨.importing, rfl⟩
    · exact ⟨.available, rfl⟩
    · exact ⟨.failed, rfl⟩

theorem Status.ofFields_iff {value : Value} :
    (∃ status, Status.ofFields value = .ok status) ↔ value.isMapping = true ∧ NamesPhase value := by
  constructor
  · rintro ⟨status, read⟩
    cases value with
    | mapping entries =>
      obtain ⟨_, ⟨⟩, read⟩ := ok_of_bind read
      refine ⟨rfl, fun state there => phaseOf_iff.mp ?_⟩
      rw [Value.under?_mapping] at there
      rw [there] at read
      obtain ⟨phase, phase_read, _⟩ := ok_of_bind read
      exact ⟨phase, phase_read⟩
    | null | bool | int | float | text | bytes | date | timestamp | sequence | tuple | set => cases read
  · rintro ⟨shaped, named⟩
    obtain ⟨entries, rfl⟩ := Value.mapping_of_isMapping shaped
    unfold Status.ofFields
    rw [then_of_ok (rfl : Record.entries _ (.mapping entries) = .ok entries)]
    cases there : Entries.get? entries "imageState" with
    | none => exact ⟨_, rfl⟩
    | some state =>
      obtain ⟨phase, read⟩ := phaseOf_iff.mpr (named state there)
      simp only
      rw [then_of_ok read]
      exact ⟨_, rfl⟩

theorem listOf_iff {value : Value} : (∃ items, listOf value = .ok items) ↔ isListable value = true := by
  cases value <;> simp [listOf, Record.items?, isListable]

theorem orElse_of_isTrue {value absent : Value} (full : value.isTrue = true) : orElse value absent = value :=
  if_pos full

theorem orElse_of_empty {value absent : Value} (empty : value.isTrue = false) : orElse value absent = absent :=
  if_neg (by simp [empty])

/-- What may be read in place of an empty value is read where the value is empty or can be read itself. -/
theorem orElse_iff {α : Type} {read : Value → Except Fault α} {absent : Value} {result : α}
    (possible : read absent = .ok result) (value : Value) :
    (∃ result, read (orElse value absent) = .ok result) ↔ value.isTrue = false ∨ ∃ result, read value = .ok result := by
  cases full : value.isTrue with
  | false => simp [orElse_of_empty full, possible]
  | true => simp [orElse_of_isTrue full]

theorem fill_iff {document : Value} (headed : IsHeaded document) :
    (∃ image, fill document = .ok image) ↔ IsResource document := by
  have fresh : Status.ofFields (.mapping []) = .ok Status.fresh := rfl
  have bare : listOf (.sequence []) = .ok [] := rfl
  have status := (orElse_iff fresh (document.under "status")).trans (or_congr_right Status.ofFields_iff)
  have finalizers :=
    (orElse_iff bare ((document.under "metadata").under "finalizers")).trans (or_congr_right listOf_iff)
  constructor
  · rintro ⟨image, filled⟩
    obtain ⟨spec, _, filled⟩ := ok_of_bind filled
    obtain ⟨state, state_read, filled⟩ := ok_of_bind filled
    obtain ⟨listed, listed_read, _⟩ := ok_of_bind filled
    exact ⟨headed, status.mp ⟨state, state_read⟩, finalizers.mp ⟨listed, listed_read⟩⟩
  · intro resource
    obtain ⟨spec, spec_read⟩ := Spec.ofFields_of_parts headed.spec headed.parts
    obtain ⟨state, state_read⟩ := status.mpr resource.status
    obtain ⟨listed, listed_read⟩ := finalizers.mpr resource.finalizers
    unfold fill
    simp only
    rw [then_of_ok spec_read, then_of_ok state_read, then_of_ok listed_read]
    exact ⟨_, rfl⟩

theorem isHeaded_of_reads {document : Value} {image : Image} (reads : Reads document image) : IsHeaded document where
  mapping := reads.mapping
  version := by
    have checked := reads.version
    unfold checkVersion at checked
    split at checked
    · cases checked
    · split at checked
      · rename_i there
        rw [there]
        split at checked
        · assumption
        · cases checked
      all_goals cases checked
  kind := by
    have checked := reads.kind
    rw [checkKind_eq] at checked
    simpa [meet] using checked
  metadata := reads.metadata
  name := reads.named
  spec := reads.spec
  parts := reads.parts

/-- Every demand is refused as faulty input. -/
theorem input_of_demands {document : Value} : ∀ demand ∈ demands document, demand.2.category = .input := by
  simp [demands, Fault.category]

theorem input_of_firstUnmet {document : Value} {fault : Fault} (unmet : firstUnmet (demands document) = some fault) :
    fault.category = .input := by
  obtain ⟨demand, found, rfl⟩ := Option.map_eq_some_iff.mp unmet
  exact input_of_demands demand (List.mem_of_find?_eq_some found)

theorem isWhole_iff {image : Image} :
    image.isWhole = true ↔ image.name.isTrue = true ∧ image.space.isTrue = true ∧ image.spec.workspace ≠ "" ∧
      image.spec.bucket ≠ "" ∧ image.spec.object ≠ "" ∧ image.spec.region ≠ "" := by
  simp [isWhole, and_assoc]

/-- Exactly the documents of images are accepted. A mapping with parts of the right types that is none already up to its
specification is refused as faulty input, with the fault of the first demand that it does not meet; and whatever is
accepted has a name, a namespace and all parts of a specification. -/
theorem accepts_exactly_resources (document : Value) :
    ((∃ image, ofDocument document = .ok image) ↔ IsResource document) ∧
      (document.isMapping = true → IsShaped document → ¬ IsHeaded document →
        ∃ fault, firstUnmet (demands document) = some fault ∧ ofDocument document = .error fault ∧
          fault.category = .input) ∧
      ∀ image, ofDocument document = .ok image →
        image.name.isTrue = true ∧ image.space.isTrue = true ∧ image.spec.workspace ≠ "" ∧ image.spec.bucket ≠ "" ∧
          image.spec.object ≠ "" ∧ image.spec.region ≠ "" := by
  -- What has a head is read by going on behind the demands, which are all met.
  have filled (headed : IsHeaded document) : ofDocument document = fill document := by
    have shaped := isShaped_of_isHeaded headed
    rw [ofDocument_eq headed.mapping shaped,
      then_of_ok (meet_of_met ((firstUnmet_eq_none_iff headed.mapping shaped).mpr headed))]
  refine ⟨⟨?_, ?_⟩, ?_, fun image read => isWhole_iff.mp (isWhole_of_document read)⟩
  · rintro ⟨image, read⟩
    have headed := isHeaded_of_reads (reads_of_ofDocument read)
    rw [filled headed] at read
    exact (fill_iff headed).mp ⟨image, read⟩
  · intro resource
    rw [filled resource.toIsHeaded]
    exact (fill_iff resource.toIsHeaded).mpr resource
  · intro mapping shaped headless
    cases unmet : firstUnmet (demands document) with
    | none => exact absurd ((firstUnmet_eq_none_iff mapping shaped).mp unmet) headless
    | some fault =>
      refine ⟨fault, rfl, ?_, input_of_firstUnmet unmet⟩
      rw [ofDocument_eq mapping shaped, meet_of_firstUnmet unmet]
      rfl

/-- A document without a name, and without a specification behind it. -/
def nameless : Value :=
  .mapping [
    (.text "apiVersion", .text "infrastructure.cluster.x-k8s.io/v1beta1"),
    (.text "kind", .text "IBMPowerVSImage"),
    (.text "metadata", .mapping [(.text "namespace", .text "default")])]

theorem nameless_refused :
    IsResource motley ∧ ofDocument nameless = .error (.partAbsent "metadata.name" nameless) := by
  refine ⟨(accepts_exactly_resources motley).1.mp ⟨_, rfl⟩, ?_⟩
  have shaped : IsShaped nameless := ⟨fun _ => rfl, fun _ => rfl, fun _ => rfl, nofun⟩
  have headless : ¬ IsHeaded nameless := fun headed => Bool.noConfusion headed.spec
  obtain ⟨fault, first, refused, _⟩ := (accepts_exactly_resources nameless).2.1 rfl shaped headless
  cases first
  exact refused

/-- What is empty and no mapping has no parts of wrong types, but is not refused as faulty input: the reader looks into
it at once. -/
theorem null_refused_otherwise :
    ¬ ∀ document : Value, document.isJson = true → IsShaped document → ¬ IsHeaded document →
      ∃ fault, ofDocument document = .error fault ∧ fault.category = .input := by
  intro claimed
  have shaped : IsShaped .null := ⟨nofun, nofun, nofun, nofun⟩
  have headless : ¬ IsHeaded .null := fun headed => Bool.noConfusion headed.mapping
  obtain ⟨fault, refused, input⟩ := claimed .null rfl shaped headless
  cases refused
  cases input

end ImageOperator.Image
