import ImageOperator.Proofs.Image
import ImageOperator.Proofs.Image.Document

set_option autoImplicit false

/-!
Looking into values by name, and the values that JSON has. JSON has no sets, tuples, byte strings or points in time, and
an object has each name once; so every value of it is equal to itself, and so is every part of it.
-/

namespace ImageOperator.Value

/-! ### Parts by name -/

def isMapping : Value → Bool
  | .mapping _ => true
  | _ => false

/-- The value under a name; only mappings have any. -/
def under? (value : Value) (name : String) : Option Value :=
  value.entries?.bind fun entries => entries.get? name

/-- The value under a name, null where there is none. -/
def under (value : Value) (name : String) : Value :=
  (value.under? name).getD .null

@[simp] theorem under?_mapping (entries : Entries) (name : String) :
    (Value.mapping entries).under? name = entries.get? name := rfl

@[simp] theorem under_mapping (entries : Entries) (name : String) :
    (Value.mapping entries).under name = entries.get name := rfl

theorem mapping_of_isMapping {value : Value} (shaped : value.isMapping = true) :
    ∃ entries, value = .mapping entries := by
  unfold isMapping at shaped
  split at shaped
  · exact ⟨_, rfl⟩
  · cases shaped

theorem text_of_isText {value : Value} (shaped : value.isText = true) : ∃ text, value = .text text := by
  unfold isText at shaped
  split at shaped
  · exact ⟨_, rfl⟩
  · cases shaped

/-! ### JSON -/

mutual

def isJson : Value → Bool
  | .null | .bool _ | .int _ | .float _ | .text _ => true
  | .sequence items => areJson items
  | .mapping entries => isObject entries
  | .bytes _ | .date _ | .timestamp _ | .tuple _ | .set _ => false

def areJson : List Value → Bool
  | [] => true
  | item :: rest => isJson item && areJson rest

/-- Entries under texts, each text once. -/
def isObject : List (Value × Value) → Bool
  | [] => true
  | (name, value) :: rest =>
    name.isText && rest.all (fun other => other.1.key? ≠ name.key?) && isJson value && isObject rest

end

theorem sameEntries_of_found {part whole : Entries}
    (found : ∀ held ∈ part, held.2.same held.2 = true ∧
      ∃ key, held.1.key? = some key ∧ Entries.find? whole key = some held.2) :
    sameEntries part whole = true := by
  induction part with
  | nil => rfl
  | cons held rest ih =>
    obtain ⟨name, value⟩ := held
    obtain ⟨own, key, keyed, there⟩ := found (name, value) (List.mem_cons_self ..)
    have later := ih fun other among => found other (List.mem_cons_of_mem _ among)
    simp only at own keyed there
    simp [sameEntries, keyed, there, own, later]

/-- What is in an object is found under its name. -/
theorem find?_of_isObject {entries : Entries} (json : isObject entries = true) :
    ∀ held ∈ entries, ∃ key, held.1.key? = some key ∧ Entries.find? entries key = some held.2 := by
  induction entries with
  | nil => simp
  | cons first rest ih =>
    obtain ⟨name, value⟩ := first
    simp only [isObject, Bool.and_eq_true, List.all_eq_true, decide_eq_true_eq] at json
    obtain ⟨⟨⟨texted, apart⟩, _⟩, later⟩ := json
    obtain ⟨text, rfl⟩ := text_of_isText texted
    intro held among
    rcases List.mem_cons.mp among with rfl | behind
    · exact ⟨.text text, rfl, by simp [Entries.find?]⟩
    · obtain ⟨key, keyed, there⟩ := ih later held behind
      -- The first entry is under another name, so the search goes past it.
      have past : Key.text text ≠ key := fun same => apart held behind (keyed.trans (congrArg some same.symm))
      refine ⟨key, keyed, ?_⟩
      simpa [Entries.find?, List.find?_cons, past] using there

mutual

/-- Every value of JSON is equal to itself. -/
theorem same_of_isJson {value : Value} (json : value.isJson = true) : value.same value = true := by
  cases value with
  | null | bool _ | int _ | float _ | text _ => exact Image.same_of_key rfl
  | sequence items => simpa only [same] using sameItems_of_areJson json
  | mapping entries =>
    have found := find?_of_isObject json
    have own := same_of_isObject json
    simpa [same] using sameEntries_of_found fun held among => ⟨own held among, found held among⟩
  | bytes | date | timestamp | tuple | set => cases json

theorem sameItems_of_areJson {items : List Value} (json : areJson items = true) : sameItems items items = true := by
  cases items with
  | nil => rfl
  | cons item rest =>
    obtain ⟨first, later⟩ := Bool.and_eq_true_iff.mp json
    simp [sameItems, same_of_isJson first, sameItems_of_areJson later]

theorem same_of_isObject {entries : Entries} (json : isObject entries = true) :
    ∀ held ∈ entries, held.2.same held.2 = true := by
  cases entries with
  | nil => simp
  | cons first rest =>
    obtain ⟨name, value⟩ := first
    simp only [isObject, Bool.and_eq_true] at json
    obtain ⟨⟨_, json⟩, later⟩ := json
    have own : value.same value = true := same_of_isJson json
    intro held among
    rcases List.mem_cons.mp among with rfl | behind
    · exact own
    · exact same_of_isObject later held behind

end

theorem isJson_of_isObject {entries : Entries} (json : isObject entries = true) :
    ∀ held ∈ entries, held.1.isText = true ∧ held.2.isJson = true := by
  induction entries with
  | nil => simp
  | cons first rest ih =>
    simp only [isObject, Bool.and_eq_true] at json
    obtain ⟨⟨⟨texted, _⟩, own⟩, later⟩ := json
    intro held among
    rcases List.mem_cons.mp among with rfl | behind
    · exact ⟨texted, own⟩
    · exact ih later held behind

theorem areJson_iff {items : List Value} : areJson items = true ↔ ∀ item ∈ items, item.isJson = true := by
  induction items with
  | nil => simp [areJson]
  | cons item rest ih => simp [areJson, ih]

theorem mem_of_get? {entries : Entries} {name : String} {value : Value}
    (there : Entries.get? entries name = some value) :
    (.text name, value) ∈ entries := by
  fun_induction Entries.get? entries name with
  | case1 => cases there
  | case2 held rest name =>
    rw [Option.some.inj there]
    exact List.mem_cons_self ..
  | case3 _ _ _ _ _ ih => exact List.mem_cons_of_mem _ (ih there)
  | case4 _ _ _ _ ih => exact List.mem_cons_of_mem _ (ih there)

/-- The parts of JSON are JSON, and so is the null that stands for a missing one. -/
theorem isJson_under {value : Value} (json : value.isJson = true) (name : String) :
    (value.under name).isJson = true := by
  cases value with
  | mapping entries =>
    rw [under_mapping, Entries.get]
    cases there : Entries.get? entries name with
    | none => rfl
    | some part => exact (isJson_of_isObject json _ (mem_of_get? there)).2
  | null | bool | int | float | text | bytes | date | timestamp | sequence | tuple | set => rfl

/-- What going through JSON yields is JSON. -/
theorem areJson_items {value : Value} {items : List Value} (json : value.isJson = true)
    (listed : Record.items? value = some items) : areJson items = true := by
  cases value with
  | text text =>
    cases listed
    exact areJson_iff.mpr fun item among => by
      obtain ⟨_, _, rfl⟩ := List.mem_map.mp among
      rfl
  | sequence items =>
    cases listed
    exact json
  | mapping entries =>
    cases listed
    exact areJson_iff.mpr fun item among => by
      obtain ⟨held, inside, rfl⟩ := List.mem_map.mp among
      obtain ⟨text, named⟩ := text_of_isText (isJson_of_isObject json held inside).1
      rw [named]
      rfl
  | bytes | tuple | set => cases json
  | null | bool | int | float | date | timestamp => cases listed

end ImageOperator.Value
