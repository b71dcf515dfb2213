import ImageOperator.Image.Basic
/-!
Catalogs: images by the keys of their identifiers, in the order in which the keys came in. Putting an image under a
key that is there keeps the place.
-/

set_option autoImplicit false

namespace ImageOperator

abbrev Catalog := List (ObjectKey × Image)

namespace Catalog

def get? : Catalog → ObjectKey → Option Image
  | [], _ => none
  | entry :: rest, key => if entry.1 = key then some entry.2 else get? rest key

def put : Catalog → ObjectKey → Image → Catalog
  | [], key, image => [(key, image)]
  | entry :: rest, key, image => if entry.1 = key then (key, image) :: rest else entry :: put rest key image

def erase (catalog : Catalog) (key : ObjectKey) : Catalog :=
  catalog.filter fun entry => entry.1 ≠ key

def images (catalog : Catalog) : List Image :=
  catalog.map (·.2)

/-- Every key stands once. -/
def Distinct (catalog : Catalog) : Prop :=
  (catalog.map (·.1)).Nodup

@[simp] theorem get?_put_self (catalog : Catalog) (key : ObjectKey) (image : Image) :
    (catalog.put key image).get? key = some image := by
  induction catalog with
  | nil => simp [put, get?]
  | cons entry rest ih =>
    by_cases h : entry.1 = key <;> simp [put, get?, h, ih]

theorem get?_put_of_ne (catalog : Catalog) {key other : ObjectKey} (image : Image) (h : other ≠ key) :
    (catalog.put key image).get? other = catalog.get? other := by
  induction catalog with
  | nil => simp [put, get?, h.symm]
  | cons entry rest ih =>
    by_cases he : entry.1 = key
    · simp [put, get?, he, h.symm]
    · simp [put, get?, he, ih]

theorem put_of_get? {catalog : Catalog} {key : ObjectKey} {image : Image} (held : catalog.get? key = some image) :
    catalog.put key image = catalog := by
  induction catalog with
  | nil => cases held
  | cons entry rest ih =>
    by_cases h : entry.1 = key
    · simp only [get?, h, ↓reduceIte, Option.some.injEq] at held
      simp [put, ← h, ← held]
    · simp only [get?, h, ↓reduceIte] at held
      simp [put, h, ih held]

@[simp] theorem get?_erase_self (catalog : Catalog) (key : ObjectKey) : (catalog.erase key).get? key = none := by
  induction catalog with
  | nil => rfl
  | cons entry rest ih =>
    by_cases h : entry.1 = key
    · simpa [erase, h] using ih
    · simpa [erase, get?, h] using ih

theorem get?_erase_of_ne (catalog : Catalog) {key other : ObjectKey} (h : other ≠ key) :
    (catalog.erase key).get? other = catalog.get? other := by
  induction catalog with
  | nil => rfl
  | cons entry rest ih =>
    by_cases he : entry.1 = key
    · have skipped : entry.1 ≠ other := fun same => h (same.symm.trans he)
      simpa [erase, get?, he, skipped, h.symm] using ih
    · by_cases ho : entry.1 = other
      · simp [erase, get?, ho, h]
      · simpa [erase, get?, he, ho] using ih

theorem mem_of_mem_erase {catalog : Catalog} {key : ObjectKey} {entry : ObjectKey × Image}
    (kept : entry ∈ catalog.erase key) : entry ∈ catalog :=
  (List.mem_filter.mp kept).1

theorem eq_or_mem_of_mem_put {catalog : Catalog} {key : ObjectKey} {image : Image} {entry : ObjectKey × Image}
    (put : entry ∈ catalog.put key image) : entry = (key, image) ∨ entry ∈ catalog := by
  induction catalog with
  | nil => simpa [Catalog.put] using put
  | cons first rest ih =>
    by_cases h : first.1 = key
    · simp only [Catalog.put, h, ↓reduceIte, List.mem_cons] at put
      rcases put with same | kept
      · exact .inl same
      · exact .inr (List.mem_cons_of_mem _ kept)
    · simp only [Catalog.put, h, ↓reduceIte, List.mem_cons] at put
      rcases put with same | later
      · exact .inr (by simp [same])
      · rcases ih later with same | kept
        · exact .inl same
        · exact .inr (List.mem_cons_of_mem _ kept)

theorem mem_of_get? {catalog : Catalog} {key : ObjectKey} {image : Image}
    (found : catalog.get? key = some image) : (key, image) ∈ catalog := by
  induction catalog with
  | nil => cases found
  | cons first rest ih =>
    by_cases h : first.1 = key
    · simp only [get?, h, ↓reduceIte, Option.some.injEq] at found
      simp [← h, ← found]
    · simp only [get?, h, ↓reduceIte] at found
      exact List.mem_cons_of_mem _ (ih found)

theorem eq_of_get?_single {key other : ObjectKey} {image found : Image}
    (held : get? [(key, image)] other = some found) : other = key ∧ found = image := by
  by_cases same : key = other
  · simp only [get?, same, ↓reduceIte, Option.some.injEq] at held
    exact ⟨same.symm, held.symm⟩
  · simp [get?, same] at held

theorem filter_put (catalog : Catalog) (key : ObjectKey) (image : Image) :
    (catalog.put key image).filter (·.1 ≠ key) = catalog.filter (·.1 ≠ key) := by
  induction catalog with
  | nil => simp [put]
  | cons entry rest ih =>
    by_cases own : entry.1 = key
    · simp [put, own]
    · simp only [put, own, ↓reduceIte, ne_eq, not_false_eq_true, decide_true, List.filter_cons_of_pos]
      exact congrArg (entry :: ·) ih

theorem keys_put {catalog : Catalog} {key : ObjectKey} (held : (catalog.get? key).isSome = true) (image : Image) :
    (catalog.put key image).map (·.1) = catalog.map (·.1) := by
  induction catalog with
  | nil => cases held
  | cons entry rest ih =>
    by_cases own : entry.1 = key
    · simp [put, own]
    · simp only [get?, own, ↓reduceIte] at held
      simp [put, own, ih held]

end Catalog

end ImageOperator
