import ImageOperator.Text.Blank
import ImageOperator.Text.Case
import Mathlib

set_option autoImplicit false

/-!
Trimming and lower case. Blanks around a text leave no trace in it once it is trimmed, and what is put behind a text
stays behind what the text is trimmed to. In lower case the case of ASCII letters is lost, and what becomes of the
letters outside ASCII makes no difference to the beginnings in ASCII.
-/

namespace ImageOperator.Text

variable {cs ds text : List Char} {c d : Char}

/-! ### Trimming -/

theorem dropBlankEnd_begins (cs : List Char) : dropBlankEnd cs <+: cs :=
  List.rdropWhile_prefix isBlank cs

theorem dropBlankEnd_concat (cs : List Char) (c : Char) :
    dropBlankEnd (cs ++ [c]) = if isBlank c then dropBlankEnd cs else cs ++ [c] :=
  List.rdropWhile_concat isBlank cs c

theorem dropBlankEnd_of_blank (blank : ∀ c ∈ text, isBlank c = true) (cs : List Char) :
    dropBlankEnd (cs ++ text) = dropBlankEnd cs := by
  have behind : ∀ c ∈ text.reverse, isBlank c = true := fun c given => blank c (List.mem_reverse.mp given)
  unfold dropBlankEnd
  rw [List.reverse_append, List.dropWhile_append_of_pos behind]

theorem dropBlankEnd_begins_append (cs text : List Char) : dropBlankEnd cs <+: dropBlankEnd (cs ++ text) := by
  -- from the end, where the blanks are dropped
  induction text using List.reverseRecOn with
  | nil => rw [List.append_nil]
  | append_singleton text c ih =>
    rw [← List.append_assoc, dropBlankEnd_concat]
    split
    · exact ih
    · rw [List.append_assoc]
      exact (dropBlankEnd_begins cs).trans (List.prefix_append _ _)

theorem trimChars_of_blank (blank : ∀ c ∈ cs, isBlank c = true) : trimChars cs = [] := by
  rw [trimChars, List.dropWhile_eq_nil_iff.mpr blank]
  rfl

/-- Blanks around a text. -/
theorem trimChars_padded {before after : List Char} (ahead : ∀ c ∈ before, isBlank c = true)
    (behind : ∀ c ∈ after, isBlank c = true) (cs : List Char) : trimChars (before ++ cs ++ after) = trimChars cs := by
  rw [trimChars, List.append_assoc, List.dropWhile_append_of_pos ahead, List.dropWhile_append]
  split
  next empty =>
    -- nothing but blanks: those behind are dropped as well
    have blank : cs.dropWhile isBlank = [] := List.isEmpty_iff.mp empty
    rw [trimChars, blank]
    exact trimChars_of_blank behind
  next => exact dropBlankEnd_of_blank behind _

/-- A text behind a text. -/
theorem trimChars_begins_append (cs text : List Char) : trimChars cs <+: trimChars (cs ++ text) := by
  rw [trimChars, trimChars, List.dropWhile_append]
  split
  next empty =>
    rw [List.isEmpty_iff.mp empty]
    exact List.nil_prefix
  next => exact dropBlankEnd_begins_append _ _

/-! ### Lower case -/

theorem lowerChars_begins (within : cs <+: ds) : lowerChars cs <+: lowerChars ds := by
  obtain ⟨rest, rfl⟩ := within
  rw [lowerChars, lowerChars, List.flatMap_append]
  exact List.prefix_append _ _

theorem isUpper_iff : c.isUpper = true ↔ 65 ≤ c.toNat ∧ c.toNat ≤ 90 := by
  simp [Char.isUpper, UInt32.le_iff_toNat_le]

/-- An ASCII capital and its lower case. -/
theorem toLower_toNat (upper : c.isUpper = true) : c.toLower.toNat = c.toNat + 32 := by
  have bounds := isUpper_iff.mp upper
  have valid : (c.toNat + 32).isValidChar := by
    left
    omega
  rw [Char.toLower_eq_of_isUpper upper, Char.toNat_ofNat, if_pos valid]

theorem isBlank_of_graph (above : 0x21 ≤ c.toNat) (below : c.toNat ≤ 0x7E) : isBlank c = false := by
  simp only [isBlank, Bool.or_eq_false_iff, Bool.and_eq_false_iff, decide_eq_false_iff_not, beq_eq_false_iff_ne]
  omega

theorem isBlank_toLower (c : Char) : isBlank c.toLower = isBlank c := by
  by_cases upper : c.isUpper = true
  · have bounds := isUpper_iff.mp upper
    have lowered := toLower_toNat upper
    rw [isBlank_of_graph (by omega) (by omega), isBlank_of_graph (by omega) (by omega)]
  · rw [Char.toLower_eq_of_not_isUpper upper]

theorem lowerChar_of_ascii (ascii : c.toNat < 0x80) : lowerChar c = [c.toLower] := by
  rw [lowerChar, if_neg (by omega), if_neg (by omega)]

theorem lowerChar_toLower (c : Char) : lowerChar c.toLower = lowerChar c := by
  by_cases upper : c.isUpper = true
  · have bounds := isUpper_iff.mp upper
    have lowered := toLower_toNat upper
    rw [lowerChar_of_ascii (by omega), lowerChar_of_ascii (by omega), Char.toLower_toLower_eq_toLower]
  · rw [Char.toLower_eq_of_not_isUpper upper]

theorem trimChars_toLower (cs : List Char) : trimChars (cs.map Char.toLower) = (trimChars cs).map Char.toLower := by
  have same : isBlank ∘ Char.toLower = isBlank := funext isBlank_toLower
  simp only [trimChars, dropBlankEnd, List.dropWhile_map, ← List.map_reverse, same]

theorem lowerChars_toLower (cs : List Char) : lowerChars (cs.map Char.toLower) = lowerChars cs := by
  rw [lowerChars, lowerChars, List.flatMap_map]
  exact congrArg cs.flatMap (funext lowerChar_toLower)

/-- A character in the place of another: the same, or the same letter of ASCII in the other case. -/
inductive Recased (c : Char) : Char → Prop
  | same : Recased c c
  | lowered (upper : c.isUpper = true) : Recased c c.toLower
  | raised (lower : c.isLower = true) : Recased c c.toUpper

theorem Recased.toLower (recased : Recased c d) : d.toLower = c.toLower := by
  cases recased with
  | same => rfl
  | lowered upper => exact Char.toLower_toLower_eq_toLower c
  | raised lower => exact Char.toLower_toUpper_eq_toLower c

theorem toLower_of_recased (recased : List.Forall₂ Recased cs ds) : ds.map Char.toLower = cs.map Char.toLower := by
  induction recased with
  | nil => rfl
  | cons first rest ih => rw [List.map_cons, List.map_cons, first.toLower, ih]

/-- The case of ASCII letters is lost. -/
theorem lower_trim_of_recased (recased : List.Forall₂ Recased cs ds) :
    lowerChars (trimChars ds) = lowerChars (trimChars cs) := by
  have folded (es : List Char) : lowerChars (trimChars es) = lowerChars (trimChars (es.map Char.toLower)) := by
    rw [trimChars_toLower, lowerChars_toLower]
  rw [folded ds, folded cs, toLower_of_recased recased]

/-! ### Letters outside ASCII -/

/-- The characters whose lower case begins in ASCII. -/
def isNear (c : Char) : Bool :=
  c.toNat < 0x80 || c.toNat = 0x212A || c.toNat = 0x130

/-- A lower case of a text in full. Every other character goes to a text that begins outside ASCII, which may depend on
what is around it. -/
inductive Lowers : List Char → List Char → Prop
  | nil : Lowers [] []
  | near {c : Char} {cs ds : List Char} (near : isNear c = true) (rest : Lowers cs ds) :
      Lowers (c :: cs) (lowerChar c ++ ds)
  | far {c d : Char} {cs ds : List Char} (far : isNear c = false) (outside : 0x80 ≤ d.toNat) (more : List Char)
      (rest : Lowers cs ds) : Lowers (c :: cs) (d :: (more ++ ds))

theorem lowerChar_of_far (far : isNear c = false) : lowerChar c = [c] := by
  simp only [isNear, Bool.or_eq_false_iff, decide_eq_false_iff_not] at far
  have other : ¬ c.isUpper = true := by
    rw [isUpper_iff]
    omega
  rw [lowerChar, if_neg far.1.2, if_neg far.2, Char.toLower_eq_of_not_isUpper other]

/-- Behind the same characters, beginnings are the same if those of the rests are. -/
theorem prefix_append_iff {good : Char → Prop}
    (same : ∀ begins : List Char, (∀ c ∈ begins, good c) → (begins <+: cs ↔ begins <+: ds))
    {ahead begins : List Char} (plain : ∀ c ∈ begins, good c) :
    begins <+: ahead ++ cs ↔ begins <+: ahead ++ ds := by
  induction ahead generalizing begins with
  | nil => exact same begins plain
  | cons c ahead ih =>
    cases begins with
    | nil => simp
    | cons b begins =>
      rw [List.cons_append, List.cons_append, List.cons_prefix_cons, List.cons_prefix_cons,
        ih fun c given => plain c (List.mem_cons_of_mem b given)]

/-- No text that begins outside ASCII has a beginning in ASCII but the empty one. -/
theorem prefix_of_outside {begins : List Char} (plain : ∀ c ∈ begins, c.toNat < 0x80) (outside : 0x80 ≤ c.toNat) :
    begins <+: c :: cs ↔ begins = [] := by
  cases begins with
  | nil => simp
  | cons b begins =>
    have inside := plain b List.mem_cons_self
    have apart : b ≠ c := by
      rintro rfl
      omega
    simp [List.cons_prefix_cons, apart]

/-- The beginnings in ASCII are those of the lower case in full. -/
theorem Lowers.prefix_iff {begins : List Char} (lowers : Lowers cs ds) (plain : ∀ c ∈ begins, c.toNat < 0x80) :
    begins <+: ds ↔ begins <+: lowerChars cs := by
  -- `begins` is any, since behind the characters of one letter a shorter one is left
  induction lowers generalizing begins with
  | nil => rfl
  | near near rest ih => exact prefix_append_iff (fun begins plain => ih plain) plain
  | @far c d cs ds far outside more rest ih =>
    have beyond : 0x80 ≤ c.toNat := by
      simp only [isNear, Bool.or_eq_false_iff, decide_eq_false_iff_not] at far
      omega
    rw [lowerChars, List.flatMap_cons, lowerChar_of_far far, List.singleton_append, prefix_of_outside plain outside,
      prefix_of_outside plain beyond]

end ImageOperator.Text
