import ImageOperator.Proofs.Text
import ImageOperator.Region

set_option autoImplicit false

/-!
The region of a zone depends neither on how the zone is written nor on the order of the table. Entries that fit the same
text are of one region, so the first that fits says no more than any other, and a text stays in its region whatever
is put behind it.
-/

namespace ImageOperator.Region

open Text (Recased Lowers isBlank trimChars lowerChars)

/-- An entry of a table fits a text that starts with its beginning. -/
def Fits (cs : List Char) (entry : String × String) : Prop :=
  entry.1.toList <+: cs

/-- The entries of a table that fit the same text are all of one region. -/
def Agrees (entries : List (String × String)) : Prop :=
  ∀ cs, ∀ one ∈ entries, ∀ other ∈ entries, Fits cs one → Fits cs other → one.2 = other.2

variable {entries others : List (String × String)} {cs ds : List Char} {zone other region : String}

theorem lookup_eq_some_iff (agrees : Agrees entries) :
    lookup entries cs = some region ↔ ∃ entry ∈ entries, Fits cs entry ∧ entry.2 = region := by
  unfold lookup
  constructor
  · intro found
    obtain ⟨entry, first, rfl⟩ := Option.map_eq_some_iff.mp found
    have starts := List.find?_some first
    exact ⟨entry, List.mem_of_find?_eq_some first, List.isPrefixOf_iff_prefix.mp starts, rfl⟩
  · rintro ⟨entry, listed, fits, rfl⟩
    cases first : entries.find? fun entry => entry.1.toList.isPrefixOf cs with
    | none => exact absurd (List.isPrefixOf_iff_prefix.mpr fits) (List.find?_eq_none.mp first entry listed)
    | some found =>
      have starts := List.find?_some first
      have fitting : Fits cs found := List.isPrefixOf_iff_prefix.mp starts
      rw [Option.map_some, agrees cs found (List.mem_of_find?_eq_some first) entry listed fitting fits]

theorem Agrees.perm (agrees : Agrees entries) (perm : others.Perm entries) : Agrees others :=
  fun cs one first other second => agrees cs one (perm.mem_iff.mp first) other (perm.mem_iff.mp second)

/-- The order of a table. -/
theorem lookup_perm (agrees : Agrees entries) (perm : others.Perm entries) (cs : List Char) :
    lookup others cs = lookup entries cs := by
  ext region
  rw [lookup_eq_some_iff agrees, lookup_eq_some_iff (agrees.perm perm)]
  simp only [perm.mem_iff]

/-- What is put behind a text. -/
theorem lookup_of_begins (agrees : Agrees entries) (found : lookup entries cs = some region) (within : cs <+: ds) :
    lookup entries ds = some region := by
  obtain ⟨entry, listed, fits, own⟩ := (lookup_eq_some_iff agrees).mp found
  exact (lookup_eq_some_iff agrees).mpr ⟨entry, listed, List.IsPrefix.trans fits within, own⟩

/-- A text in lower case, as far as a table in ASCII can tell. -/
theorem lookup_lowers (plain : ∀ entry ∈ entries, ∀ c ∈ entry.1.toList, c.toNat < 0x80) (lowers : Lowers cs ds) :
    lookup entries ds = lookup entries (lowerChars cs) := by
  refine congrArg (Option.map Prod.snd) (List.find?_congr fun entry listed => ?_)
  rw [Bool.eq_iff_iff, List.isPrefixOf_iff_prefix, List.isPrefixOf_iff_prefix]
  exact lowers.prefix_iff (plain entry listed)

theorem table_plain : ∀ entry ∈ table, ∀ c ∈ entry.1.toList, c.toNat < 0x80 := by
  simp [table]

/-- No beginning of the table is the beginning of another. -/
theorem table_apart : ∀ one ∈ table, ∀ other ∈ table, one.1.toList <+: other.1.toList → one = other := by
  decide

theorem table_agrees : Agrees table := by
  intro cs one first other second fits fitsOther
  rcases List.prefix_or_prefix_of_prefix fits fitsOther with within | within
  · rw [table_apart one first other second within]
  · rw [table_apart other second one first within]

/-- What is answered for a zone of which a table says this: without a region, the zone is refused by its name. -/
def answer (zone : String) : Option String → Except Fault String
  | some region => .ok region
  | none => .error (.regionUnknown zone)

/-- Two zones of the same region, or both of none. -/
def Alike (zone other : String) : Prop :=
  ∃ found, ofZone zone = answer zone found ∧ ofZone other = answer other found

theorem ofZone_eq (zone : String) : ofZone zone = answer zone (lookup table (normalChars zone)) := by
  unfold ofZone
  cases lookup table (normalChars zone) <;> rfl

theorem ofZone_eq_ok_iff : ofZone zone = .ok region ↔ lookup table (normalChars zone) = some region := by
  rw [ofZone_eq]
  cases lookup table (normalChars zone) <;> simp [answer]

theorem alike_of_normalChars (same : normalChars zone = normalChars other) : Alike zone other :=
  ⟨lookup table (normalChars other), by rw [ofZone_eq, same], ofZone_eq other⟩

/-- The region of a zone is that of all entries that fit, in whatever order the table is; blanks around the zone and the
case of its ASCII letters make no difference, a zone that has a region keeps it with any text put behind it, and
the letters outside ASCII may have any lower case. -/
theorem ofZone_insensitive (zone : String) :
    (∀ one ∈ table, ∀ other ∈ table, Fits (normalChars zone) one → Fits (normalChars zone) other → one.2 = other.2) ∧
    (∀ entries, entries.Perm table → answer zone (lookup entries (normalChars zone)) = ofZone zone) ∧
    (∀ before after : String, (∀ c ∈ before.toList, isBlank c = true) → (∀ c ∈ after.toList, isBlank c = true) →
      Alike (before ++ zone ++ after) zone) ∧
    (∀ other : String, List.Forall₂ Recased zone.toList other.toList → Alike other zone) ∧
    (∀ region text, ofZone zone = .ok region → ofZone (zone ++ text) = .ok region) ∧
    ∀ entries lowered, entries.Perm table → Lowers (trimChars zone.toList) lowered →
      answer zone (lookup entries lowered) = ofZone zone := by
  refine ⟨table_agrees (normalChars zone), ?_, ?_, ?_, ?_, ?_⟩
  · intro entries perm
    rw [lookup_perm table_agrees perm, ofZone_eq]
  · intro before after ahead behind
    apply alike_of_normalChars
    rw [normalChars, normalChars, String.toList_append, String.toList_append, Text.trimChars_padded ahead behind]
  · intro other recased
    exact alike_of_normalChars (Text.lower_trim_of_recased recased)
  · intro region text accepted
    rw [ofZone_eq_ok_iff] at accepted ⊢
    apply lookup_of_begins table_agrees accepted
    rw [normalChars, normalChars, String.toList_append]
    exact Text.lowerChars_begins (Text.trimChars_begins_append _ _)
  · intro entries lowered perm lowers
    rw [lookup_perm table_agrees perm, lookup_lowers table_plain lowers, ofZone_eq, normalChars]

/-- A zone that ends in a capital sigma, whose lower case is another letter at the end of a word than in it. -/
theorem ofZone_insensitive_of_sigma :
    ofZone "Dal\u03A3" = .ok "us-south" ∧
      answer "Dal\u03A3" (lookup table.reverse (normalChars "Dal\u03A3")) = .ok "us-south" ∧
      Alike ("\t\u3000" ++ "Dal\u03A3" ++ "\n") "Dal\u03A3" ∧ Alike "dAL\u03A3" "Dal\u03A3" ∧
      ofZone ("Dal\u03A3" ++ "12") = .ok "us-south" ∧
      answer "Dal\u03A3" (lookup table.reverse ['d', 'a', 'l', '\u03C2']) = .ok "us-south" := by
  obtain ⟨-, ordered, padded, recased, extended, lowered⟩ := ofZone_insensitive "Dal\u03A3"
  have accepted : ofZone "Dal\u03A3" = .ok "us-south" := rfl
  have turned : table.reverse.Perm table := List.reverse_perm table
  have outside : 0x80 ≤ '\u03C2'.toNat := by decide
  refine ⟨accepted, (ordered _ turned).trans accepted, padded _ _ ?_ ?_, recased _ ?_, extended _ _ accepted,
    (lowered _ _ turned ?_).trans accepted⟩
  · simp [isBlank]
  · simp [isBlank]
  · exact .cons (.lowered rfl) (.cons (.raised rfl) (.cons (.raised rfl) (.cons .same .nil)))
  · exact .near rfl (.near rfl (.near rfl (.far rfl outside [] .nil)))

/-- The Kelvin sign is outside ASCII, and its lower case is not. -/
example : ofZone "TO\u212A04" = .ok "tok" :=
  rfl

end ImageOperator.Region
