import ImageOperator.Proofs.Disk.Tree

set_option autoImplicit false

/-!
What is listed below a location. In a tree where every location stands once, so does every pair of names two steps
below a location, and the pairs come in the order of the names.
-/

namespace ImageOperator

namespace Tree

/-- Trees as there are: every location stands once, and no name leads up. -/
structure Proper (tree : Tree) : Prop where
  distinct : (tree.nodes.map (·.1)).Nodup
  down : ∀ entry ∈ tree.nodes, ".." ∉ entry.1

/-- The order of names in folders, by the folder first. -/
def Precedes (first second : String × String) : Prop :=
  first.1 < second.1 ∨ first.1 = second.1 ∧ first.2 < second.2

/-- The order in which what lies below a location is sorted. -/
def notAfter (first second : String × String) : Bool :=
  first.1 < second.1 || (first.1 = second.1 && first.2 ≤ second.2)

theorem notAfter_iff {first second : String × String} :
    notAfter first second = true ↔ first.1 < second.1 ∨ first.1 = second.1 ∧ first.2 ≤ second.2 := by
  simp [notAfter]

theorem notAfter_trans (first second third : String × String) (before : notAfter first second = true)
    (later : notAfter second third = true) : notAfter first third = true := by
  rw [notAfter_iff] at before later ⊢
  rcases before with less | ⟨same, below⟩
  · rcases later with more | ⟨same, _⟩
    · exact .inl (String.lt_trans less more)
    · exact .inl (same ▸ less)
  · rcases later with more | ⟨again, above⟩
    · exact .inl (same ▸ more)
    · exact .inr ⟨same.trans again, String.le_trans below above⟩

theorem lt_of_le_of_ne {first second : String} (below : first ≤ second) (different : first ≠ second) :
    first < second := by
  apply String.not_le.mp
  intro above
  exact different (String.le_antisymm below above)

theorem notAfter_total (first second : String × String) : (notAfter first second || notAfter second first) = true := by
  rw [Bool.or_eq_true, notAfter_iff, notAfter_iff]
  by_cases same : first.1 = second.1
  · rcases String.le_total first.2 second.2 with below | above
    · exact .inl (.inr ⟨same, below⟩)
    · exact .inr (.inr ⟨same.symm, above⟩)
  · rcases String.le_total first.1 second.1 with below | above
    · exact .inl (.inl (lt_of_le_of_ne below same))
    · exact .inr (.inl (lt_of_le_of_ne above (Ne.symm same)))

theorem precedes_of_notAfter {first second : String × String} (before : notAfter first second = true)
    (different : first ≠ second) : Precedes first second := by
  rcases notAfter_iff.mp before with less | ⟨same, below⟩
  · exact .inl less
  · refine .inr ⟨same, lt_of_le_of_ne below ?_⟩
    exact fun again => different (Prod.ext same again)

/-- The two names by which a place lies below a location, if it lies so deep. -/
def below? (location place : Location) : Option (String × String) :=
  if location.isPrefixOf place then
    match place.drop location.length with
    | [folder, name] => some (folder, name)
    | _ => none
  else none

theorem eq_of_below? {location place : Location} {pair : String × String} (found : below? location place = some pair) :
    place = location ++ [pair.1, pair.2] := by
  unfold below? at found
  split at found
  · rename_i inside
    obtain ⟨rest, rfl⟩ := List.isPrefixOf_iff_prefix.mp inside
    rw [List.drop_left] at found
    split at found
    · cases found
      rfl
    · cases found
  · cases found

variable {tree : Tree}

/-- What lies two names below a location stands once in the list, and in the order of the names. -/
theorem pairsBelow_precedes (proper : tree.Proper) (location : Location) :
    (tree.pairsBelow location).Pairwise Precedes := by
  have sorted : (tree.pairsBelow location).Pairwise fun first second => notAfter first second = true :=
    List.pairwise_mergeSort notAfter_trans notAfter_total _
  have once : (tree.pairsBelow location).Nodup := by
    apply (List.mergeSort_perm _ _).nodup_iff.mpr
    -- two entries of the tree with the same two names would stand at the same location
    refine List.pairwise_filterMap.mpr ((List.pairwise_map.mp proper.distinct).imp ?_)
    intro entry other different pair found twin also same
    apply different
    rw [eq_of_below? found, eq_of_below? also, same]
  exact sorted.imp₂ (fun _ _ before different => precedes_of_notAfter before different) once

end Tree

end ImageOperator
