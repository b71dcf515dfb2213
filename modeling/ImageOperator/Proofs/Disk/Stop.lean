import ImageOperator.Proofs.Disk.Tree

set_option autoImplicit false

/-!
Trees that are left when steps stop half way: before a step, or in the middle of one that is not done at once.
-/

namespace ImageOperator

namespace FileStep

/-- What of a step may be all that is done: some of the folders, or a beginning of the text. The other steps are done
at once. -/
inductive Begins : FileStep → FileStep → Prop
  | whole {step : FileStep} : Begins step step
  | folders {location front : Location} (above : front <+: location) : Begins (.makeFolders location) (.makeFolders front)
  | text {location : Location} {text front : String} (before : front.toList <+: text.toList) :
      Begins (.append location text) (.append location front)

/-- The places that a step may change. -/
def Touches : FileStep → Location → Prop
  | .makeFolders location, place => place <+: location
  | .truncate location, place | .append location _, place | .remove location, place => place = location
  | .replace source target, place => place = source ∨ place = target

theorem Begins.touches {step piece : FileStep} (begins : step.Begins piece) {place : Location}
    (touches : piece.Touches place) : step.Touches place := by
  cases begins with
  | whole => exact touches
  | folders above => exact List.IsPrefix.trans touches above
  | text before => exact touches

end FileStep

namespace Tree

/-- The trees that there may be when the steps on a tree stop at some point. -/
inductive Stops : Tree → List FileStep → Tree → Prop
  | before {tree : Tree} {steps : List FileStep} : Stops tree steps tree
  | amid {tree : Tree} {step piece : FileStep} {rest : List FileStep} (begins : step.Begins piece) :
      Stops tree (step :: rest) (tree.step piece).2
  | after {tree middle stopped : Tree} {step : FileStep} {rest : List FileStep}
      (done : tree.step step = (.ok (), middle)) (stops : Stops middle rest stopped) :
      Stops tree (step :: rest) stopped

variable {tree stopped : Tree} {steps : List FileStep} {location : Location}

theorem node?_step {step : FileStep} (untouched : ¬ step.Touches location) :
    (tree.step step).2.node? location = tree.node? location := by
  cases step with
  | makeFolders folders =>
    rcases node?_makeFolders tree [] folders location with same | ⟨_, _, way⟩
    · exact same
    · exact absurd way untouched
  | truncate file =>
    change (tree.truncate file).2.node? location = _
    unfold truncate
    split
    · rfl
    · split
      · rfl
      · exact node?_put_of_ne tree untouched _
  | append file text =>
    change (tree.append file text).2.node? location = _
    unfold append
    split
    · exact node?_put_of_ne tree untouched _
    · rfl
    · rfl
  | replace source target =>
    obtain ⟨elsewhere, other⟩ := not_or.mp untouched
    change (tree.replace source target).2.node? location = _
    unfold replace
    split
    · rfl
    · split
      · rfl
      · exact (node?_put_of_ne _ other _).trans (node?_erase_of_ne tree elsewhere)
    · rfl
    · rfl
  | remove file =>
    change (tree.remove file).2.node? location = _
    unfold remove
    split
    · exact node?_erase_of_ne tree untouched
    · rfl
    · rfl

/-- What no step touches is as it was, wherever the steps stop. -/
theorem Stops.node? (stops : Stops tree steps stopped) (untouched : ∀ step ∈ steps, ¬ step.Touches location) :
    stopped.node? location = tree.node? location := by
  induction stops with
  | before => rfl
  | amid begins => exact node?_step fun touches => untouched _ List.mem_cons_self (begins.touches touches)
  | @after tree middle stopped step rest done stops ih =>
    have first := @node?_step tree location step (untouched step List.mem_cons_self)
    rw [done] at first
    exact (ih fun later held => untouched later (List.mem_cons_of_mem _ held)).trans first

/-- Steps that are done at last, or fail, stop there. -/
theorem stops_steps (tree : Tree) (steps : List FileStep) : Stops tree steps (tree.steps steps).2 := by
  induction steps generalizing tree with
  | nil => exact .before
  | cons step rest ih =>
    rcases ran : tree.step step with ⟨fault | done, middle⟩
    · have whole := @Stops.amid tree step step rest .whole
      simpa only [Tree.steps, ran] using whole
    · rw [steps_of_done ran]
      exact .after ran (ih middle)

/-- Where the last step is done at once, the steps stop before it or at their end. -/
theorem Stops.before_or_end {last : FileStep} (stops : Stops tree (steps ++ [last]) stopped)
    (atOnce : ∀ piece, last.Begins piece → piece = last) :
    Stops tree steps stopped ∨ stopped = (tree.steps (steps ++ [last])).2 := by
  induction steps generalizing tree with
  | nil =>
    have single : (tree.steps [last]).2 = (tree.step last).2 := by
      rcases ran : tree.step last with ⟨fault | done, after⟩ <;> simp only [Tree.steps, ran]
    rw [List.nil_append] at stops ⊢
    cases stops with
    | before => exact .inl .before
    | amid begins => exact .inr (by rw [atOnce _ begins, single])
    | after done stops =>
      cases stops with
      | before => exact .inr (by rw [single, done])
  | cons step rest ih =>
    cases stops with
    | before => exact .inl .before
    | amid begins => exact .inl (.amid begins)
    | after done stops =>
      rw [List.cons_append, steps_of_done done]
      rcases ih stops with earlier | ended
      · exact .inl (.after done earlier)
      · exact .inr ended

end Tree

end ImageOperator
