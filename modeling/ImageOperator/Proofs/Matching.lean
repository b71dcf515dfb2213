import ImageOperator.Proofs.Attempt

set_option autoImplicit false

/-!
Attempts that match: whoever sees no more of a state than a view of it, no more of a value than a reading of it, and of
the notes only the open ones, cannot tell one from the other.
-/

namespace ImageOperator.Attempt

variable {σ τ α β γ δ : Type}

def Matches (view : σ → τ) (read : α → γ) (first second : Attempt σ α) : Prop :=
  ∀ before other, view before = view other →
    (first before).result.map read = (second other).result.map read ∧
      view (first before).state = view (second other).state ∧
      (first before).notes.filter Note.isOpen = (second other).notes.filter Note.isOpen

variable {view : σ → τ} {read : α → γ}

/-- Who sees the whole state before an attempt foresees all that there is to see after it. -/
theorem matches_self (read : α → γ) (attempt : Attempt σ α) : Matches id read attempt attempt := by
  rintro before _ rfl
  exact ⟨rfl, rfl, rfl⟩

theorem matches_pure {value other : α} (same : read value = read other) :
    Matches view read (pure value) (pure other) :=
  fun _ _ seen => ⟨congrArg Except.ok same, seen, rfl⟩

theorem matches_fail (fault : Fault) : Matches view read (fail fault) (fail fault) :=
  fun _ _ seen => ⟨rfl, seen, rfl⟩

theorem matches_of {result other : Except Fault α} (same : result.map read = other.map read) :
    Matches view read (of result) (of other) :=
  fun _ _ seen => ⟨same, seen, rfl⟩

theorem matches_read : Matches view view state state :=
  fun _ _ seen => ⟨congrArg Except.ok seen, seen, rfl⟩

theorem matches_update {change edit : σ → σ}
    (kept : ∀ before other, view before = view other → view (change before) = view (edit other)) :
    Matches view id (update change) (update edit) :=
  fun before other seen => ⟨rfl, kept before other seen, rfl⟩

theorem matches_note {notes others : List Note} (same : notes.filter Note.isOpen = others.filter Note.isOpen) :
    Matches view id (note notes) (note others) :=
  fun _ _ seen => ⟨rfl, seen, same⟩

/-- Log records are not seen, whatever they say. -/
theorem matches_log (channel otherChannel : Channel) (level otherLevel : Level) (message otherMessage : String) :
    Matches view id (log channel level message) (log otherChannel otherLevel otherMessage) :=
  matches_note rfl

theorem Matches.tried {first second : Attempt σ α} (same : Matches view read first second) :
    Matches view (Except.map read) first.tried second.tried := by
  intro before other seen
  obtain ⟨result, state, notes⟩ := same before other seen
  exact ⟨congrArg Except.ok result, state, notes⟩

/-- What goes on from attempts that match, matches if it does for values that read the same. -/
theorem Matches.bind {first second : Attempt σ α} {next follow : α → Attempt σ β} {look : β → δ}
    (same : Matches view read first second)
    (later : ∀ value other, read value = read other → Matches view look (next value) (follow other)) :
    Matches view look (first >>= next) (second >>= follow) := by
  intro before other seen
  obtain ⟨result, state, notes⟩ := same before other seen
  rcases ran : first before with ⟨fault | value, middle, told⟩ <;>
    rcases followed : second other with ⟨otherFault | otherValue, otherMiddle, otherTold⟩
  all_goals rw [ran, followed] at result state notes
  · obtain rfl := Except.error.inj result
    rw [bind_of_error ran, bind_of_error followed]
    exact ⟨rfl, state, notes⟩
  · cases result
  · cases result
  · obtain ⟨thenResult, thenState, thenNotes⟩ := later value otherValue (Except.ok.inj result) middle otherMiddle state
    rw [bind_of_ok ran, bind_of_ok followed]
    refine ⟨thenResult, thenState, ?_⟩
    rw [List.filter_append, List.filter_append, notes, thenNotes]

theorem Matches.weaken {first second : Attempt σ α} (same : Matches view id first second) :
    Matches view read first second := by
  intro before other seen
  obtain ⟨result, state, notes⟩ := same before other seen
  rw [Except.map_id] at result
  exact ⟨congrArg (Except.map read) result, state, notes⟩

/-- What goes on alike from the same value. -/
theorem Matches.andThen {first second : Attempt σ α} {next follow : α → Attempt σ β} {look : β → δ}
    (same : Matches view id first second) (later : ∀ value, Matches view look (next value) (follow value)) :
    Matches view look (first >>= next) (second >>= follow) := by
  apply same.bind
  rintro value _ rfl
  exact later value

end ImageOperator.Attempt
