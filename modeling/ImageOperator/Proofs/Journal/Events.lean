import ImageOperator.Proofs.Attempt

set_option autoImplicit false

/-!
The events that attempts record, and attempts that record none.
-/

namespace ImageOperator

/-- The events that were recorded. -/
def Outcome.events {σ α : Type} (outcome : Outcome σ α) : List Event :=
  outcome.notes.filterMap Note.event?

namespace Attempt

variable {σ α β : Type}

theorem events_of_ok {first : Attempt σ α} {before middle : σ} {value : α} {notes : List Note}
    (done : first before = ⟨.ok value, middle, notes⟩) (next : α → Attempt σ β) :
    ((first >>= next) before).events = (first before).events ++ (next value middle).events := by
  rw [bind_of_ok done, done]
  exact List.filterMap_append ..

theorem events_of_error {first : Attempt σ α} {before middle : σ} {fault : Fault} {notes : List Note}
    (failed : first before = ⟨.error fault, middle, notes⟩) (next : α → Attempt σ β) :
    ((first >>= next) before).events = (first before).events := by
  rw [bind_of_error failed, failed]
  rfl

/-- What was done before without a word does not matter to what is heard. -/
theorem after_silent {first : Attempt σ α} {before middle : σ} {value : α} {notes : List Note}
    (done : first before = ⟨.ok value, middle, notes⟩) (silent : notes.filterMap Note.event? = [])
    (next : α → Attempt σ β) :
    ((first >>= next) before).result = (next value middle).result ∧
      ((first >>= next) before).state = (next value middle).state ∧
      ((first >>= next) before).events = (next value middle).events := by
  have told : (first before).events = [] := by
    rw [done]
    exact silent
  rw [events_of_ok done next, told, bind_of_ok done]
  exact ⟨rfl, rfl, rfl⟩

/-- Attempts that keep what is sound, tell nothing, and fail with fitting faults only. -/
def Quiet (sound : σ → Prop) (fits : Fault → Prop) (attempt : Attempt σ α) : Prop :=
  ∀ before, sound before →
    sound (attempt before).state ∧ (attempt before).events = [] ∧
      ∀ fault, (attempt before).result = .error fault → fits fault

variable {sound : σ → Prop} {fits : Fault → Prop}

theorem Quiet.bind {first : Attempt σ α} {next : α → Attempt σ β} (quiet : first.Quiet sound fits)
    (later : ∀ value, (next value).Quiet sound fits) : (first >>= next).Quiet sound fits := by
  intro before held
  obtain ⟨kept, silent, fit⟩ := quiet before held
  rcases ran : first before with ⟨fault | value, middle, notes⟩
  · rw [ran] at kept fit
    rw [events_of_error ran, bind_of_error ran]
    exact ⟨kept, silent, fun other same => fit other (congrArg Except.error (Except.error.inj same))⟩
  · rw [ran] at kept
    obtain ⟨then_kept, then_silent, then_fit⟩ := later value middle kept
    rw [events_of_ok ran, silent, then_silent, bind_of_ok ran]
    exact ⟨then_kept, rfl, then_fit⟩

theorem quiet_pure (value : α) : (pure value : Attempt σ α).Quiet sound fits :=
  fun _ held => ⟨held, rfl, nofun⟩

theorem quiet_read : (state : Attempt σ σ).Quiet sound fits :=
  fun _ held => ⟨held, rfl, nofun⟩

theorem quiet_update {change : σ → σ} (kept : ∀ before, sound before → sound (change before)) :
    (update change).Quiet sound fits :=
  fun before held => ⟨kept before held, rfl, nofun⟩

theorem quiet_note {notes : List Note} (silent : notes.filterMap Note.event? = []) :
    (note notes : Attempt σ Unit).Quiet sound fits :=
  fun _ held => ⟨held, silent, nofun⟩

theorem quiet_log (channel : Channel) (level : Level) (message : String) :
    (log channel level message : Attempt σ Unit).Quiet sound fits :=
  quiet_note rfl

theorem quiet_fail {fault : Fault} (fit : fits fault) : (fail fault : Attempt σ α).Quiet sound fits :=
  fun _ held => ⟨held, rfl, fun _ same => Except.error.inj same ▸ fit⟩

theorem quiet_of {result : Except Fault α} (fit : ∀ fault, result = .error fault → fits fault) :
    (of result : Attempt σ α).Quiet sound fits :=
  fun _ held => ⟨held, rfl, fit⟩

/-- Attempts that tell nothing, whatever they do and however they end. -/
abbrev Silent (attempt : Attempt σ α) : Prop :=
  attempt.Quiet (fun _ => True) fun _ => True

theorem Silent.events {attempt : Attempt σ α} (silent : attempt.Silent) (before : σ) : (attempt before).events = [] :=
  (silent before trivial).2.1

theorem silent_update (change : σ → σ) : (update change).Silent :=
  quiet_update fun _ _ => trivial

theorem silent_fail (fault : Fault) : (fail fault : Attempt σ α).Silent :=
  quiet_fail trivial

theorem silent_of (result : Except Fault α) : (of result : Attempt σ α).Silent :=
  quiet_of fun _ _ => trivial

end Attempt

end ImageOperator
