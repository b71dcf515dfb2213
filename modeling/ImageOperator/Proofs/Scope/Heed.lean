import ImageOperator.Proofs.Scope.Pass

set_option autoImplicit false

/-!
Passes heed the calls that they make: the first one that fails is the last, and its fault is what the pass ends with.
This holds as long as an image is to be kept. A delete whose target is missing is gone on from.
-/

namespace ImageOperator

/-- The fault that a call is made to end with, if it is a call that is noted. -/
def Note.fault? : Note → Option Fault
  | .called workspace call => workspace.fault? call.operation
  | _ => none

namespace Attempt

variable {σ α β : Type}

/-- Outcomes of what ends with the fault of the first call that fails, and does nothing more. -/
inductive Heeded : Outcome σ α → Prop
  | calm {value : α} {after : σ} {notes : List Note} (calm : ∀ note ∈ notes, note.fault? = none) :
      Heeded ⟨.ok value, after, notes⟩
  | broken {fault : Fault} {after : σ} {earlier : List Note} {last : Note}
      (calm : ∀ note ∈ earlier, note.fault? = none) (failed : last.fault? = some fault) :
      Heeded ⟨.error fault, after, earlier ++ [last]⟩

/-- Attempts that end with the fault of the first call that fails, and do nothing more. -/
def Heeds (attempt : Attempt σ α) : Prop :=
  ∀ before, Heeded (attempt.bare before)

theorem heeded_of_fault {workspace : Workspace} {call : Call} {fault : Fault}
    (failed : workspace.fault? call.operation = some fault) (after : σ) :
    Heeded (⟨.error fault, after, [.called workspace call]⟩ : Outcome σ α) :=
  @Heeded.broken _ _ _ _ [] _ nofun failed

theorem heeded_of_calm {workspace : Workspace} {call : Call} (calm : workspace.fault? call.operation = none)
    (value : α) (after : σ) : Heeded (⟨.ok value, after, [.called workspace call]⟩ : Outcome σ α) :=
  .calm fun _ made => List.mem_singleton.mp made ▸ calm

theorem Heeded.bind {first : Attempt σ α} {next : α → Attempt σ β} {before : σ} (heeded : Heeded (first before))
    (later : ∀ value, Heeded (next value (first before).state)) : Heeded ((first >>= next) before) := by
  rcases ran : first before with ⟨_, middle, notes⟩
  rw [ran] at heeded later
  cases heeded with
  | broken calm failed =>
    rw [bind_of_error ran]
    exact .broken calm failed
  | @calm value _ _ calm =>
    rw [bind_of_ok ran]
    have then_heeded := later value
    rcases then_ran : next value middle with ⟨_, after, _⟩
    rw [then_ran] at then_heeded
    have both {more : List Note} (also : ∀ note ∈ more, note.fault? = none) :
        ∀ note ∈ notes ++ more, note.fault? = none := fun note made =>
      (List.mem_append.mp made).elim (calm note) (also note)
    cases then_heeded with
    | calm also => exact .calm (both also)
    | broken also failed =>
      rw [← List.append_assoc]
      exact .broken (both also) failed

theorem Heeds.bind {first : Attempt σ α} {next : α → Attempt σ β} (heeds : first.Heeds)
    (later : ∀ value, (next value).Heeds) : (first >>= next).Heeds := by
  intro before
  rw [bare_bind]
  exact (heeds before).bind fun value => later value _

theorem heeds_pure (value : α) : (pure value : Attempt σ α).Heeds :=
  fun _ => .calm nofun

/-- What makes no calls and does not fail has nothing to heed. -/
theorem heeds_of_silent {attempt : Attempt σ α}
    (silent : ∀ before, ∃ value after, attempt.bare before = ⟨.ok value, after, []⟩) : attempt.Heeds := by
  intro before
  obtain ⟨value, after, ran⟩ := silent before
  rw [ran]
  exact .calm nofun

/-- A call that fails, and is heeded, is the last, and its fault what was come to. -/
theorem Heeded.ends {outcome : Outcome σ α} (heeded : Heeded outcome) {note : Note} {fault : Fault}
    (made : note ∈ outcome.notes) (failed : note.fault? = some fault) :
    outcome.result = .error fault ∧ ∃ earlier, outcome.notes = earlier ++ [note] := by
  cases heeded with
  | calm calm =>
    rw [calm note made] at failed
    cases failed
  | @broken _ _ earlier last calm broke =>
    rcases List.mem_append.mp made with early | late
    · rw [calm note early] at failed
      cases failed
    · obtain rfl := List.mem_singleton.mp late
      obtain rfl := Option.some.inj (broke.symm.trans failed)
      exact ⟨rfl, earlier, rfl⟩

end Attempt

open Attempt (Heeded heeded_of_fault heeded_of_calm heeds_of_silent heeds_pure)

namespace Bench

theorem heeds_current : current.Heeds :=
  heeds_of_silent fun _ => ⟨_, _, rfl⟩

theorem heeded_findImage (voice : Voice) (bench : Bench) : Heeded ((findImage voice bench.image.name).bare bench) := by
  cases listing : bench.workspace.fault? .listImages with
  | some fault => exact findImage_of_fault listing bench.image.name ▸ heeded_of_fault listing _
  | none => exact findImage_of_calm listing ▸ heeded_of_calm listing _ _

theorem heeds_latestJob (voice : Voice) : (latestJob voice).Heeds := by
  intro bench
  cases asking : bench.workspace.fault? .latestJob with
  | some fault => exact latestJob_of_fault asking ▸ heeded_of_fault asking _
  | none => exact latestJob_of_calm asking ▸ heeded_of_calm asking _ _

theorem heeds_createJob (voice : Voice) : (createJob voice).Heeds := by
  intro bench
  cases creating : bench.workspace.fault? .createJob with
  | some fault => exact createJob_of_fault creating ▸ heeded_of_fault creating _
  | none => exact createJob_of_calm creating ▸ heeded_of_calm creating _ _

theorem heeded_proceed (voice : Voice) (latest : Option Job) (bench : Bench) : Heeded (proceed voice latest bench) := by
  unfold proceed
  cases latest.filter (!·.state.isTerminal) with
  | some job => exact .calm nofun
  | none => exact heeds_createJob voice bench

theorem heeds_ensureImage (voice : Voice) : (ensureImage voice).Heeds := by
  intro bench
  rw [bare_ensureImage]
  refine (heeded_findImage voice bench).bind fun listed => ?_
  cases listed with
  | some found => exact .calm nofun
  | none => exact (heeds_latestJob voice _).bind fun latest => heeded_proceed voice latest _

end Bench

namespace Pass

theorem heeds_failedJob (voice : Voice) : (failedJob voice).Heeds := by
  refine Bench.heeds_current.bind fun image => ?_
  dsimp only
  split
  · refine (Bench.heeds_latestJob voice).bind fun latest => ?_
    cases latest <;> exact heeds_pure _
  · exact heeds_pure _

/-- A pass over an image that is to be kept heeds its calls. -/
theorem heeds_normal (config : Config) (voice : Voice) : (normal config voice).Heeds := by
  refine (heeds_of_silent fun bench => ⟨_, _, Bench.bare_addFinalizer _ bench⟩).bind fun _ => ?_
  refine (heeds_failedJob voice).bind fun failed => ?_
  cases failed with
  | some job => exact heeds_of_silent fun bench => ⟨_, _, bare_markFailed config job bench⟩
  | none =>
    refine (Bench.heeds_ensureImage voice).bind fun ensured => ?_
    cases ensured with
    | found found => exact heeds_of_silent fun bench => ⟨_, _, bare_markFound found bench⟩
    | created jobId => exact heeds_of_silent fun bench => ⟨_, _, bare_created config jobId bench⟩
    | pending job => exact heeds_of_silent fun bench => ⟨_, _, bare_pending config job bench⟩

end Pass

end ImageOperator
