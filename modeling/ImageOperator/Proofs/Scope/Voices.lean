import ImageOperator.Proofs.Journal.Recorder
import ImageOperator.Proofs.Matching
import ImageOperator.Scope.Pass

set_option autoImplicit false

/-!
Voices do not matter: what is done at a bench, and all that is to be seen of it, is the same whatever recorder its
events are told to and whatever channel its log is written to.
-/

namespace ImageOperator

open Attempt

/-- Attempts at a bench of which one does all that the other does. -/
abbrev Bench.Same {α : Type} (first second : Attempt Bench α) : Prop :=
  Matches id id first second

namespace Bench

variable {α : Type}

theorem same_self (attempt : Attempt Bench α) : Same attempt attempt :=
  matches_self id attempt

theorem same_tell (voice other : Voice) (severity : Severity) (reason message : String) :
    Same (tell voice severity reason message) (tell other severity reason message) := by
  apply Matches.andThen matches_read
  intro bench
  apply matches_note
  rw [Recorder.filter_isOpen_notes, Recorder.filter_isOpen_notes]

theorem same_say (voice other : Voice) (level : Level) (message : String) :
    Same (say voice level message) (say other level message) :=
  matches_log _ _ _ _ _ _

theorem same_warned (voice other : Voice) (reason : String) (wording : Fault → String)
    {attempt follow : Attempt Bench α}
    (same : Same attempt follow) : Same (warned voice reason wording attempt) (warned other reason wording follow) := by
  apply same.tried.bind
  rintro (fault | value) (otherFault | otherValue) read
  · obtain rfl := Except.error.inj read
    dsimp only
    split
    · exact (same_tell voice other _ _ _).andThen fun _ => matches_fail _
    · exact matches_fail _
  · cases read
  · cases read
  · exact matches_pure (Except.ok.inj read)

theorem same_findImage (voice other : Voice) (name : Value) : Same (findImage voice name) (findImage other name) := by
  apply (same_self (call Workspace.listImages)).andThen
  intro images
  cases images.filter (·.name.same name) with
  | nil => exact matches_pure rfl
  | cons image others =>
    dsimp only
    split
    · exact (same_say voice other _ _).andThen fun _ => matches_pure rfl
    · exact matches_pure rfl

theorem same_latestJob (voice other : Voice) : Same (latestJob voice) (latestJob other) :=
  (same_self current).andThen fun _ => same_warned voice other _ _ (same_self _)

theorem same_createJob (voice other : Voice) : Same (createJob voice) (createJob other) := by
  apply (same_self current).andThen
  intro image
  apply (same_self (call (Workspace.createJob (importRequest image))).tried).andThen
  rintro (fault | jobId)
  · dsimp only
    split
    · exact (same_say voice other _ _).andThen fun _ => (same_tell voice other _ _ _).andThen fun _ => matches_fail _
    · exact matches_fail _
  · exact (same_say voice other _ _).andThen fun _ => (same_tell voice other _ _ _).andThen fun _ => matches_pure rfl

theorem same_ensureImage (voice other : Voice) : Same (ensureImage voice) (ensureImage other) := by
  apply (same_self current).andThen
  intro image
  apply (same_warned voice other _ _ (same_findImage voice other _)).andThen
  rintro (_ | found)
  · apply (same_latestJob voice other).andThen
    rintro (_ | job)
    · exact same_createJob voice other
    · dsimp only
      split
      · exact same_createJob voice other
      · exact (same_say voice other _ _).andThen fun _ => matches_pure rfl
  · exact (same_say voice other _ _).andThen fun _ => (same_tell voice other _ _ _).andThen fun _ => matches_pure rfl

theorem same_deleteTarget (voice other : Voice) (attempt : Attempt Workspace Unit)
    (gone failedReason failedText doneReason doneText : String) :
    Same (deleteTarget voice attempt gone failedReason failedText doneReason doneText)
      (deleteTarget other attempt gone failedReason failedText doneReason doneText) := by
  apply (same_self (call attempt).tried).andThen
  rintro (fault | done)
  · dsimp only
    split
    · exact (same_say voice other _ _).andThen fun _ => same_tell voice other _ _ _
    · split
      · exact (same_tell voice other _ _ _).andThen fun _ => matches_fail fault
      · exact matches_fail fault
  · exact same_tell voice other _ _ _

theorem same_deleteImage (voice other : Voice) : Same (deleteImage voice) (deleteImage other) :=
  (same_self current).andThen fun _ => same_deleteTarget voice other _ _ _ _ _ _

theorem same_deleteJob (voice other : Voice) : Same (deleteJob voice) (deleteJob other) :=
  (same_self current).andThen fun _ => same_deleteTarget voice other _ _ _ _ _ _

end Bench

namespace Pass

open Bench (Same same_self)

theorem same_failedJob (voice other : Voice) : Same (failedJob voice) (failedJob other) := by
  apply (same_self Bench.current).andThen
  intro image
  dsimp only
  split
  · exact (Bench.same_latestJob voice other).andThen fun _ => same_self _
  · exact matches_pure rfl

theorem same_normal (config : Config) (voice other : Voice) : Same (normal config voice) (normal config other) := by
  apply (same_self (Bench.addFinalizer _)).andThen
  intro _
  apply (same_failedJob voice other).andThen
  rintro (_ | job)
  · exact (Bench.same_ensureImage voice other).andThen fun _ => same_self _
  · exact same_self _

theorem same_clearImage (voice other : Voice) : Same (clearImage voice) (clearImage other) := by
  apply (same_self Bench.current).andThen
  intro image
  split
  · exact (Bench.same_deleteImage voice other).andThen fun _ => same_self _
  · exact matches_pure rfl

theorem same_clearJob (voice other : Voice) : Same (clearJob voice) (clearJob other) := by
  apply (same_self Bench.current).andThen
  intro image
  split
  · exact (Bench.same_deleteJob voice other).andThen fun _ => same_self _
  · exact matches_pure rfl

theorem same_delete (voice other : Voice) : Same (delete voice) (delete other) := by
  apply (same_self Bench.current).andThen
  intro image
  apply (same_self (say .info ("Deleting " ++ image.path))).andThen
  intro _
  apply (same_clearImage voice other).andThen
  intro _
  exact (same_clearJob voice other).andThen fun _ => same_self _

theorem same_body (config : Config) (voice other : Voice) : Same (body config voice) (body config other) := by
  apply (same_self Bench.current).andThen
  intro image
  split
  · exact same_delete voice other
  · exact same_normal config voice other

end Pass

end ImageOperator
