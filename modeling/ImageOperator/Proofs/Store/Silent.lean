import ImageOperator.Proofs.Journal.Events
import ImageOperator.Store.Depot

set_option autoImplicit false

/-!
Stores record no events.
-/

namespace ImageOperator

open Attempt (Silent quiet_pure quiet_read quiet_log quiet_note silent_update silent_fail silent_of)

namespace Audience

theorem tell_silent (change : Change) (id : ObjectId) (image : Image) (registrations : List Registration) :
    ∀ audience, (tell change id image registrations audience).2.filterMap Note.event? = [] := by
  induction registrations with
  | nil => exact fun _ => rfl
  | cons registration rest ih =>
    intro audience
    rcases reacted : audience.react registration change id image with ⟨next, broken⟩
    have later := ih next
    simp only [tell, reacted]
    cases broken <;> exact later

end Audience

namespace Depot

theorem silent_fire (change : Change) (image : Image) : (fire change image).Silent := by
  refine quiet_read.bind fun depot => ?_
  dsimp only
  exact (silent_update _).bind fun _ => quiet_note (Audience.tell_silent change image.id image _ _)

theorem silent_takeSteps (disk : Disk) (steps : List FileStep) : (takeSteps disk steps).Silent := by
  unfold takeSteps
  rcases disk.tree.steps steps with ⟨fault | done, tree⟩
  · exact (silent_update _).bind fun _ => silent_fail _
  · exact silent_update _

theorem silent_writeDocument (image : Image) : (writeDocument image).Silent := by
  refine quiet_read.bind fun depot => ?_
  cases depot.disk with
  | none => exact quiet_pure _
  | some disk =>
    exact (silent_of _).bind fun path => (silent_takeSteps disk _).bind fun _ => quiet_log _ _ _

theorem silent_removeDocument (id : ObjectId) : (removeDocument id).Silent := by
  refine quiet_read.bind fun depot => ?_
  cases depot.disk with
  | none => exact quiet_pure _
  | some disk =>
    refine (silent_of _).bind fun path => (silent_takeSteps disk _).bind fun _ => ?_
    split
    · exact quiet_log _ _ _
    · exact quiet_pure _

/-- What goes on unless it failed before. -/
theorem silent_guarded {α : Type} {fails : Prop} [Decidable fails] {fault : Fault} {next : Attempt Depot α}
    (silent : next.Silent) :
    Silent (if fails then Attempt.fail fault >>= fun _ : PUnit => next else next) := by
  split
  · exact (silent_fail _).bind fun _ => silent
  · exact silent

theorem silent_persist (image : Image) : (persist image).Silent := by
  refine Attempt.Quiet.bind (quiet_note rfl) fun _ => (silent_of _).bind fun key => quiet_read.bind fun depot => ?_
  dsimp only
  refine silent_guarded ?_
  split
  · exact (silent_removeDocument _).bind fun _ => (quiet_log _ _ _).bind fun _ =>
      (silent_update _).bind fun _ => silent_fire _ _
  · exact (silent_writeDocument _).bind fun _ => (quiet_log _ _ _).bind fun _ =>
      Attempt.Quiet.bind (silent_update _) fun _ => silent_fire _ _

end Depot

end ImageOperator
