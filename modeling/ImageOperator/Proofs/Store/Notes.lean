import ImageOperator.Proofs.Store.Persist

set_option autoImplicit false

/-!
What a store tells while an image is handed to it: that it was handed, once, and changes of that image.
-/

namespace ImageOperator

namespace Audience

/-- Notes of changes of an image that is told to listeners. -/
def IsTold (image : Image) (note : Note) : Prop :=
  ∃ listener change, note = .fired listener change image.id image

theorem tell_isTold (change : Change) (image : Image) (registrations : List Registration) :
    ∀ audience, ∀ note ∈ (tell change image.id image registrations audience).2.filter Note.isOfStore,
      IsTold image note := by
  induction registrations with
  | nil => exact fun _ _ none => absurd none List.not_mem_nil
  | cons registration rest ih =>
    intro audience note told
    rcases reacted : audience.react registration change image.id image with ⟨next, broken⟩
    have later := ih next
    rcases telling : tell change image.id image rest next with ⟨last, notes⟩
    rw [telling] at later
    simp only [tell, reacted, telling] at told
    cases broken with
    | true =>
      rcases List.mem_cons.mp told with rfl | told
      · exact ⟨registration.listener, change, rfl⟩
      · exact later note told
    | false =>
      rcases List.mem_cons.mp told with rfl | told
      · exact ⟨registration.listener, change, rfl⟩
      · exact later note told

end Audience

namespace Depot

open Audience (IsTold)
open Attempt (Calls calls_pure calls_read calls_fail calls_of calls_update calls_log)

variable {α β : Type}

/-- Stores make no calls. -/
def calls (_ : Depot) : List Call := []

/-- An attempt that has a store tell of an image only. -/
def Tells (image : Image) (attempt : Attempt Depot α) : Prop :=
  ∀ depot, ∀ note ∈ (attempt depot).notes.filter Note.isOfStore, IsTold image note

variable {image : Image}

theorem Tells.bind {first : Attempt Depot α} {next : α → Attempt Depot β} (tells : Tells image first)
    (later : ∀ value, Tells image (next value)) : Tells image (first >>= next) := by
  intro depot note told
  have earlier := tells depot
  rcases ran : first depot with ⟨fault | value, middle, notes⟩
  all_goals rw [ran] at earlier
  · rw [Attempt.bind_of_error ran] at told
    exact earlier note told
  · rw [Attempt.bind_of_ok ran, List.filter_append] at told
    rcases List.mem_append.mp told with first_told | then_told
    · exact earlier note first_told
    · exact later value middle note then_told

theorem Tells.of_calls {made : Depot → List Call} {attempt : Attempt Depot α} (calls : Calls made attempt) :
    Tells image attempt := by
  intro depot note told
  rw [(calls depot).2] at told
  cases told

/-- What goes on unless it failed before. -/
theorem Tells.guarded {fails : Prop} [Decidable fails] {fault : Fault} {next : Attempt Depot β}
    (tells : Tells image next) :
    Tells image (if fails then Attempt.fail fault >>= fun _ : PUnit => next else next) := by
  split
  · exact (Tells.of_calls (calls_fail calls _)).bind fun _ => tells
  · exact tells

theorem tells_fire (change : Change) (image : Image) : Tells image (fire change image) := by
  intro depot note told
  refine Audience.tell_isTold change image (depot.audience.registered change) depot.audience note ?_
  simp only [fire, Attempt.read_then] at told
  exact told

theorem calls_takeSteps (disk : Disk) (steps : List FileStep) : (takeSteps disk steps).Calls calls := by
  unfold takeSteps
  rcases disk.tree.steps steps with ⟨fault | done, tree⟩
  · exact Attempt.Calls.bind (calls_update fun _ => rfl) fun _ => calls_fail _ _
  · exact calls_update fun _ => rfl

theorem calls_writeDocument (image : Image) : (writeDocument image).Calls calls := by
  refine (calls_read _).bind fun depot => ?_
  cases depot.disk with
  | none => exact calls_pure _ _
  | some disk =>
    exact (calls_of _ _).bind fun path => (calls_takeSteps disk _).bind fun _ => calls_log _ _ _ _

theorem calls_removeDocument (id : ObjectId) : (removeDocument id).Calls calls := by
  refine (calls_read _).bind fun depot => ?_
  cases depot.disk with
  | none => exact calls_pure _ _
  | some disk =>
    refine (calls_of _ _).bind fun path => (calls_takeSteps disk _).bind fun _ => ?_
    split
    · exact calls_log _ _ _ _
    · exact calls_pure _ _

/-- An image that is handed to a store is handed once, and nothing is told of any other. -/
theorem persist_tells (image : Image) (depot : Depot) :
    ∃ told, (persist image depot).notes.filter Note.isOfStore = .submitted image :: told ∧
      ∀ note ∈ told, IsTold image note := by
  unfold persist
  rw [Attempt.note_then]
  refine ⟨_, rfl, ?_⟩
  refine Tells.bind (Tells.of_calls (calls_of calls _)) (fun key => ?_) depot
  refine (Tells.of_calls (calls_read calls)).bind fun depot => ?_
  dsimp only
  refine Tells.guarded ?_
  split
  · refine (Tells.of_calls (calls_removeDocument _)).bind fun _ => (Tells.of_calls (calls_log calls _ _ _)).bind ?_
    refine fun _ => Tells.bind (Tells.of_calls (calls_update fun _ => (rfl : calls _ = calls _))) fun _ => ?_
    exact tells_fire .removed image
  · refine (Tells.of_calls (calls_writeDocument _)).bind fun _ => (Tells.of_calls (calls_log calls _ _ _)).bind ?_
    refine fun _ => Tells.bind (Tells.of_calls (calls_update fun _ => (rfl : calls _ = calls _))) fun _ => ?_
    exact tells_fire .persisted image

theorem submitted_of_apart (note : Note) (apart : note.isOfStore = false) : note.submitted? = none := by
  cases note <;> first | rfl | cases apart

/-- Of the images that are handed to a store while one is, there is that one. -/
theorem persist_submitted (image : Image) (depot : Depot) :
    (persist image depot).notes.filterMap Note.submitted? = [image] := by
  obtain ⟨told, notes, isTold⟩ := persist_tells image depot
  have silent : told.filterMap Note.submitted? = [] := by
    rw [List.filterMap_eq_nil_iff]
    intro note member
    obtain ⟨listener, change, rfl⟩ := isTold note member
    rfl
  have handed : Note.submitted? (.submitted image) = some image := rfl
  rw [← Note.filterMap_filter submitted_of_apart, notes, List.filterMap_cons_some handed, silent]

/-- No call is made while an image is handed to a store. -/
theorem persist_made? (image : Image) (depot : Depot) : (persist image depot).notes.filterMap Note.made? = [] := by
  have deeds (note : Note) (other : note.isDeed = false) : note.made? = none := by
    cases note <;> first | rfl | cases other
  rw [← Note.filterMap_filter deeds, ← Attempt.bare_notes, (persist_persists image depot).2]
  rfl

end Depot

end ImageOperator
