import ImageOperator.Proofs.Store.Refused
import ImageOperator.Proofs.Store.Tended

set_option autoImplicit false

/-!
What is told of an image that a store takes: one change, to everyone who listens for it, once the store has changed.
-/

namespace ImageOperator

namespace Audience

theorem tell_fired (change : Change) (id : ObjectId) (image : Image) (registrations : List Registration) :
    ∀ audience, (tell change id image registrations audience).2.filter Note.isFired =
      registrations.map fun registration => .fired registration.listener change id image := by
  induction registrations with
  | nil => exact fun _ => rfl
  | cons registration rest ih =>
    intro audience
    rcases reacted : audience.react registration change id image with ⟨next, broken⟩
    have later := ih next
    rcases telling : tell change id image rest next with ⟨last, notes⟩
    rw [telling] at later
    simp only [tell, reacted, telling]
    cases broken <;> exact congrArg _ later

/-- The calls of all who are registered for a change, in the order of their registration. -/
def calls (audience : Audience) (change : Change) (image : Image) : List Note :=
  (audience.registered change).map fun registration => .fired registration.listener change image.id image

end Audience

namespace Depot

variable {α β : Type} {depot : Depot} {change : Change} {image : Image}

theorem fire_fired (change : Change) (image : Image) (depot : Depot) :
    (fire change image depot).notes.filter Note.isFired = depot.audience.calls change image := by
  unfold fire
  rw [Attempt.read_then]
  exact Audience.tell_fired change image.id image _ depot.audience

/-- What is to stand under the identifier of an image of which a change is told. -/
def standing (change : Change) (image : Image) : Option Image :=
  if change = .removed then none else some image

/-- Outcomes of having changed a store and told those who listened, and nobody else. -/
structure Reaches (audience : Audience) (change : Change) (image : Image) (outcome : Outcome Depot α) : Prop where
  called : outcome.notes.filter Note.isFired = audience.calls change image
  heard : outcome.state.audience = (audience.fire change image.id image).1
  stored : image.id.key?.bind outcome.state.objects.get? = standing change image

/-- A store is changed before anyone is told. -/
theorem reaches_change {moved : Depot → Depot} (same : (moved depot).audience = depot.audience)
    (stored : image.id.key?.bind (moved depot).objects.get? = standing change image) {level : Level} {message : String} :
    Reaches depot.audience change image ((do
      Attempt.log .objects level message
      Attempt.update moved
      fire change image) depot) := by
  constructor
  · exact same ▸ fire_fired change image (moved depot)
  · exact same ▸ rfl
  · exact stored

/-- What nobody is told of may come before. -/
theorem Begun.reaches_then {first : Attempt Depot α} {next : α → Attempt Depot β} {answer : β}
    (begun : Begun depot (first depot)) (done : ((first >>= next) depot).result = .ok answer)
    (later : ∀ value middle, middle.unfiled = depot.unfiled → (next value middle).result = .ok answer →
      Reaches middle.audience change image (next value middle)) :
    Reaches depot.audience change image ((first >>= next) depot) := by
  obtain ⟨same, silent⟩ := begun
  rcases ran : first depot with ⟨fault | value, middle, before⟩
  all_goals rw [ran] at same silent
  · rw [Attempt.bind_of_error ran] at done
    cases done
  · rw [Attempt.bind_of_ok ran] at done ⊢
    obtain ⟨called, heard, stored⟩ := later value middle same done
    have audience : middle.unfiled.audience = depot.unfiled.audience := congrArg Depot.audience same
    have quiet : before.filter Note.isFired = [] :=
      List.filter_eq_nil_iff.mpr fun note noted => by simp [silent note noted]
    constructor
    · rw [List.filter_append, quiet, called]
      exact congrArg (Audience.calls · change image) audience
    · exact heard.trans (congrArg (fun audience => (Audience.fire audience change image.id image).1) audience)
    · exact stored

theorem reaches_addObject (done : (addObject image depot).result = .ok ()) :
    Reaches depot.audience .added image (addObject image depot) := by
  unfold addObject at done ⊢
  cases known : image.id.key? with
  | none =>
    rw [keyOf_of_none known] at done
    cases done
  | some key =>
    rw [Attempt.of_then (keyOf_of known), Attempt.read_then]
    apply reaches_change
    · rfl
    · rw [known]
      exact Catalog.get?_put_self depot.objects key image

theorem reaches_addWritten (done : (addWritten image depot).result = .ok ()) :
    Reaches depot.audience .added image (addWritten image depot) := by
  have begun := begun_of_apart (preserves_writeDocument image) (calls_writeDocument image) depot
  unfold addWritten at done ⊢
  rw [Attempt.read_then] at done ⊢
  split at done
  · cases done
  · rename_i kept
    rw [if_neg kept]
    exact begun.reaches_then done fun _ middle _ => reaches_addObject

/-- What a store tells of an image that it takes. -/
def turning (image : Image) : Change :=
  if leaves image then .removed else .persisted

theorem reaches_persist (done : (persist image depot).result = .ok ()) :
    Reaches depot.audience (turning image) image (persist image depot) := by
  have held : ∃ key stored, image.id.key? = some key ∧ depot.objects.get? key = some stored := by
    have hands := persist_hands image depot
    rw [← Attempt.bare_result] at done
    generalize (persist image).bare depot = outcome at hands done
    cases hands with
    | unknown | absent => cases done
    | refused known held refiled | taken known held refiled =>
      obtain ⟨stored, held⟩ := Option.isSome_iff_exists.mp held
      exact ⟨_, stored, known, held⟩
  obtain ⟨key, stored, known, held⟩ := held
  unfold persist at done ⊢
  rw [Attempt.note_then, Attempt.of_then (keyOf_of known), Attempt.read_then, held] at done ⊢
  simp only [Option.isNone_some, Bool.false_eq_true, ↓reduceIte] at done ⊢
  unfold turning
  cases leaving : leaves image with
  | true =>
    simp only [leaving, ↓reduceIte] at done ⊢
    have begun := begun_of_apart (preserves_removeDocument image.id) (calls_removeDocument image.id) depot
    have reaches : Reaches depot.audience .removed image _ := begun.reaches_then done fun _ middle _ _ => by
      apply reaches_change
      · rfl
      · rw [known]
        exact Catalog.get?_erase_self middle.objects key
    exact ⟨reaches.called, reaches.heard, reaches.stored⟩
  | false =>
    simp only [leaving, Bool.false_eq_true, ↓reduceIte] at done ⊢
    have begun := begun_of_apart (preserves_writeDocument image) (calls_writeDocument image) depot
    have reaches : Reaches depot.audience .persisted image _ := begun.reaches_then done fun _ middle _ _ => by
      apply reaches_change
      · rfl
      · rw [known]
        exact Catalog.get?_put_self middle.objects key image
    exact ⟨reaches.called, reaches.heard, reaches.stored⟩

/-- What everyone who listens is told of an image that is taken. -/
def told (depot : Depot) (image : Image) : List Note :=
  let change := if leaves image then Change.removed else Change.persisted
  (depot.audience.registered change).map fun registration => .fired registration.listener change image.id image

/-- Of an image that is taken everyone is told who listens, and nobody of anything else. -/
theorem persist_fired (taken : (persist image depot).result = .ok ()) :
    (persist image depot).notes.filter Note.isFired = depot.told image :=
  (reaches_persist taken).called

end Depot

end ImageOperator
