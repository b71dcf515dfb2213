import ImageOperator.Proofs.Session.Moves

set_option autoImplicit false

/-!
What the store holds under an identifier, from one step to the next.
-/

namespace ImageOperator

namespace Session

theorem Reconciles.filed {scene after : Scene} {id : ObjectId} {result : Except Fault Pass.Requeue}
    {notes : List Note} (reconciles : Reconciles scene id result after notes) (filed : scene.objects.Filed) :
    after.objects.Filed := by
  cases reconciles with
  | idle other | refused known stored client works broken => exact filed
  | handed known stored client works sound persists => exact persists.filed filed

theorem Moves.filed {session : Session} {command : Command} {after : Scene} {notes : List Note}
    (moves : Moves session command after notes) (filed : session.scene.objects.Filed) : after.objects.Filed := by
  cases moves with
  | rests | turns turns => exact filed
  | adds brought adds => exact adds.filed filed
  | marks marks => exact marks.filed filed
  | reconciles told deeds reconciles => exact reconciles.filed filed

/-- Which client serves an image is settled once for all. -/
theorem Moves.clientOf {session : Session} {command : Command} {after : Scene} {notes : List Note}
    (moves : Moves session command after notes) (image : Image) :
    after.clientOf image = session.scene.clientOf image := by
  cases moves with
  | rests | adds brought adds | marks marks | turns turns => rfl
  | reconciles told deeds reconciles => cases reconciles <;> rfl

variable {session after : Session}

/-- A stored object stands where it was looked for. -/
theorem key?_of_stored {other : ObjectId} {image : Image} (filed : session.scene.objects.Filed)
    (stored : session.stored? other = some image) : image.id.key? = other.key? := by
  obtain ⟨key, known, held⟩ := Option.bind_eq_some_iff.mp stored
  rw [known]
  exact filed _ (Catalog.mem_of_get? held)

theorem stored?_of_key {other : ObjectId} {id : ObjectId} (same : id.key? = other.key?) :
    session.stored? id = session.stored? other := by
  rw [stored?, stored?, same]

/-- A stored object is found under its own identifier. -/
theorem stored?_own {other : ObjectId} {image : Image} (filed : session.scene.objects.Filed)
    (stored : session.stored? other = some image) : session.stored? image.id = some image :=
  (stored?_of_key (key?_of_stored filed stored)).trans stored

theorem stored?_of_persists {image : Image} {result : Except Fault Unit}
    (persists : Depot.Persists session.scene.objects image result after.scene.objects) (id : ObjectId) :
    after.stored? id = session.stored? id ∨ after.stored? id = none ∨
      (image.id.key? = id.key? ∧ after.stored? id = some image ∧ Depot.leaves image = false ∧ result = .ok ()) := by
  cases known : id.key? with
  | none => exact .inr (.inl (by simp only [stored?, known, Option.bind_none]))
  | some key =>
    simp only [stored?, known, Option.bind_some]
    exact persists.get?_cases key

theorem stored?_of_adds {image : Image} {result : Except Fault Unit}
    (adds : Depot.Adds session.scene.objects image result after.scene.objects) (id : ObjectId) :
    after.stored? id = session.stored? id ∨ after.stored? id = some image := by
  cases known : id.key? with
  | none => exact .inl (by simp only [stored?, known, Option.bind_none])
  | some key =>
    simp only [stored?, known, Option.bind_some]
    exact adds.get?_cases key

/-- As long as the object is stored, it has the property. -/
def StoredAs (id : ObjectId) (property : Image → Prop) (session : Session) : Prop :=
  ∀ image, session.stored? id = some image → property image

namespace StoredAs

variable {id : ObjectId} {property : Image → Prop}

theorem of_same (storedAs : StoredAs id property session) (same : after.stored? id = session.stored? id) :
    StoredAs id property after := by
  intro image stored
  rw [same] at stored
  exact storedAs image stored

/-- Writing an image takes the property away only if it is the object and has lost it. -/
theorem persists {image : Image} {result : Except Fault Unit} (storedAs : StoredAs id property session)
    (persists : Depot.Persists session.scene.objects image result after.scene.objects)
    (new : image.id.key? = id.key? → Depot.leaves image = false → result = .ok () → property image) :
    StoredAs id property after := by
  intro found stored
  rcases stored?_of_persists persists id with same | gone | ⟨own, written, staying, done⟩
  · rw [same] at stored
    exact storedAs found stored
  · rw [gone] at stored
    cases stored
  · rw [written] at stored
    obtain rfl := Option.some.inj stored
    exact new own staying done

/-- The image that is stored under a key of the object has the property. -/
theorem of_key {key : ObjectKey} {image : Image} (storedAs : StoredAs id property session)
    (filed : session.scene.objects.Filed) (stored : session.scene.objects.get? key = some image)
    (own : image.id.key? = id.key?) : property image := by
  have known : image.id.key? = some key := filed _ (Catalog.mem_of_get? stored)
  refine storedAs image ?_
  rw [stored?, ← own, known]
  exact stored

end StoredAs

end Session

end ImageOperator
