import ImageOperator.Proofs.Attempt
import ImageOperator.Scope.Pass
import ImageOperator.Store.Depot

set_option autoImplicit false

/-!
What passes and deletion requests make of an image: each changes the part that it is about and nothing else.
-/

namespace ImageOperator.Value

theorem eq_text_of_key {value : Value} {text : String} (known : value.key? = some (.text text)) :
    value = .text text := by
  cases value with
  | text other => simpa [key?] using known
  | float x => cases x <;> simp [key?, Binary64.key] at known
  | null | bool | int | bytes | date | timestamp | sequence | tuple | mapping | set => simp [key?] at known

theorem eq_text_of_same {text : String} {value : Value} (same : (Value.text text).same value = true) :
    value = .text text := by
  apply eq_text_of_key
  cases value <;> simp [Value.same, sameKey, key?] at same ⊢
  all_goals exact same.symm

end ImageOperator.Value

namespace ImageOperator.Image

/-- The image with another status. -/
def withStatus (image : Image) (edit : Image.Status → Image.Status) : Image :=
  { image with status := edit image.status }

theorem withStatus_of_eq {image : Image} {edit : Image.Status → Image.Status}
    (same : edit image.status = image.status) : image.withStatus edit = image := by
  rw [withStatus, same]

/-- The image under the operator's finalizer. -/
def guarded (image : Image) : Image :=
  image.addFinalizer (.text finalizer)

/-- The image without the operator's finalizer. -/
def released (image : Image) : Image :=
  image.removeFinalizer (.text finalizer)

theorem withFinalizer_image (image : Image) (name : Value) :
    (image.withFinalizer name).1 = image.addFinalizer name := by
  unfold withFinalizer addFinalizer
  split <;> rfl

theorem withFinalizer_told (image : Image) (name : Value) :
    (image.withFinalizer name).2.filter Note.isDeed = [] := by
  unfold withFinalizer
  split <;> rfl

theorem withoutFinalizer_told (image : Image) (name : Value) :
    (image.withoutFinalizer name).2.filter Note.isDeed = [] := by
  unfold withoutFinalizer
  split <;> rfl

theorem withoutFinalizer_image (image : Image) (name : Value) :
    (image.withoutFinalizer name).1 = image.removeFinalizer name := by
  unfold withoutFinalizer
  split
  · rfl
  · rename_i missing
    have kept : image.finalizers.eraseP (name.same ·) = image.finalizers :=
      List.eraseP_of_forall_not (by simpa [hasFinalizer] using missing)
    simp only [removeFinalizer, kept]

theorem same_of_key {value : Value} (known : value.key?.isSome = true) : value.same value = true := by
  unfold Value.same
  split <;> first | cases known | simp [Value.sameKey, known]

theorem same_name {image : Image} {key : ObjectKey} (known : image.id.key? = some key) :
    image.name.same image.name = true := by
  apply same_of_key
  unfold ObjectId.key? at known
  split at known
  · rename_i named
    have keyed : image.name.key? = some _ := named
    rw [keyed]
    rfl
  · cases known

def isGuarded (image : Image) : Bool :=
  image.hasFinalizer (.text finalizer)

theorem isGuarded_of_finalizers {before after : Image} (same : after.finalizers = before.finalizers) :
    after.isGuarded = before.isGuarded := by
  simp only [isGuarded, hasFinalizer, same]

theorem isGuarded_of_leaves {image : Image} (leaving : Depot.leaves image = true) : image.isGuarded = false := by
  simp only [Depot.leaves, Bool.and_eq_true, List.isEmpty_iff] at leaving
  simp [isGuarded, hasFinalizer, leaving.2]

@[simp] theorem guarded_isGuarded (image : Image) : image.guarded.isGuarded = true := by
  unfold isGuarded guarded addFinalizer
  split
  · assumption
  · have own : (Value.text finalizer).same (.text finalizer) = true := same_of_key rfl
    simp [hasFinalizer, own]

theorem guarded_of_isGuarded {image : Image} (guarded : image.isGuarded = true) : image.guarded = image := by
  have present : image.hasFinalizer (.text finalizer) = true := guarded
  simp only [Image.guarded, addFinalizer, present, ↓reduceIte]

@[simp] theorem guarded_id (image : Image) : image.guarded.id = image.id := by
  unfold guarded addFinalizer
  split <;> rfl

@[simp] theorem guarded_name (image : Image) : image.guarded.name = image.name :=
  congrArg ObjectId.name image.guarded_id

@[simp] theorem guarded_spec (image : Image) : image.guarded.spec = image.spec := by
  unfold guarded addFinalizer
  split <;> rfl

@[simp] theorem guarded_status (image : Image) : image.guarded.status = image.status := by
  unfold guarded addFinalizer
  split <;> rfl

@[simp] theorem guarded_deletion (image : Image) : image.guarded.deletion = image.deletion := by
  unfold guarded addFinalizer
  split <;> rfl

@[simp] theorem guarded_deletionRequested (image : Image) :
    image.guarded.deletionRequested = image.deletionRequested := by
  unfold guarded addFinalizer
  split <;> rfl

@[simp] theorem marked_id (image : Image) (now : String) : (image.marked now).id = image.id := by
  unfold marked
  split <;> rfl

@[simp] theorem marked_spec (image : Image) (now : String) : (image.marked now).spec = image.spec := by
  unfold marked
  split <;> rfl

@[simp] theorem marked_status (image : Image) (now : String) : (image.marked now).status = image.status := by
  unfold marked
  split <;> rfl

@[simp] theorem marked_finalizers (image : Image) (now : String) :
    (image.marked now).finalizers = image.finalizers := by
  unfold marked
  split <;> rfl

theorem marked_deletionRequested (image : Image) (now : String) :
    (image.marked now).deletionRequested = true := by
  unfold marked
  split
  · assumption
  · rfl

theorem marked_of_requested {image : Image} (requested : image.deletionRequested = true) (now : String) :
    image.marked now = image := by
  simp [marked, requested]

/-- The finalizers of an image that are not the operator's. -/
def foreign (image : Image) : List Value :=
  image.finalizers.filter fun value => !(Value.text finalizer).same value

/-- The images are of one object, of which the same is wanted, and others hold on to it as before. -/
structure Kin (before after : Image) : Prop where
  id : after.id = before.id
  spec : after.spec = before.spec
  deletion : after.deletion = before.deletion
  foreign : after.foreign = before.foreign

theorem Kin.trans {first second third : Image} (before : Kin first second) (after : Kin second third) :
    Kin first third :=
  ⟨after.id.trans before.id, after.spec.trans before.spec, after.deletion.trans before.deletion,
    after.foreign.trans before.foreign⟩

theorem kin_guarded (image : Image) : Kin image image.guarded := by
  refine ⟨image.guarded_id, image.guarded_spec, image.guarded_deletion, ?_⟩
  unfold guarded addFinalizer
  split
  · rfl
  · have own : (Value.text finalizer).same (.text finalizer) = true := same_of_key rfl
    simp [foreign, own]

theorem filter_eraseP {α : Type} (taken : α → Bool) (items : List α) :
    (items.eraseP taken).filter (!taken ·) = items.filter (!taken ·) := by
  induction items with
  | nil => rfl
  | cons item rest ih =>
    cases own : taken item with
    | true => simp [own]
    | false => simp [own, ih]

theorem countP_eraseP {α : Type} (taken : α → Bool) (items : List α) :
    (items.eraseP taken).countP taken = items.countP taken - 1 := by
  induction items with
  | nil => rfl
  | cons item rest ih =>
    cases own : taken item with
    | true => simp [own]
    | false => simp [own, ih]

theorem kin_released (image : Image) : Kin image image.released :=
  ⟨rfl, rfl, rfl, filter_eraseP _ image.finalizers⟩

end ImageOperator.Image
