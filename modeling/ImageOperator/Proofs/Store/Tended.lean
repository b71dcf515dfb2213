import ImageOperator.Proofs.Store.Documents

set_option autoImplicit false

/-!
What handing images to a store leaves on its disk. Documents come in for objects that the store has, and for no
others; an image whose object is gone is refused at once.
-/

namespace ImageOperator.Depot

/-- An image whose object is not there is refused before anything is done about it. -/
theorem persist_of_absent {depot : Depot} {image : Image} {key : ObjectKey} (known : image.id.key? = some key)
    (absent : depot.objects.get? key = none) :
    persist image depot = ⟨.error (.objectAbsent image.id), depot, [.submitted image]⟩ := by
  unfold persist
  rw [Attempt.note_then, keyOf_of known, Attempt.of_then rfl, Attempt.read_then]
  simp only [absent, Option.isNone_none, ↓reduceIte]
  rfl

/-- An image whose object is there is taken if its document can be put right. -/
theorem persist_of_held {depot : Depot} {image : Image} {key : ObjectKey} (known : image.id.key? = some key)
    (held : (depot.objects.get? key).isSome = true) :
    (persist image depot).result = (refile image depot).result := by
  have hands := persist_hands image depot
  rw [← Attempt.bare_result (persist image), ← Attempt.bare_result (refile image)]
  generalize (persist image).bare depot = outcome at hands
  cases hands with
  | unknown unknown =>
    rw [known] at unknown
    cases unknown
  | @absent other same absent =>
    obtain rfl := Option.some.inj (known.symm.trans same)
    rw [absent] at held
    cases held
  | refused same there refiled | taken same there refiled => rw [refiled]

theorem persist_isStore {depot : Depot} {image : Image} {fault : Fault}
    (failed : (persist image depot).result = .error fault) : fault.isStore = true := by
  have persists := (persist_persists image depot).1
  rw [Attempt.bare_result, failed] at persists
  generalize ((persist image).bare depot).state.objects = after at persists
  generalize depot.objects = before at persists
  cases persists with
  | refused store => exact store

/-- An image that is taken takes the place of its object, or takes it out. -/
theorem Persists.turns {objects after : Catalog} {image : Image} {key : ObjectKey}
    (persists : Persists objects image (.ok ()) after) (known : image.id.key? = some key) :
    after = turn objects key image := by
  cases persists with
  | removed same held leaving =>
    obtain rfl := Option.some.inj (known.symm.trans same)
    exact (turn_of_leaving leaving _ _).symm
  | written same held staying =>
    obtain rfl := Option.some.inj (known.symm.trans same)
    exact (turn_of_staying staying _ _).symm

/-- What can have come to a place on the disk of a store that has some objects: nothing, the document of an image
whose object is there, or what was begun beside one. -/
inductive Arrived (objects : Catalog) (location : Location) : Option Disk → Prop
  | gone {disk : Option Disk} (gone : file? disk location = none) : Arrived objects location disk
  | document {disk : Disk} {image : Image} {key : ObjectKey} {path : Path} (known : image.id.key? = some key)
      (held : (objects.get? key).isSome = true) (found : documentPath image.id = .ok path)
      (own : location = path.location)
      (text : file? (some disk) location = some (disk.format.write image.document)) :
      Arrived objects location (some disk)
  | beside {disk : Option Disk} {image : Image} {key : ObjectKey} {path : Path} (known : image.id.key? = some key)
      (held : (objects.get? key).isSome = true) (found : documentPath image.id = .ok path)
      (own : location = (temporaryPath path).location) : Arrived objects location disk

/-- Whatever file of the disk is another than before, it came there for an object of the store. -/
def Tended (objects : Catalog) (before after : Option Disk) : Prop :=
  ∀ location, file? after location = file? before location ∨ Arrived objects location after

theorem tended_refl (objects : Catalog) (disk : Option Disk) : Tended objects disk disk :=
  fun _ => .inl rfl

section

variable {objects : Catalog} {image : Image} {key : ObjectKey} {before after : Option Disk}

theorem Spared.tended (spared : Spared image.id before after) (known : image.id.key? = some key)
    (held : (objects.get? key).isSome = true) : Tended objects before after := by
  intro location
  by_cases beside : ∃ path, documentPath image.id = .ok path ∧ location = (temporaryPath path).location
  · obtain ⟨path, found, own⟩ := beside
    exact .inr (.beside known held found own)
  · exact .inl (spared.file?_of_ne fun path found own => beside ⟨path, found, own⟩)

theorem Wrote.tended (wrote : Wrote image before after) (known : image.id.key? = some key)
    (held : (objects.get? key).isSome = true) : Tended objects before after := by
  cases wrote with
  | memory => exact tended_refl objects none
  | @disk disk tree path found there spares =>
    intro location
    by_cases own : location = path.location
    · refine .inr (.document known held found own ?_)
      rw [own]
      simp only [file?, Option.bind_some, Tree.file?, there]
    · by_cases beside : location = (temporaryPath path).location
      · exact .inr (.beside known held found beside)
      · exact .inl (spares.file? (by simp [own, beside]))

theorem Took.tended (took : Took image.id before after) : Tended objects before after := by
  cases took with
  | memory => exact tended_refl objects none
  | @disk disk tree path found gone spares =>
    intro location
    by_cases own : location = path.location
    · refine .inr (.gone ?_)
      rw [own]
      simp only [file?, Option.bind_some, Tree.file?, gone]
    · exact .inl (spares.file? (by simp [own]))

end

/-- Handing an image to a store makes no document but that of an object of the store. -/
theorem persist_tended (image : Image) (depot : Depot) :
    Tended depot.objects depot.disk (persist image depot).state.disk := by
  have disks := refile_disks image depot
  have hands := persist_hands image depot
  rw [← Attempt.bare_state]
  generalize (persist image).bare depot = outcome at hands
  cases hands with
  | unknown | absent => exact tended_refl _ _
  | refused known held refiled =>
    rw [refiled] at disks
    cases disks with
    | refused spared => exact spared.tended known held
  | taken known held refiled =>
    rw [refiled] at disks
    cases disks with
    | done refiles =>
      unfold Refiled at refiles
      split at refiles
      · exact refiles.tended
      · exact refiles.tended known held

theorem requestDeletion_tended (id : ObjectId) (now : String) (depot : Depot) :
    Tended depot.objects depot.disk (requestDeletion id now depot).state.disk := by
  have deletes := requestDeletion_deletes id now depot
  generalize requestDeletion id now depot = outcome at deletes
  cases deletes with
  | unknown | absent => exact tended_refl _ _
  | @handed key image record known stored => exact persist_tended (image.marked now) depot

end ImageOperator.Depot
