import ImageOperator.Proofs.Disk.Path
import ImageOperator.Proofs.Disk.Tree
import ImageOperator.Proofs.Store.Persist

set_option autoImplicit false

/-!
What the operations of a store do on its disk. A document is in its place with its whole text once an image is put
into the store, and gone once it is taken out; an operation that fails leaves all documents as they are.
-/

namespace ImageOperator.Depot

open ImageOperator.Tree (Spares)

/-- Steps that were taken to write a document either stop before it, or put it in its place. -/
theorem writeSteps_cases {tree after : Tree} {path : Path} {text : String} {result : Except FileFault Unit}
    (ran : tree.steps (writeSteps path text) = (result, after)) :
    (result = .ok () ∧ after.node? path.location = some (.file text) ∧
        Spares [(temporaryPath path).location, path.location] path.parent.location.length tree after) ∨
      (∃ fault, result = .error fault ∧
        Spares [(temporaryPath path).location] path.parent.location.length tree after) := by
  let place := (temporaryPath path).location
  let depth := path.parent.location.length
  have widened {before after : Tree} (spares : Spares [place] 0 before after) : Spares [place] depth before after :=
    spares.mono (fun _ held => held) (Nat.zero_le _)
  have folders : Spares [place] depth tree (tree.makeFolders [] path.parent.location).2 :=
    (Tree.makeFolders_spares tree [] path.parent.location).mono (by simp) (by simp [depth])
  simp only [writeSteps, Tree.steps, Tree.step] at ran
  rcases makes : tree.makeFolders [] path.parent.location with ⟨fault | done, founded⟩
  all_goals
    rw [makes] at folders
    simp only [makes] at ran
  · cases ran
    exact .inr ⟨fault, rfl, folders⟩
  rcases empties : founded.truncate place with ⟨fault | done, emptied⟩
  all_goals
    obtain ⟨emptying, there⟩ := Tree.truncate_spares empties
    have emptied_spares := folders.trans (widened emptying)
    simp only [place] at empties
    simp only [empties] at ran
  · cases ran
    exact .inr ⟨fault, rfl, emptied_spares⟩
  obtain ⟨below, blank⟩ := there rfl
  obtain ⟨appends, filled⟩ := @Tree.append_of_file emptied place "" text below blank
  have filled_spares := emptied_spares.trans (widened (Tree.spares_put emptied place (.file ("" ++ text))))
  simp only [place] at appends
  simp only [appends] at ran
  rcases replaces : (emptied.put place (.file ("" ++ text))).replace place path.location with ⟨fault | done, moved⟩
  all_goals
    have moving := Tree.replace_of_file filled replaces
    simp only [place] at replaces
    simp only [replaces] at ran
    cases ran
  · rcases moving with ⟨⟨⟩, _⟩ | ⟨_, _, rfl⟩
    exact .inr ⟨fault, rfl, filled_spares⟩
  · rcases moving with ⟨_, moving, arrived⟩ | ⟨_, ⟨⟩, _⟩
    refine .inl ⟨rfl, by simpa using arrived, ?_⟩
    have whole : Spares [place, path.location] depth tree (emptied.put place (.file ("" ++ text))) :=
      filled_spares.mono (by simp) (Nat.le_refl _)
    exact whole.trans (moving.mono (fun _ held => held) (Nat.zero_le _))

/-- Steps that were taken to take a document away either take it away or change nothing. -/
theorem removeSteps_cases {tree after : Tree} {path : Path} {result : Except FileFault Unit}
    (ran : tree.steps (removeSteps tree path) = (result, after)) :
    (result = .ok () ∧ after.node? path.location = none ∧ Spares [path.location] 0 tree after) ∨
      (∃ fault, result = .error fault ∧ after = tree) := by
  unfold removeSteps at ran
  cases there : tree.exists? path.location with
  | false =>
    simp only [there, Bool.false_eq_true, ↓reduceIte] at ran
    cases ran
    have absent : tree.node? path.location = none := by simpa [Tree.exists?] using there
    exact .inl ⟨rfl, absent, .refl _ _ tree⟩
  | true =>
    simp only [there, ↓reduceIte, Tree.steps, Tree.step] at ran
    rcases removes : tree.remove path.location with ⟨fault | done, left⟩
    all_goals
      have removing := Tree.remove_cases removes
      simp only [removes] at ran
      cases ran
    · rcases removing with ⟨⟨⟩, _⟩ | ⟨_, _, rfl⟩
      exact .inr ⟨fault, rfl, rfl⟩
    · rcases removing with ⟨_, spares, gone⟩ | ⟨_, ⟨⟩, _⟩
      exact .inl ⟨rfl, gone, spares⟩

/-- The document of an image is in its place, where documents are kept. -/
inductive Wrote (image : Image) : Option Disk → Option Disk → Prop
  | memory : Wrote image none none
  | disk {disk : Disk} {tree : Tree} {path : Path} (found : documentPath image.id = .ok path)
      (there : tree.node? path.location = some (.file (disk.format.write image.document)))
      (spares : Spares [(temporaryPath path).location, path.location] path.parent.location.length disk.tree tree) :
      Wrote image (some disk) (some { disk with tree })

/-- The document of an object is not there any more, where documents are kept. -/
inductive Took (id : ObjectId) : Option Disk → Option Disk → Prop
  | memory : Took id none none
  | disk {disk : Disk} {tree : Tree} {path : Path} (found : documentPath id = .ok path)
      (gone : tree.node? path.location = none) (spares : Spares [path.location] 0 disk.tree tree) :
      Took id (some disk) (some { disk with tree })

/-- At most something was begun beside the document of an object. -/
inductive Spared (id : ObjectId) : Option Disk → Option Disk → Prop
  | same {disk : Option Disk} : Spared id disk disk
  | begun {disk : Disk} {tree : Tree} {path : Path} (found : documentPath id = .ok path)
      (spares : Spares [(temporaryPath path).location] path.parent.location.length disk.tree tree) :
      Spared id (some disk) (some { disk with tree })

/-- Outcomes of an operation on the disk of a store: it fails, or has done what was asked for. -/
inductive Disks (depot : Depot) (id : ObjectId) (asked : Option Disk → Option Disk → Prop) :
    Outcome Depot Unit → Prop
  | refused {fault : Fault} {disk : Option Disk} (spared : Spared id depot.disk disk) :
      Disks depot id asked ⟨.error fault, { depot with disk }, []⟩
  | done {disk : Option Disk} (does : asked depot.disk disk) : Disks depot id asked ⟨.ok (), { depot with disk }, []⟩

theorem bare_takeSteps {disk : Disk} {steps : List FileStep} {tree : Tree} {result : Except FileFault Unit}
    (ran : disk.tree.steps steps = (result, tree)) (depot : Depot) :
    (takeSteps disk steps).bare depot =
      ⟨result.mapError .file, { depot with disk := some { disk with tree } }, []⟩ := by
  unfold takeSteps
  cases result <;> simp only [ran] <;> rfl

theorem writeDocument_disks (image : Image) (depot : Depot) :
    Disks depot image.id (Wrote image) ((writeDocument image).bare depot) := by
  obtain ⟨objects, audience, held⟩ := depot
  unfold writeDocument
  rw [Attempt.bare_bind, Attempt.bare_read, Attempt.read_then]
  cases held with
  | none => exact .done .memory
  | some disk =>
    rw [Attempt.bare_bind, Attempt.bare_of]
    cases found : documentPath image.id with
    | error fault => exact .refused .same
    | ok path =>
      rw [Attempt.of_then rfl, Attempt.bare_bind]
      rcases ran : disk.tree.steps (writeSteps path (disk.format.write image.document)) with ⟨result, tree⟩
      have taken := bare_takeSteps ran ⟨objects, audience, some disk⟩
      rcases writeSteps_cases ran with ⟨rfl, there, spares⟩ | ⟨fault, rfl, spares⟩
      · rw [Attempt.bind_of_ok taken, Attempt.bare_log]
        exact .done (.disk found there spares)
      · rw [Attempt.bind_of_error taken]
        exact .refused (.begun found spares)

theorem removeDocument_disks (id : ObjectId) (depot : Depot) :
    Disks depot id (Took id) ((removeDocument id).bare depot) := by
  obtain ⟨objects, audience, held⟩ := depot
  unfold removeDocument
  rw [Attempt.bare_bind, Attempt.bare_read, Attempt.read_then]
  cases held with
  | none => exact .done .memory
  | some disk =>
    rw [Attempt.bare_bind, Attempt.bare_of]
    cases found : documentPath id with
    | error fault => exact .refused .same
    | ok path =>
      rw [Attempt.of_then rfl]
      simp only [Attempt.bare_bind]
      rcases ran : disk.tree.steps (removeSteps disk.tree path) with ⟨result, tree⟩
      have taken := bare_takeSteps ran ⟨objects, audience, some disk⟩
      rcases removeSteps_cases ran with ⟨rfl, gone, spares⟩ | ⟨fault, rfl, rfl⟩
      · rw [Attempt.bind_of_ok taken]
        cases (removeSteps disk.tree path).isEmpty <;> exact .done (.disk found gone spares)
      · rw [Attempt.bind_of_error taken]
        exact .refused .same

/-- What handing an image to a store comes to, in the catalog and on the disk. -/
inductive Files (depot : Depot) (image : Image) : Except Fault Unit → Depot → Prop
  | refused {fault : Fault} {after : Depot} (kept : after.objects = depot.objects)
      (spared : Spared image.id depot.disk after.disk) : Files depot image (.error fault) after
  | removed {key : ObjectKey} {after : Depot} (known : image.id.key? = some key)
      (held : (depot.objects.get? key).isSome = true) (leaving : leaves image = true)
      (objects : after.objects = depot.objects.erase key) (took : Took image.id depot.disk after.disk) :
      Files depot image (.ok ()) after
  | written {key : ObjectKey} {after : Depot} (known : image.id.key? = some key)
      (held : (depot.objects.get? key).isSome = true) (staying : leaves image = false)
      (objects : after.objects = depot.objects.put key image) (wrote : Wrote image depot.disk after.disk) :
      Files depot image (.ok ()) after

/-- The disk after an image was taken: its document is gone or in its place. -/
def Refiled (image : Image) (before after : Option Disk) : Prop :=
  if leaves image then Took image.id before after else Wrote image before after

theorem refile_disks (image : Image) (depot : Depot) :
    Disks depot image.id (Refiled image) ((refile image).bare depot) := by
  cases leaving : leaves image with
  | true =>
    have asked : Refiled image = Took image.id := by
      funext before after
      simp only [Refiled, leaving, ↓reduceIte]
    rw [refile_of_leaving leaving, asked]
    exact removeDocument_disks image.id depot
  | false =>
    have asked : Refiled image = Wrote image := by
      funext before after
      simp only [Refiled, leaving, Bool.false_eq_true, ↓reduceIte]
    rw [refile_of_staying leaving, asked]
    exact writeDocument_disks image depot

theorem persist_files (image : Image) (depot : Depot) :
    Files depot image (persist image depot).result (persist image depot).state := by
  have disks := refile_disks image depot
  have hands := persist_hands image depot
  rw [← Attempt.bare_result, ← Attempt.bare_state]
  generalize (persist image).bare depot = outcome at hands
  cases hands with
  | unknown unknown => exact .refused rfl .same
  | absent known absent => exact .refused rfl .same
  | refused known held refiled =>
    rw [refiled] at disks
    cases disks with
    | refused spared => exact .refused rfl spared
  | taken known held refiled =>
    rw [refiled] at disks
    cases disks with
    | done refiles =>
      cases leaving : leaves image with
      | true =>
        simp only [Refiled, leaving] at refiles
        exact .removed known held leaving (turn_of_leaving leaving _ _) refiles
      | false =>
        simp only [Refiled, leaving] at refiles
        exact .written known held leaving (turn_of_staying leaving _ _) refiles

/-- What adding an image with its document comes to, in the catalog and on the disk. -/
inductive Lays (depot : Depot) (image : Image) : Except Fault Unit → Depot → Prop
  | refused {fault : Fault} {after : Depot} (kept : after.objects = depot.objects)
      (spared : Spared image.id depot.disk after.disk) : Lays depot image (.error fault) after
  | laid {key : ObjectKey} {after : Depot} (known : image.id.key? = some key)
      (objects : after.objects = depot.objects.put key image) (wrote : Wrote image depot.disk after.disk) :
      Lays depot image (.ok ()) after

theorem addWritten_lays {image : Image} {key : ObjectKey} (known : image.id.key? = some key) (depot : Depot) :
    Lays depot image (addWritten image depot).result (addWritten image depot).state := by
  rw [← Attempt.bare_result, ← Attempt.bare_state]
  unfold addWritten
  rw [Attempt.bare_bind, Attempt.bare_read, Attempt.read_then]
  cases depot.disk.isNone with
  | true => exact .refused rfl .same
  | false =>
    simp only [Bool.false_eq_true, ↓reduceIte, Attempt.bare_bind]
    have disks := writeDocument_disks image depot
    generalize ran : (writeDocument image).bare depot = outcome at disks
    cases disks with
    | refused spared =>
      rw [Attempt.bind_of_error ran]
      exact .refused rfl spared
    | done wrote =>
      rw [Attempt.bind_of_ok ran, bare_addObject_of known]
      exact .laid known rfl wrote

section

variable {depot after : Depot} {image : Image} {result : Except Fault Unit} {key : ObjectKey}

/-- Other objects keep their places and stay as they are. -/
theorem Files.others (files : Files depot image result after) (own : image.id.key? = some key) :
    after.objects.filter (·.1 ≠ key) = depot.objects.filter (·.1 ≠ key) := by
  cases files with
  | refused kept spared => rw [kept]
  | removed known held leaving objects took =>
    obtain rfl := Option.some.inj (own.symm.trans known)
    rw [objects, Catalog.erase, List.filter_filter]
    simp
  | written known held staying objects wrote =>
    obtain rfl := Option.some.inj (own.symm.trans known)
    rw [objects, Catalog.filter_put]

/-- An object that is still there stands where it stood, as it was or as it was handed in. -/
theorem Files.last (files : Files depot image result after) (own : image.id.key? = some key) {last : Image}
    (stored : after.objects.get? key = some last) :
    after.objects.map (·.1) = depot.objects.map (·.1) ∧ (last = image ∨ depot.objects.get? key = some last) := by
  cases files with
  | refused kept spared =>
    rw [kept] at stored ⊢
    exact ⟨rfl, .inr stored⟩
  | removed known held leaving objects took =>
    obtain rfl := Option.some.inj (own.symm.trans known)
    rw [objects, Catalog.get?_erase_self] at stored
    cases stored
  | written known held staying objects wrote =>
    obtain rfl := Option.some.inj (own.symm.trans known)
    rw [objects, Catalog.get?_put_self] at stored
    rw [objects, Catalog.keys_put held]
    exact ⟨rfl, .inl (Option.some.inj stored).symm⟩

end

/-- The text of the file at a location of the disk, if there is one. -/
def file? (disk : Option Disk) (location : Location) : Option String :=
  disk.bind (·.tree.file? location)

theorem Spared.file?_of_ne {id : ObjectId} {before after : Option Disk} (spared : Spared id before after)
    {location : Location} (elsewhere : ∀ path, documentPath id = .ok path → location ≠ (temporaryPath path).location) :
    Depot.file? after location = Depot.file? before location := by
  cases spared with
  | same => rfl
  | begun found spares =>
    exact spares.file? fun temporary => elsewhere _ found (List.mem_singleton.mp temporary)

theorem Spared.file? {id : ObjectId} {before after : Option Disk} (spared : Spared id before after)
    {location : Location} (document : isDocument location = true) :
    Depot.file? after location = Depot.file? before location := by
  refine spared.file?_of_ne fun path found temporary => ?_
  rw [temporary, not_isDocument_temporary found] at document
  cases document

/-- What is refused changes no object and no document. -/
theorem Files.refuses {depot after : Depot} {image : Image} {result : Except Fault Unit}
    (files : Files depot image result after) {fault : Fault} (failed : result = .error fault) :
    after.objects = depot.objects ∧
      ∀ location, isDocument location = true → file? after.disk location = file? depot.disk location := by
  cases files with
  | refused kept spared => exact ⟨kept, fun location document => spared.file? document⟩
  | removed | written => cases failed

end ImageOperator.Depot
