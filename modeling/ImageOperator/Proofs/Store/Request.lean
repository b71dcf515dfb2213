import ImageOperator.Proofs.Image.Document
import ImageOperator.Proofs.Store.Documents
import ImageOperator.Proofs.Store.Load

set_option autoImplicit false

/-!
Requests: the operations that change a store and its directory, each about one image at most.
-/

namespace ImageOperator

namespace Image

/-- Whether the namespace is one that documents and records give: a text, or else something that counts as true. -/
def isPlaced (image : Image) : Bool :=
  image.space.isText || image.space.isTrue

theorem isPlaced_of_document {document : Value} {image : Image} (read : ofDocument document = .ok image) :
    image.isPlaced = true := by
  have whole := isWhole_of_document read
  simp only [isWhole, Bool.and_eq_true] at whole
  simp only [isPlaced, whole.1.1.1.1.2, Bool.or_true]

theorem isPlaced_of_fields {fields : Value} {image : Image} (read : ofFields fields = .ok image) :
    image.isPlaced = true := by
  obtain ⟨entries, -, read⟩ := ok_of_bind read
  obtain ⟨name, -, read⟩ := ok_of_bind read
  obtain ⟨space, -, read⟩ := ok_of_bind read
  dsimp only at read
  split at read
  · obtain ⟨spec, -, read⟩ := ok_of_bind read
    split at read
    all_goals
      obtain ⟨status, -, read⟩ := ok_of_bind read
      split at read
      all_goals
        obtain ⟨finalizers, -, read⟩ := ok_of_bind read
        cases read
        rfl
  · obtain ⟨_, ⟨⟩, _⟩ := ok_of_bind read

end Image

namespace Depot

/-- An image that has a place for its document has a key. -/
theorem key?_of_documentPath {image : Image} (placed : image.isPlaced = true) {path : Path}
    (found : documentPath image.id = .ok path) : ∃ key, image.id.key? = some key := by
  obtain ⟨name, space, spec, status, finalizers, deletion⟩ := image
  simp only [Image.isPlaced, Bool.or_eq_true] at placed
  simp only [documentPath, Image.id] at found
  split at found
  · split at found
    · exact ⟨_, rfl⟩
    · rename_i other
      split at found
      · cases found
      · rename_i empty
        rcases placed with text | full
        · cases space with
          | text space => exact absurd rfl (other space)
          | null | bool | int | float | bytes | date | timestamp | sequence | tuple | mapping | set => cases text
        · exact absurd full empty
  · cases found

/-- The operations that change a store. -/
inductive Request
  | add (image : Image)
  | persist (image : Image)
  | delete (id : ObjectId) (now : String)

namespace Request

def run : Request → Attempt Depot Unit
  | .add image => addWritten image
  | .persist image => Depot.persist image
  | .delete id now => requestDeletion id now

/-- The image that a request is about: one to be deleted is marked first. -/
def image? (depot : Depot) : Request → Option Image
  | .add image | .persist image => some image
  | .delete id now => (id.key?.bind depot.objects.get?).map (·.marked now)

/-- Whether a request has the document of its image taken away, and not written. -/
def takesAway (image : Image) : Request → Bool
  | .add _ => false
  | .persist _ | .delete _ _ => leaves image

/-- Whether the store has the object that a request needs. -/
def finds (depot : Depot) (image : Image) : Request → Bool
  | .add _ => true
  | .persist _ | .delete _ _ => (image.id.key?.bind depot.objects.get?).isSome

/-- What is to stand under the identifier of the image once a request is done. -/
def outcome (request : Request) (image : Image) : Option Image :=
  if request.takesAway image then none else some image

end Request

/-- The steps by which the document of an image comes into its place, or goes. -/
def documentSteps (disk : Disk) (image : Image) (goes : Bool) : List FileStep :=
  match documentPath image.id with
  | .ok path => if goes then removeSteps disk.tree path else writeSteps path (disk.format.write image.document)
  | .error _ => []

/-- The steps that a request takes on the disk of a store; that it takes no others is `Request.run_disk`. -/
def Request.steps (request : Request) (depot : Depot) : List FileStep :=
  match depot.disk, request.image? depot with
  | some disk, some image =>
    if request.finds depot image then documentSteps disk image (request.takesAway image) else []
  | _, _ => []

/-! ### The steps of requests -/

section

variable {depot : Depot} {disk : Disk}

theorem takeSteps_disk (disk : Disk) (steps : List FileStep) (depot : Depot) :
    (takeSteps disk steps depot).state.disk = some { disk with tree := (disk.tree.steps steps).2 } := by
  rcases ran : disk.tree.steps steps with ⟨result, tree⟩
  rw [← Attempt.bare_state, bare_takeSteps ran]

/-- What follows the steps leaves the disk as the steps have made it. -/
theorem takeSteps_then_disk {next : Unit → Attempt Depot Unit} (rests : ∀ done, (next done).Preserves Depot.disk)
    (disk : Disk) (steps : List FileStep) (depot : Depot) :
    ((takeSteps disk steps >>= next) depot).state.disk = some { disk with tree := (disk.tree.steps steps).2 } := by
  have taken := takeSteps_disk disk steps depot
  rcases ran : takeSteps disk steps depot with ⟨fault | done, after, notes⟩
  all_goals rw [ran] at taken
  · rw [Attempt.bind_of_error ran]
    exact taken
  · rw [Attempt.bind_of_ok ran]
    exact (rests done after).trans taken

theorem writeDocument_disk (image : Image) (kept : depot.disk = some disk) :
    (writeDocument image depot).state.disk =
      some { disk with tree := (disk.tree.steps (documentSteps disk image false)).2 } := by
  unfold writeDocument documentSteps
  rw [Attempt.read_then, kept]
  dsimp only
  cases found : documentPath image.id with
  | error fault => exact kept
  | ok path =>
    rw [Attempt.of_then rfl]
    exact takeSteps_then_disk (fun _ _ => rfl) disk _ depot

theorem removeDocument_disk (image : Image) (kept : depot.disk = some disk) :
    (removeDocument image.id depot).state.disk =
      some { disk with tree := (disk.tree.steps (documentSteps disk image true)).2 } := by
  unfold removeDocument documentSteps
  rw [Attempt.read_then, kept]
  dsimp only
  cases found : documentPath image.id with
  | error fault => exact kept
  | ok path =>
    rw [Attempt.of_then rfl]
    refine takeSteps_then_disk (fun _ => ?_) disk _ depot
    split <;> exact fun _ => rfl

theorem refile_disk (image : Image) (kept : depot.disk = some disk) :
    (refile image depot).state.disk =
      some { disk with tree := (disk.tree.steps (documentSteps disk image (leaves image))).2 } := by
  cases leaving : leaves image with
  | true => exact refile_of_leaving leaving ▸ removeDocument_disk image kept
  | false => exact refile_of_staying leaving ▸ writeDocument_disk image kept

end

end Depot

end ImageOperator
