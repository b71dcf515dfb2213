import ImageOperator.Proofs.Disk.Room
import ImageOperator.Proofs.Store.Mirror
import ImageOperator.Proofs.Store.Refused

set_option autoImplicit false

/-!
Stores with documents work as stores in memory do, as long as there is room for the documents: nothing that is done on
the disk fails, and it does not show elsewhere.
-/

namespace ImageOperator

namespace Depot

open Attempt (Alike)

/-- A store on a disk with room for the documents of its objects. -/
structure Roomy (depot : Depot) : Prop where
  disk : ∃ disk, depot.disk = some disk ∧ disk.tree.Layered
  keys : ∀ entry ∈ depot.objects, ∃ space name, entry.1 = keyAt space name ∧ Fits space name

variable {α : Type}

/-- What comes to the same on a store with documents and, as the second, on the store without them. -/
def Agrees (first second : Attempt Depot α) : Prop :=
  ∀ depot, depot.Roomy → Alike unfiled Roomy (first depot) (second depot.unfiled)

/-- An object whose namespace and name make a place with room. -/
def FitsIn (id : ObjectId) (space name : String) : Prop :=
  id = ⟨Image.kind, .text space, .text name⟩ ∧ Fits space name

section

variable {depot : Depot} {image : Image} {space name : String}

theorem writeDocument_alike (roomy : depot.Roomy) (fits : FitsIn image.id space name) :
    Alike unfiled Roomy (writeDocument image depot) (writeDocument image depot.unfiled) := by
  obtain ⟨⟨disk, filed, layered⟩, keys⟩ := roomy
  obtain ⟨id, fits⟩ := fits
  obtain ⟨after, done, room⟩ := fits.writeSteps layered (disk.format.write image.document)
  have taken : takeSteps disk (writeSteps (pathAt space name) (disk.format.write image.document)) depot =
      ⟨.ok (), { depot with disk := some { disk with tree := after } }, []⟩ := by
    simp only [takeSteps, done]
    rfl
  have written : writeDocument image depot = ⟨.ok (), { depot with disk := some { disk with tree := after } },
      [.log .documents .debug ("Wrote " ++ image.id.text ++ " to " ++ (pathAt space name).text)]⟩ := by
    unfold writeDocument
    rw [Attempt.read_then, filed]
    dsimp only
    rw [Attempt.of_then (id ▸ fits.path), Attempt.bind_of_ok taken]
    rfl
  rw [written]
  exact ⟨rfl, rfl, rfl, ⟨_, rfl, room⟩, keys⟩

theorem removeDocument_alike (roomy : depot.Roomy) (fits : FitsIn image.id space name) :
    Alike unfiled Roomy (removeDocument image.id depot) (removeDocument image.id depot.unfiled) := by
  obtain ⟨⟨disk, filed, layered⟩, keys⟩ := roomy
  obtain ⟨id, fits⟩ := fits
  obtain ⟨after, done, room⟩ := fits.removeSteps layered
  have taken : takeSteps disk (removeSteps disk.tree (pathAt space name)) depot =
      ⟨.ok (), { depot with disk := some { disk with tree := after } }, []⟩ := by
    simp only [takeSteps, done]
    rfl
  have removed : removeDocument image.id depot = ((takeSteps disk (removeSteps disk.tree (pathAt space name))) >>=
      fun _ => if !(removeSteps disk.tree (pathAt space name)).isEmpty then
        Attempt.log .documents .debug ("Removed " ++ (pathAt space name).text) else pure ()) depot := by
    unfold removeDocument
    rw [Attempt.read_then, filed]
    dsimp only
    rw [Attempt.of_then (id ▸ fits.path)]
  rw [removed, Attempt.bind_of_ok taken]
  cases (removeSteps disk.tree (pathAt space name)).isEmpty
  · exact ⟨rfl, rfl, rfl, ⟨_, rfl, room⟩, keys⟩
  · exact ⟨rfl, rfl, rfl, ⟨_, rfl, room⟩, keys⟩

theorem Roomy.fitsIn (roomy : depot.Roomy) {key : ObjectKey} (known : image.id.key? = some key) {stored : Image}
    (held : depot.objects.get? key = some stored) : ∃ space name, FitsIn image.id space name := by
  obtain ⟨space, name, own, fits⟩ := roomy.keys _ (Catalog.mem_of_get? held)
  exact ⟨space, name, eq_of_key (known.trans (congrArg some own)), fits⟩

theorem roomy_erase (roomy : depot.Roomy) (key : ObjectKey) (audience : Audience) :
    Roomy ⟨depot.objects.erase key, audience, depot.disk⟩ :=
  ⟨roomy.disk, fun entry held => roomy.keys entry (Catalog.mem_of_mem_erase held)⟩

theorem roomy_put (roomy : depot.Roomy) {key : ObjectKey} (fits : ∃ space name, key = keyAt space name ∧ Fits space name)
    (image : Image) (audience : Audience) : Roomy ⟨depot.objects.put key image, audience, depot.disk⟩ := by
  refine ⟨roomy.disk, fun entry held => ?_⟩
  rcases Catalog.eq_or_mem_of_mem_put held with rfl | old
  · exact fits
  · exact roomy.keys entry old

theorem agrees_addObject (fits : FitsIn image.id space name) : Agrees (addObject image) (addObject image) := by
  intro depot roomy
  have known : image.id.key? = some (keyAt space name) := by
    rw [fits.1]
    rfl
  unfold addObject
  rw [Attempt.of_then (keyOf_of known), Attempt.read_then, Attempt.read_then]
  exact ⟨rfl, rfl, rfl, roomy_put roomy ⟨space, name, rfl, fits.2⟩ _ _⟩

/-- Adding an image with its document comes to adding it. -/
theorem agrees_addWritten (fits : FitsIn image.id space name) : Agrees (addWritten image) (addObject image) := by
  intro depot roomy
  have filed : depot.disk.isNone = false := by
    obtain ⟨⟨disk, filed, -⟩, -⟩ := roomy
    rw [filed]
    rfl
  have written : addWritten image depot = (writeDocument image >>= fun _ => addObject image) depot := by
    unfold addWritten
    simp only [Attempt.read_then, filed, Bool.false_eq_true, ↓reduceIte]
  have added : addObject image depot.unfiled = (writeDocument image >>= fun _ => addObject image) depot.unfiled := rfl
  rw [written, added]
  exact (writeDocument_alike roomy fits).bind fun _ _ still => agrees_addObject fits _ still

theorem agrees_persist (image : Image) : Agrees (persist image) (persist image) := by
  intro depot roomy
  unfold persist
  refine Alike.noted ?_ _
  cases known : image.id.key? with
  | none =>
    rw [keyOf_of_none known]
    exact ⟨rfl, rfl, rfl, roomy⟩
  | some key =>
    rw [Attempt.of_then (keyOf_of known), Attempt.read_then, Attempt.read_then]
    cases held : depot.objects.get? key with
    | none =>
      have absent : depot.unfiled.objects.get? key = none := held
      rw [absent]
      exact ⟨rfl, rfl, rfl, roomy⟩
    | some stored =>
      have present : depot.unfiled.objects.get? key = some stored := held
      obtain ⟨space, name, fits⟩ := roomy.fitsIn known held
      simp only [present, Option.isNone_some, Bool.false_eq_true, ↓reduceIte]
      split
      · refine (removeDocument_alike roomy fits).bind fun _ _ still => ?_
        exact ⟨rfl, rfl, rfl, roomy_erase still key _⟩
      · refine (writeDocument_alike roomy fits).bind fun _ _ still => ?_
        exact ⟨rfl, rfl, rfl, roomy_put still (roomy.keys _ (Catalog.mem_of_get? held)) _ _⟩

theorem agrees_requestDeletion (id : ObjectId) (now : String) :
    Agrees (requestDeletion id now) (requestDeletion id now) := by
  intro depot roomy
  unfold requestDeletion
  cases known : id.key? with
  | none =>
    rw [keyOf_of_none known]
    exact ⟨rfl, rfl, rfl, roomy⟩
  | some key =>
    rw [Attempt.of_then (keyOf_of known), Attempt.read_then, Attempt.read_then]
    have same : depot.unfiled.objects.get? key = depot.objects.get? key := rfl
    rw [same]
    cases depot.objects.get? key with
    | none => exact ⟨rfl, rfl, rfl, roomy⟩
    | some image => exact Alike.noted (agrees_persist (image.marked now) depot roomy) _

theorem agrees_getObject (id : ObjectId) : Agrees (getObject id) (getObject id) := by
  intro depot roomy
  unfold getObject
  cases known : id.key? with
  | none =>
    rw [keyOf_of_none known]
    exact ⟨rfl, rfl, rfl, roomy⟩
  | some key =>
    rw [Attempt.of_then (keyOf_of known)]
    exact ⟨rfl, rfl, rfl, roomy⟩

/-- Listeners may come and go. -/
theorem agrees_update {change : Depot → Depot} (objects : ∀ depot, (change depot).objects = depot.objects)
    (disk : ∀ depot, (change depot).disk = depot.disk) (same : ∀ depot, change depot.unfiled = (change depot).unfiled) :
    Agrees (Attempt.update change) (Attempt.update change) := by
  intro depot roomy
  refine ⟨rfl, same depot, rfl, ?_, ?_⟩
  · exact (disk depot).symm ▸ roomy.disk
  · exact (objects depot).symm ▸ roomy.keys

end

section

variable {depot : Depot} {disk : Disk} {image : Image} {path : Path} {fault : FileFault}

theorem writeDocument_of_refused (filed : depot.disk = some disk) (lies : documentPath image.id = .ok path)
    (refused : (disk.tree.steps (writeSteps path (disk.format.write image.document))).1 = .error fault) :
    (writeDocument image depot).result = .error (.file fault) := by
  have taken : (takeSteps disk (writeSteps path (disk.format.write image.document)) depot).result =
      .error (.file fault) := by
    unfold takeSteps
    rcases ran : disk.tree.steps (writeSteps path (disk.format.write image.document)) with ⟨result, tree⟩
    rw [ran] at refused
    obtain rfl : result = .error fault := refused
    rfl
  unfold writeDocument
  rw [Attempt.read_then, filed]
  dsimp only
  rw [Attempt.of_then lies]
  exact Attempt.result_of_error taken _

/-- An image is not added where its document is refused. -/
theorem addWritten_of_refused (filed : depot.disk = some disk) (lies : documentPath image.id = .ok path)
    (refused : (disk.tree.steps (writeSteps path (disk.format.write image.document))).1 = .error fault) :
    (addWritten image depot).result = .error (.file fault) := by
  have present : depot.disk.isNone = false := by
    rw [filed]
    rfl
  unfold addWritten
  rw [Attempt.read_then]
  simp only [present, Bool.false_eq_true, ↓reduceIte]
  exact Attempt.result_of_error (writeDocument_of_refused filed lies refused) _

end

end Depot

end ImageOperator
