import ImageOperator.Proofs.Store.Mirror
import ImageOperator.Proofs.Store.Request

set_option autoImplicit false

/-!
Tidy directories: those whose documents lie where the documents of their objects belong, as they do when only stores
have written them. A store that is opened anew on one has the objects of its documents, each of them once.
-/

namespace ImageOperator

namespace Depot

variable {path : Path}

/-- Every document can be read, and lies where the document of its object belongs. -/
def Tidy (disk : Disk) : Prop :=
  ∀ space name, disk.tree.exists? (place space name) = true →
    ∃ image path, imageAt? disk (place space name) = some image ∧ documentPath image.id = .ok path ∧
      path.location = place space name

theorem document_of_imageAt? {disk : Disk} {location : Location} {image : Image}
    (read : imageAt? disk location = some image) : ∃ document, Image.ofDocument document = .ok image := by
  unfold imageAt? at read
  split at read
  · cases read
  · split at read
    · rename_i entries _
      cases held : Image.ofDocument (.mapping entries) with
      | error fault =>
        rw [held] at read
        cases read
      | ok other =>
        rw [held] at read
        cases read
        exact ⟨_, held⟩
    · cases read

theorem isWhole_of_imageAt? {disk : Disk} {location : Location} {image : Image}
    (read : imageAt? disk location = some image) : image.isWhole = true := by
  obtain ⟨document, held⟩ := document_of_imageAt? read
  exact Image.isWhole_of_document held

/-- An object that is whole and has a document of its own goes by its namespace and name as texts. -/
theorem texts_of_whole {image : Image} (whole : image.isWhole = true) (found : documentPath image.id = .ok path) :
    ∃ space name, image.id = ⟨Image.kind, .text space, .text name⟩ := by
  simp only [Image.isWhole, Bool.and_eq_true] at whole
  have full : image.id.space.isTrue = true := whole.1.1.1.1.2
  obtain ⟨name, space, spec, status, finalizers, deletion⟩ := image
  simp only [documentPath, Image.id] at found full ⊢
  split at found
  · split at found
    · exact ⟨_, _, rfl⟩
    · rw [if_pos full] at found
      cases found
  · cases found

/-- Such objects have one document each. -/
theorem path_of_key {image twin : Image} (whole : image.isWhole = true) (twin_whole : twin.isWhole = true)
    {other : Path} (found : documentPath image.id = .ok path) (twin_found : documentPath twin.id = .ok other)
    (same : image.id.key? = twin.id.key?) : path = other := by
  obtain ⟨space, name, id⟩ := texts_of_whole whole found
  obtain ⟨twinSpace, twinName, twin_id⟩ := texts_of_whole twin_whole twin_found
  have keys : keyAt space name = keyAt twinSpace twinName := by
    rw [id, twin_id] at same
    exact Option.some.inj same
  obtain ⟨rfl, rfl⟩ : space = twinSpace ∧ name = twinName := by simpa [keyAt] using keys
  rw [twin_id, ← id, found] at twin_found
  exact Except.ok.inj twin_found

section

variable {disk : Disk}

theorem Tidy.lies (tidy : Tidy disk) {space name : String} {image : Image}
    (read : imageAt? disk (place space name) = some image) :
    ∃ path, documentPath image.id = .ok path ∧ path.location = place space name := by
  obtain ⟨other, path, other_read, found, there⟩ := tidy space name (exists?_of_imageAt? read)
  obtain rfl := Option.some.inj (read.symm.trans other_read)
  exact ⟨path, found, there⟩

theorem location_of_tidy (tidy : Tidy disk) {space name : String}
    (there : disk.tree.exists? (place space name) = true) :
    (⟨false, [space, name ++ documentSuffix]⟩ : Path).location = place space name := by
  obtain ⟨image, path, -, -, location⟩ := tidy space name there
  have down := path.not_mem_location
  refine location_of_document ?_ name
  rintro rfl
  rw [location] at down
  exact down (by simp [place])

/-- No object has two documents. -/
theorem Tidy.eq_of_key (tidy : Tidy disk) {space name otherSpace otherName : String} {image twin : Image}
    (read : imageAt? disk (place space name) = some image)
    (twin_read : imageAt? disk (place otherSpace otherName) = some twin) (same : image.id.key? = twin.id.key?) :
    space = otherSpace ∧ name = otherName := by
  obtain ⟨path, found, location⟩ := tidy.lies read
  obtain ⟨twinPath, twin_found, twin_location⟩ := tidy.lies twin_read
  obtain rfl := path_of_key (isWhole_of_imageAt? read) (isWhole_of_imageAt? twin_read) found twin_found same
  exact place_inj (location.symm.trans twin_location)

/-- A store that is opened anew on a tidy directory has the objects of the documents. -/
theorem Tidy.reload (tidy : Tidy disk) :
    (reload disk).result = .ok () ∧ ∀ key image, (Depot.reload disk).state.objects.get? key = some image ↔
      ∃ space name, imageAt? disk (place space name) = some image ∧ image.id.key? = some key := by
  have readable (space name : String) (there : disk.tree.exists? (place space name) = true) (image : Image) :
      readDocument disk ⟨false, [space, name ++ documentSuffix]⟩ = .ok image ↔
        imageAt? disk (place space name) = some image := by
    rw [readDocument_iff, location_of_tidy tidy there]
  obtain ⟨loaded, done, held⟩ := @load_of_readable disk
    (fun path there => by
      obtain ⟨space, name, rfl, exist⟩ := mem_documentPaths.mp there
      obtain ⟨image, own, read, found, -⟩ := tidy space name exist
      obtain ⟨document, from_document⟩ := document_of_imageAt? read
      obtain ⟨key, known⟩ := key?_of_documentPath (Image.isPlaced_of_document from_document) found
      exact ⟨key, image, (readable space name exist image).mpr read, known⟩)
    (fun path there other other_there image twin read twin_read same => by
      obtain ⟨space, name, rfl, exist⟩ := mem_documentPaths.mp there
      obtain ⟨otherSpace, otherName, rfl, other_exist⟩ := mem_documentPaths.mp other_there
      rw [readable space name exist] at read
      rw [readable otherSpace otherName other_exist] at twin_read
      obtain ⟨rfl, rfl⟩ := tidy.eq_of_key read twin_read same
      exact Option.some.inj (twin_read.symm.trans read))
  have state : (Depot.reload disk).state = loaded := congrArg Outcome.state done
  refine ⟨congrArg Outcome.result done, fun key image => ?_⟩
  rw [state, held]
  constructor
  · rintro ⟨path, there, read, known⟩
    obtain ⟨space, name, rfl, exist⟩ := mem_documentPaths.mp there
    exact ⟨space, name, (readable space name exist image).mp read, known⟩
  · rintro ⟨space, name, read, known⟩
    have exist := exists?_of_imageAt? read
    exact ⟨_, mem_documentPaths.mpr ⟨space, name, rfl, exist⟩, (readable space name exist image).mpr read, known⟩

end

end Depot

end ImageOperator
