import ImageOperator.Proofs.Image
import ImageOperator.Proofs.Image.Document
import ImageOperator.Proofs.Store.Documents
import ImageOperator.Proofs.Store.Load

set_option autoImplicit false

/-!
Stores whose disk is their mirror: for every object there is its document, and there is no other document. What is
handed to such a store changes both or neither.
-/

namespace ImageOperator

namespace Depot

open Image (Portable)
open ImageOperator.Tree (Spares)

/-- The key of the object of a namespace and name. -/
def keyAt (space name : String) : ObjectKey :=
  ⟨Image.kind, .text space, .text name⟩

theorem eq_of_key {id : ObjectId} {space name : String} (known : id.key? = some (keyAt space name)) :
    id = ⟨Image.kind, .text space, .text name⟩ := by
  obtain ⟨kind, spaceValue, nameValue⟩ := id
  unfold ObjectId.key? at known
  split at known
  · rename_i spaceKey nameKey placed named
    simp only [keyAt, Option.some.injEq, ObjectKey.mk.injEq] at known
    obtain ⟨rfl, rfl, rfl⟩ := known
    obtain rfl : spaceValue = .text space := Value.eq_text_of_key placed
    obtain rfl : nameValue = .text name := Value.eq_text_of_key named
    rfl
  · cases known

/-- An object with a document of its own: where it stands in the catalog and on the disk. -/
structure Lies (id : ObjectId) (space name : String) : Prop where
  id_eq : id = ⟨Image.kind, .text space, .text name⟩
  path : documentPath id = .ok ⟨false, [space, name ++ documentSuffix]⟩
  location : (⟨false, [space, name ++ documentSuffix]⟩ : Path).location = place space name

theorem Lies.known {id : ObjectId} {space name : String} (lies : Lies id space name) :
    id.key? = some (keyAt space name) := by
  rw [lies.id_eq]
  rfl

theorem lies_of_isSafe {space name : String} (safe : isSafe space name = true) :
    Lies ⟨Image.kind, .text space, .text name⟩ space name :=
  ⟨rfl, documentPath_of_isSafe safe _, location_of_document (own_of_isSafe safe) name⟩

theorem lies_of_portable {image : Image} (portable : image.Portable) : ∃ space name, Lies image.id space name := by
  obtain ⟨fileable, whole⟩ := portable
  obtain ⟨name, space, spec, status, finalizers, deletion⟩ := image
  simp only [Image.isFileable, Bool.and_eq_true] at fileable
  obtain ⟨name, rfl, slashless⟩ := Image.text_of_namesFile fileable.1.1.1
  obtain ⟨space, rfl, space_slashless, here, above⟩ := Image.text_of_namesFolder fileable.1.1.2
  simp only [Image.isWhole, Bool.and_eq_true] at whole
  have full : space ≠ "" := by simpa [Value.isTrue] using whole.1.1.1.1.2
  exact ⟨space, name, lies_of_isSafe (by simp [isSafe, slashless, space_slashless, full, here, above])⟩

/-- The objects and the documents of a disk are each other's mirror. -/
structure Mirrors (format : Format) (objects : Catalog) (tree : Tree) : Prop where
  own : ∀ key image, objects.get? key = some image → image.id.key? = some key ∧ image.Portable
  shown : ∀ space name, tree.node? (place space name) =
    (objects.get? (keyAt space name)).map fun image => .file (format.write image.document)

section

variable {format : Format} {objects : Catalog} {tree after : Tree} {image : Image} {space name : String}
  {places : List Location} {depth : Nat}

/-- Where nothing but folders above the documents was made. -/
theorem node?_of_spares (spares : Spares places depth tree after) (shallow : depth ≤ 2) {space name : String}
    (elsewhere : place space name ∉ places) : after.node? (place space name) = tree.node? (place space name) :=
  spares.node? elsewhere (Nat.lt_of_le_of_lt shallow (Nat.lt_succ_self 2))

theorem place_ne_temporary {id : ObjectId} {path : Path} (found : documentPath id = .ok path) (space name : String) :
    place space name ≠ (temporaryPath path).location := by
  intro same
  have document := isDocument_place space name
  rw [same, not_isDocument_temporary found] at document
  cases document

theorem parent_shallow (space name : String) :
    (⟨false, [space, name ++ documentSuffix]⟩ : Path).parent.location.length ≤ 2 := by
  simp only [Path.location, Path.parent, Path.enter, List.dropLast_cons_cons, List.dropLast_singleton, List.foldl_cons,
    List.foldl_nil, Bool.false_eq_true, ↓reduceIte]
  split <;> simp

/-- What was begun beside a document is none. -/
theorem Mirrors.spared {held : Option Disk} (mirrors : Mirrors format objects tree) (portable : image.Portable)
    (spared : Spared image.id (some ⟨tree, format⟩) held) :
    ∃ after, held = some ⟨after, format⟩ ∧ Mirrors format objects after := by
  cases spared with
  | same => exact ⟨tree, rfl, mirrors⟩
  | @begun _ after path found spares =>
    obtain ⟨space, name, lies⟩ := lies_of_portable portable
    obtain rfl := Except.ok.inj (lies.path.symm.trans found)
    refine ⟨after, rfl, mirrors.own, fun other otherName => ?_⟩
    rw [node?_of_spares spares (parent_shallow space name), mirrors.shown]
    exact fun held => place_ne_temporary found _ _ (List.mem_singleton.mp held)

/-- One object and its document change alike, the others stay. -/
theorem Mirrors.turned {turned : Catalog} (last : Option Image) (mirrors : Mirrors format objects tree)
    (sound : ∀ image, last = some image → image.id.key? = some (keyAt space name) ∧ image.Portable)
    (held : turned.get? (keyAt space name) = last)
    (others : ∀ key, key ≠ keyAt space name → turned.get? key = objects.get? key)
    (there : after.node? (place space name) = last.map fun image => .file (format.write image.document))
    (elsewhere : ∀ folder file, place folder file ≠ place space name →
      after.node? (place folder file) = tree.node? (place folder file)) : Mirrors format turned after := by
  refine ⟨fun key image stored => ?_, fun folder file => ?_⟩
  · by_cases same : key = keyAt space name
    · subst same
      exact sound image (held.symm.trans stored)
    · exact mirrors.own key image (others key same ▸ stored)
  · by_cases same : keyAt folder file = keyAt space name
    · obtain ⟨rfl, rfl⟩ : folder = space ∧ file = name := by simpa [keyAt] using same
      rw [there, held]
    · rw [others _ same, ← mirrors.shown]
      refine elsewhere folder file fun placed => ?_
      obtain ⟨rfl, rfl⟩ := place_inj placed
      exact same rfl

/-- An object takes its place in the catalog as its document takes its place on the disk. -/
theorem Mirrors.wrote {held : Option Disk} (mirrors : Mirrors format objects tree) (portable : image.Portable)
    {key : ObjectKey} (known : image.id.key? = some key) (wrote : Wrote image (some ⟨tree, format⟩) held) :
    ∃ after, held = some ⟨after, format⟩ ∧ Mirrors format (objects.put key image) after := by
  obtain ⟨space, name, lies⟩ := lies_of_portable portable
  obtain rfl := Option.some.inj (known.symm.trans lies.known)
  cases wrote with
  | @disk _ after path found there spares =>
    obtain rfl := Except.ok.inj (lies.path.symm.trans found)
    rw [lies.location] at there spares
    refine ⟨after, rfl, mirrors.turned (some image) ?_ (Catalog.get?_put_self objects _ image)
      (fun key other => Catalog.get?_put_of_ne objects image other) there fun folder file other => ?_⟩
    · rintro _ ⟨⟩
      exact ⟨known, portable⟩
    · refine node?_of_spares spares (parent_shallow space name) fun held => ?_
      rcases List.mem_cons.mp held with temporary | own
      · exact place_ne_temporary found _ _ temporary
      · exact other (List.mem_singleton.mp own)

/-- An object goes from the catalog as its document goes from the disk. -/
theorem Mirrors.took {held : Option Disk} (mirrors : Mirrors format objects tree) (portable : image.Portable)
    {key : ObjectKey} (known : image.id.key? = some key) (took : Took image.id (some ⟨tree, format⟩) held) :
    ∃ after, held = some ⟨after, format⟩ ∧ Mirrors format (objects.erase key) after := by
  obtain ⟨space, name, lies⟩ := lies_of_portable portable
  obtain rfl := Option.some.inj (known.symm.trans lies.known)
  cases took with
  | @disk _ after path found gone spares =>
    obtain rfl := Except.ok.inj (lies.path.symm.trans found)
    rw [lies.location] at gone spares
    refine ⟨after, rfl, mirrors.turned none nofun (Catalog.get?_erase_self objects _)
      (fun key other => Catalog.get?_erase_of_ne objects other) gone fun folder file other => ?_⟩
    exact node?_of_spares spares (Nat.zero_le 2) fun held => other (List.mem_singleton.mp held)

/-- The documents are those of the stored objects. -/
theorem Mirrors.mem_documentPaths (mirrors : Mirrors format objects tree) {path : Path} :
    path ∈ documentPaths tree ↔ ∃ key image, objects.get? key = some image ∧ documentPath image.id = .ok path := by
  rw [Depot.mem_documentPaths]
  constructor
  · rintro ⟨space, name, rfl, there⟩
    rw [Tree.exists?, mirrors.shown, Option.isSome_map, Option.isSome_iff_exists] at there
    obtain ⟨image, stored⟩ := there
    obtain ⟨known, portable⟩ := mirrors.own _ _ stored
    obtain ⟨own, ownName, lies⟩ := lies_of_portable portable
    obtain ⟨rfl, rfl⟩ : space = own ∧ name = ownName := by simpa [lies.known, keyAt, eq_comm] using known
    exact ⟨_, image, stored, lies.path⟩
  · rintro ⟨key, image, stored, found⟩
    obtain ⟨known, portable⟩ := mirrors.own _ _ stored
    obtain ⟨space, name, lies⟩ := lies_of_portable portable
    obtain rfl := Option.some.inj (known.symm.trans lies.known)
    refine ⟨space, name, (Except.ok.inj (lies.path.symm.trans found)).symm, ?_⟩
    rw [Tree.exists?, mirrors.shown, stored]
    rfl

theorem Mirrors.readDocument (mirrors : Mirrors format objects tree) {key : ObjectKey}
    (stored : objects.get? key = some image) (restores : format.Restores image.document) {path : Path}
    (found : documentPath image.id = .ok path) : readDocument ⟨tree, format⟩ path = .ok image := by
  obtain ⟨known, portable⟩ := mirrors.own _ _ stored
  obtain ⟨space, name, lies⟩ := lies_of_portable portable
  obtain rfl := Option.some.inj (known.symm.trans lies.known)
  obtain rfl := Except.ok.inj (lies.path.symm.trans found)
  have text : tree.read (place space name) = .ok (format.write image.document) := by
    rw [Tree.read, mirrors.shown, stored]
    rfl
  have read : format.read (format.write image.document) = .ok image.document := restores
  rw [Depot.readDocument, lies.location, text]
  dsimp only
  rw [read]
  exact portable.ofDocument_document

/-- A store that is loaded from the documents has the same objects. -/
theorem Mirrors.load (mirrors : Mirrors format objects tree)
    (restores : ∀ key image, objects.get? key = some image → format.Restores image.document) :
    ∃ loaded, load.bare (empty (some ⟨tree, format⟩)) = ⟨.ok (), loaded, []⟩ ∧
      ∀ key, loaded.objects.get? key = objects.get? key := by
  have readable (path : Path) (there : path ∈ documentPaths tree) :
      ∃ key image, objects.get? key = some image ∧ image.id.key? = some key ∧
        Depot.readDocument ⟨tree, format⟩ path = .ok image := by
    obtain ⟨key, image, stored, found⟩ := mirrors.mem_documentPaths.mp there
    exact ⟨key, image, stored, (mirrors.own _ _ stored).1, mirrors.readDocument stored (restores _ _ stored) found⟩
  obtain ⟨loaded, done, held⟩ := @load_of_readable ⟨tree, format⟩
    (fun path there => by
      obtain ⟨key, image, _, known, read⟩ := readable path there
      exact ⟨key, image, read, known⟩)
    (fun path there other other_there image twin read twin_read same => by
      obtain ⟨key, own, stored, known, own_read⟩ := readable path there
      obtain ⟨twinKey, ownTwin, twin_stored, twin_known, own_twin_read⟩ := readable other other_there
      obtain rfl := Except.ok.inj (read.symm.trans own_read)
      obtain rfl := Except.ok.inj (twin_read.symm.trans own_twin_read)
      obtain rfl := Option.some.inj (known.symm.trans (same.trans twin_known))
      exact Option.some.inj (twin_stored.symm.trans stored))
  refine ⟨loaded, done, fun key => Option.ext fun image => ?_⟩
  rw [held]
  constructor
  · rintro ⟨path, there, read, known⟩
    obtain ⟨own, other, stored, other_known, other_read⟩ := readable path there
    obtain rfl := Except.ok.inj (read.symm.trans other_read)
    obtain rfl := Option.some.inj (known.symm.trans other_known)
    exact stored
  · intro stored
    obtain ⟨known, portable⟩ := mirrors.own _ _ stored
    obtain ⟨space, name, lies⟩ := lies_of_portable portable
    exact ⟨_, mirrors.mem_documentPaths.mpr ⟨key, image, stored, lies.path⟩,
      mirrors.readDocument stored (restores _ _ stored) lies.path, known⟩

end

/-- A store whose disk is its mirror, in a format. -/
def Mirrored (format : Format) (depot : Depot) : Prop :=
  ∃ tree, depot.disk = some ⟨tree, format⟩ ∧ Mirrors format depot.objects tree

theorem Files.mirrored {format : Format} {depot after : Depot} {image : Image} {result : Except Fault Unit}
    (files : Files depot image result after) (mirrored : depot.Mirrored format) (portable : image.Portable) :
    after.Mirrored format := by
  obtain ⟨tree, disk, mirrors⟩ := mirrored
  cases files with
  | refused kept spared =>
    rw [Mirrored, kept]
    exact mirrors.spared portable (disk ▸ spared)
  | removed known held leaving objects took =>
    rw [Mirrored, objects]
    exact mirrors.took portable known (disk ▸ took)
  | written known held staying objects wrote =>
    rw [Mirrored, objects]
    exact mirrors.wrote portable known (disk ▸ wrote)

theorem Lays.mirrored {format : Format} {depot after : Depot} {image : Image} {result : Except Fault Unit}
    (lays : Lays depot image result after) (mirrored : depot.Mirrored format) (portable : image.Portable) :
    after.Mirrored format := by
  obtain ⟨tree, disk, mirrors⟩ := mirrored
  cases lays with
  | refused kept spared =>
    rw [Mirrored, kept]
    exact mirrors.spared portable (disk ▸ spared)
  | laid known objects wrote =>
    rw [Mirrored, objects]
    exact mirrors.wrote portable known (disk ▸ wrote)

section

variable {format : Format} {image : Image}

theorem mirrored_persist (portable : image.Portable) : (persist image).Maintains (Mirrored format) :=
  fun depot mirrored => (persist_files image depot).mirrored mirrored portable

theorem mirrored_addWritten (portable : image.Portable) : (addWritten image).Maintains (Mirrored format) := by
  intro depot mirrored
  obtain ⟨space, name, lies⟩ := lies_of_portable portable
  exact (addWritten_lays lies.known depot).mirrored mirrored portable

theorem mirrored_requestDeletion (id : ObjectId) {now : String} (said : now ≠ "") :
    (requestDeletion id now).Maintains (Mirrored format) := by
  intro depot mirrored
  have deletes := requestDeletion_deletes id now depot
  generalize requestDeletion id now depot = outcome at deletes
  cases deletes with
  | unknown | absent => exact mirrored
  | @handed key image record known stored =>
    obtain ⟨tree, disk, mirrors⟩ := mirrored
    have portable := (mirrors.own key image stored).2
    exact mirrored_persist (portable.marked said) depot ⟨tree, disk, mirrors⟩

end

end Depot

end ImageOperator
