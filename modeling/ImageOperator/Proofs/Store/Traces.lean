import ImageOperator.Proofs.Store.Mirror

set_option autoImplicit false

/-!
Traces of an object: the documents that bring it back into a store that is opened anew. Images that are handed to the
store leave traces of an object in its own place only, and none there once the object is taken out.
-/

namespace ImageOperator

namespace Depot

/-- There is a document at a location that is loaded as the object of a key. -/
def IsTrace (disk : Disk) (key : ObjectKey) (location : Location) : Prop :=
  ∃ image, imageAt? disk location = some image ∧ image.id.key? = some key

/-- The document of an image is loaded, if at all, as the object of a key. -/
def ReadsAs (format : Format) (image : Image) (key : ObjectKey) : Prop :=
  ∃ other, heldIn? format (format.write image.document) = some other ∧ other.id.key? = some key

variable {first : Disk} {tree after : Tree} {key : ObjectKey} {space name : String} {location spot : Location}

theorem IsTrace.of_file? (trace : IsTrace { first with tree := after } key location)
    (same : after.file? location = tree.file? location) : IsTrace { first with tree } key location := by
  obtain ⟨image, read, known⟩ := trace
  rw [imageAt?_eq] at read
  exact ⟨image, by rw [imageAt?_eq]; exact same ▸ read, known⟩

theorem not_isTrace_of_absent (absent : tree.file? location = none) : ¬ IsTrace { first with tree } key location := by
  rintro ⟨image, read, -⟩
  rw [imageAt?_eq] at read
  simp only [absent, Option.bind_none] at read
  cases read

theorem isTrace_of_written {image : Image} (there : tree.file? location = some (first.format.write image.document)) :
    IsTrace { first with tree } key location ↔ ReadsAs first.format image key := by
  simp only [IsTrace, ReadsAs, imageAt?_eq, there, Option.bind_some]

/-- Disks that have the same documents as a tree but for those at one location, if any. -/
def Retold (first : Disk) (tree : Tree) (spot : Option Location) (text : Option String) (disk : Option Disk) : Prop :=
  ∃ after, disk = some { first with tree := after } ∧ (∀ place, spot = some place → after.file? place = text) ∧
    ∀ location, isDocument location = true → spot ≠ some location → after.file? location = tree.file? location

section

variable {disk : Option Disk} {id : ObjectId} {image : Image}

theorem Spared.retold (spared : Spared id (some { first with tree }) disk) : Retold first tree none none disk := by
  have files {location : Location} (document : isDocument location = true) := spared.file? document
  cases spared with
  | same => exact ⟨tree, rfl, nofun, fun _ _ _ => rfl⟩
  | begun found spares => exact ⟨_, rfl, nofun, fun location document _ => files document⟩

theorem Took.retold (took : Took id (some { first with tree }) disk) :
    ∃ path, documentPath id = .ok path ∧ Retold first tree (some path.location) none disk := by
  cases took with
  | disk found gone spares =>
    refine ⟨_, found, _, rfl, ?_, fun location document elsewhere => ?_⟩
    · rintro _ ⟨⟩
      simp only [Tree.file?, gone]
    · refine spares.file? fun held => elsewhere ?_
      rw [List.mem_singleton.mp held]

theorem Wrote.retold (wrote : Wrote image (some { first with tree }) disk) :
    ∃ path, documentPath image.id = .ok path ∧
      Retold first tree (some path.location) (some (first.format.write image.document)) disk := by
  cases wrote with
  | disk found there spares =>
    refine ⟨_, found, _, rfl, ?_, fun location document elsewhere => ?_⟩
    · rintro _ ⟨⟩
      simp only [Tree.file?, there]
    · refine spares.file? fun held => ?_
      simp only [List.mem_cons, List.not_mem_nil, or_false] at held
      rcases held with rfl | rfl
      · rw [not_isDocument_temporary found] at document
        cases document
      · exact elsewhere rfl

end

/-- An object is covered: all there is of it on the disk are documents that were there at first, and the one in its
place, which is none of it once the store does not have the object. -/
structure Covered (first : Disk) (space name : String) (objects : Catalog) (tree : Tree) : Prop where
  elsewhere : ∀ location, isDocument location = true → IsTrace { first with tree } (keyAt space name) location →
    location = place space name ∨ tree.file? location = first.tree.file? location
  gone : objects.get? (keyAt space name) = none → ¬ IsTrace { first with tree } (keyAt space name) (place space name)

section

variable {objects others : Catalog} {disk : Option Disk} {text : Option String}

theorem Covered.refused (covered : Covered first space name objects tree)
    (retold : Retold first tree none none disk) :
    ∃ after, disk = some { first with tree := after } ∧ Covered first space name objects after := by
  obtain ⟨after, kept, -, files⟩ := retold
  refine ⟨after, kept, fun location document trace => ?_, fun absent trace => ?_⟩
  · have same := files location document nofun
    exact (covered.elsewhere location document (trace.of_file? same)).imp_right same.trans
  · exact covered.gone absent (trace.of_file? (files _ (isDocument_place space name) nofun))

/-- The document of some image changes, and the catalog with it. -/
theorem Covered.retold (covered : Covered first space name objects tree)
    (retold : Retold first tree (some spot) text disk)
    (own : ∀ after : Tree, after.file? spot = text → IsTrace { first with tree := after } (keyAt space name) spot →
      spot = place space name ∧ (others.get? (keyAt space name)).isSome = true)
    (gone : others.get? (keyAt space name) = none →
      spot = place space name ∨ objects.get? (keyAt space name) = none) :
    ∃ after, disk = some { first with tree := after } ∧ Covered first space name others after := by
  obtain ⟨after, kept, there, files⟩ := retold
  have turned := there spot rfl
  have same {location : Location} (document : isDocument location = true) (other : location ≠ spot) :=
    files location document fun same => other (Option.some.inj same).symm
  refine ⟨after, kept, fun location document trace => ?_, fun absent trace => ?_⟩
  · by_cases here : location = spot
    · subst here
      exact .inl (own after turned trace).1
    · exact (covered.elsewhere location document (trace.of_file? (same document here))).imp_right
        (same document here).trans
  · by_cases here : place space name = spot
    · subst here
      have stored := (own after turned trace).2
      rw [absent] at stored
      cases stored
    · have before := (gone absent).resolve_left fun other => here other.symm
      exact covered.gone before (trace.of_file? (same (isDocument_place space name) here))

end

/-- What is handed to the store keeps the object covered, if the documents of other objects are not taken for one of this. -/
theorem Files.covered {depot last : Depot} {image : Image} {result : Except Fault Unit}
    (files : Files depot image result last) (kept : depot.disk = some { first with tree })
    (covered : Covered first space name depot.objects tree) (safe : isSafe space name = true)
    (apart : (image.id.key?.bind depot.objects.get?).isSome = true → image.id.key? ≠ some (keyAt space name) →
      ¬ ReadsAs first.format image (keyAt space name)) :
    ∃ after, last.disk = some { first with tree := after } ∧ Covered first space name last.objects after := by
  have lies := lies_of_isSafe safe
  have own_place {path : Path} (found : documentPath image.id = .ok path)
      (own : image.id.key? = some (keyAt space name)) : path.location = place space name := by
    rw [eq_of_key own] at found
    obtain rfl := Except.ok.inj (lies.path.symm.trans found)
    exact lies.location
  cases files with
  | refused same spared =>
    rw [kept] at spared
    rw [same]
    exact covered.refused spared.retold
  | @removed key _ known held leaving objects took =>
    rw [kept] at took
    obtain ⟨path, found, retold⟩ := took.retold
    refine covered.retold retold (fun after absent trace => ?_) fun absent => ?_
    · exact absurd trace (not_isTrace_of_absent absent)
    · by_cases own : key = keyAt space name
      · exact .inl (own_place found (own ▸ known))
      · rw [objects, Catalog.get?_erase_of_ne _ fun same => own same.symm] at absent
        exact .inr absent
  | @written key _ known held staying objects wrote =>
    rw [kept] at wrote
    obtain ⟨path, found, retold⟩ := wrote.retold
    have present : (image.id.key?.bind depot.objects.get?).isSome = true := by rw [known, Option.bind_some, held]
    refine covered.retold retold (fun after there trace => ?_) fun absent => ?_
    · by_cases own : key = keyAt space name
      · subst own
        refine ⟨own_place found known, ?_⟩
        rw [objects, Catalog.get?_put_self]
        rfl
      · have other : image.id.key? ≠ some (keyAt space name) := by
          rw [known]
          exact fun same => own (Option.some.inj same)
        exact absurd ((isTrace_of_written there).mp trace) (apart present other)
    · by_cases own : key = keyAt space name
      · rw [objects, own, Catalog.get?_put_self] at absent
        cases absent
      · rw [objects, Catalog.get?_put_of_ne _ image fun same => own same.symm] at absent
        exact .inr absent

end Depot

end ImageOperator
