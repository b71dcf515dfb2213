import ImageOperator.Proofs.Disk.Tree
import ImageOperator.Proofs.Store.Persist

set_option autoImplicit false

/-!
Loading a store. Documents that can all be read are put into the store one after the other.
-/

namespace ImageOperator

namespace Catalog

/-- The catalog with entries put into it one after the other. -/
def putAll (catalog : Catalog) : List (ObjectKey × Image) → Catalog
  | [] => catalog
  | entry :: rest => putAll (catalog.put entry.1 entry.2) rest

theorem get?_putAll_of_absent (catalog : Catalog) {entries : List (ObjectKey × Image)} {key : ObjectKey}
    (absent : key ∉ entries.map (·.1)) : (catalog.putAll entries).get? key = catalog.get? key := by
  induction entries generalizing catalog with
  | nil => rfl
  | cons entry rest ih =>
    simp only [List.map_cons, List.mem_cons, not_or] at absent
    rw [putAll, ih _ absent.2, get?_put_of_ne catalog entry.2 absent.1]

/-- Where entries of one key agree, the last of them is any of them. -/
theorem get?_putAll_of_mem (catalog : Catalog) {entries : List (ObjectKey × Image)} {key : ObjectKey} {image : Image}
    (held : (key, image) ∈ entries) (agree : ∀ other, (key, other) ∈ entries → other = image) :
    (catalog.putAll entries).get? key = some image := by
  induction entries generalizing catalog with
  | nil => cases held
  | cons entry rest ih =>
    have agree_rest (other : Image) (later : (key, other) ∈ rest) := agree other (List.mem_cons_of_mem _ later)
    by_cases again : key ∈ rest.map (·.1)
    · obtain ⟨⟨_, other⟩, later, rfl⟩ := List.mem_map.mp again
      obtain rfl := agree_rest other later
      exact ih _ later agree_rest
    · have first : entry = (key, image) := by
        rcases List.mem_cons.mp held with same | later
        · exact same.symm
        · exact absurd (List.mem_map_of_mem (f := (·.1)) later) again
      rw [putAll, get?_putAll_of_absent _ again, first, get?_put_self]

theorem isSome_get?_putAll (catalog : Catalog) {entries : List (ObjectKey × Image)} {key : ObjectKey}
    (held : key ∈ entries.map (·.1)) : ((catalog.putAll entries).get? key).isSome = true := by
  induction entries generalizing catalog with
  | nil => cases held
  | cons entry rest ih =>
    by_cases again : key ∈ rest.map (·.1)
    · exact ih _ again
    · have first : key = entry.1 := by
        rcases List.mem_cons.mp held with same | later
        · exact same
        · exact absurd later again
      rw [putAll, get?_putAll_of_absent _ again, first, get?_put_self]
      rfl

end Catalog

namespace Depot

/-- What the documents at some paths hold, one after the other. -/
inductive Reads (disk : Disk) : List Path → List (ObjectKey × Image) → Prop
  | nil : Reads disk [] []
  | cons {path : Path} {paths : List Path} {key : ObjectKey} {image : Image} {entries : List (ObjectKey × Image)}
      (read : readDocument disk path = .ok image) (known : image.id.key? = some key) (rest : Reads disk paths entries) :
      Reads disk (path :: paths) ((key, image) :: entries)

theorem Reads.mem_iff {disk : Disk} {paths : List Path} {entries : List (ObjectKey × Image)}
    (reads : Reads disk paths entries) {entry : ObjectKey × Image} :
    entry ∈ entries ↔ ∃ path ∈ paths, readDocument disk path = .ok entry.2 ∧ entry.2.id.key? = some entry.1 := by
  induction reads with
  | nil => simp
  | @cons path paths key image entries read known rest ih =>
    obtain ⟨otherKey, other⟩ := entry
    simp only [List.mem_cons, ih, exists_eq_or_imp, read, Except.ok.injEq]
    refine or_congr_left ⟨?_, ?_⟩
    · rintro ⟨⟩
      exact ⟨rfl, known⟩
    · rintro ⟨rfl, own⟩
      obtain rfl := Option.some.inj (own.symm.trans known)
      rfl

theorem reads_of_readable {disk : Disk} {paths : List Path}
    (readable : ∀ path ∈ paths, ∃ key image, readDocument disk path = .ok image ∧ image.id.key? = some key) :
    ∃ entries, Reads disk paths entries := by
  induction paths with
  | nil => exact ⟨[], .nil⟩
  | cons path rest ih =>
    obtain ⟨key, image, read, known⟩ := readable path List.mem_cons_self
    obtain ⟨entries, reads⟩ := ih fun other later => readable other (List.mem_cons_of_mem _ later)
    exact ⟨_, .cons read known reads⟩

/-- The ways of loading a document: it is refused, or the image that it holds is put into the store. -/
inductive Loads (disk : Disk) (path : Path) (depot : Depot) : Outcome Depot Unit → Prop
  | refused {fault : Fault} : Loads disk path depot ⟨.error fault, depot, []⟩
  | put {key : ObjectKey} {image : Image} {audience : Audience} (read : readDocument disk path = .ok image)
      (known : image.id.key? = some key) :
      Loads disk path depot ⟨.ok (), ⟨depot.objects.put key image, audience, depot.disk⟩, []⟩

theorem loadDocument_loads (disk : Disk) (path : Path) (depot : Depot) :
    Loads disk path depot ((loadDocument disk path).bare depot) := by
  unfold loadDocument
  rw [Attempt.bare_bind, Attempt.bare_of]
  cases read : readDocument disk path with
  | error fault => exact .refused
  | ok image =>
    rw [Attempt.of_then rfl, Attempt.bare_bind, Attempt.bare_log, pure_bind]
    cases known : image.id.key? with
    | none =>
      unfold addObject
      rw [Attempt.bare_bind, Attempt.bare_of, keyOf_of_none known]
      exact .refused
    | some key =>
      rw [bare_addObject_of known]
      exact .put read known

/-- Documents that can be read are put into the store in their order. -/
theorem loadAll_of_reads {disk : Disk} {paths : List Path} {entries : List (ObjectKey × Image)}
    (reads : Reads disk paths entries) (depot : Depot) :
    ∃ loaded, (loadAll disk paths).bare depot = ⟨.ok (), loaded, []⟩ ∧
      loaded.objects = depot.objects.putAll entries ∧ loaded.disk = depot.disk := by
  induction reads generalizing depot with
  | nil => exact ⟨depot, rfl, rfl, rfl⟩
  | @cons path paths key image entries read known rest ih =>
    have one : (loadDocument disk path).bare depot = (addObject image).bare depot := by
      unfold loadDocument
      rw [Attempt.bare_bind, Attempt.bare_of, Attempt.of_then read, Attempt.bare_bind, Attempt.bare_log, pure_bind]
    rw [bare_addObject_of known] at one
    obtain ⟨loaded, done, objects, same⟩ := ih
      ⟨depot.objects.put key image, (depot.audience.fire .added image.id image).1, depot.disk⟩
    refine ⟨loaded, ?_, objects, same⟩
    unfold loadAll
    rw [Attempt.bare_bind, Attempt.bind_of_ok one]
    exact done

/-- Documents that were loaded could all be read. -/
theorem reads_of_loaded {disk : Disk} {paths : List Path} {depot : Depot}
    (loaded : (loadAll disk paths depot).result = .ok ()) : ∃ entries, Reads disk paths entries := by
  induction paths generalizing depot with
  | nil => exact ⟨[], .nil⟩
  | cons path rest ih =>
    have loads := loadDocument_loads disk path depot
    rw [← Attempt.bare_result, loadAll, Attempt.bare_bind] at loaded
    generalize ran : (loadDocument disk path).bare depot = outcome at loads
    cases loads with
    | refused =>
      rw [Attempt.bind_of_error ran] at loaded
      cases loaded
    | put read known =>
      rw [Attempt.bind_of_ok ran] at loaded
      obtain ⟨entries, reads⟩ := ih loaded
      exact ⟨_, .cons read known reads⟩

/-- What is found once documents were loaded, as far as they could be, was there before or was read. -/
theorem read_of_loadAll {disk : Disk} {paths : List Path} {depot : Depot} {key : ObjectKey}
    (stored : ((loadAll disk paths depot).state.objects.get? key).isSome = true) :
    (depot.objects.get? key).isSome = true ∨
      ∃ path ∈ paths, ∃ image, readDocument disk path = .ok image ∧ image.id.key? = some key := by
  induction paths generalizing depot with
  | nil => exact .inl stored
  | cons path rest ih =>
    have loads := loadDocument_loads disk path depot
    rw [← Attempt.bare_state, loadAll, Attempt.bare_bind] at stored
    generalize ran : (loadDocument disk path).bare depot = outcome at loads
    cases loads with
    | refused =>
      rw [Attempt.bind_of_error ran] at stored
      exact .inl stored
    | @put own image audience read known =>
      rw [Attempt.bind_of_ok ran] at stored
      rcases ih stored with before | ⟨other, later, found⟩
      · by_cases same : key = own
        · exact .inr ⟨path, List.mem_cons_self, image, read, same ▸ known⟩
        · rw [Catalog.get?_put_of_ne _ image same] at before
          exact .inl before
      · exact .inr ⟨other, List.mem_cons_of_mem _ later, found⟩

theorem preserves_addObject (image : Image) : (addObject image).Preserves Depot.disk :=
  (Attempt.preserves_of _ _).bind fun _ => (Attempt.preserves_read _).bind fun _ _ => rfl

theorem preserves_loadAll (disk : Disk) (paths : List Path) : (loadAll disk paths).Preserves Depot.disk := by
  induction paths with
  | nil => exact Attempt.preserves_pure _ ()
  | cons path rest ih =>
    refine Attempt.Preserves.bind ?_ fun _ => ih
    exact (Attempt.preserves_of _ _).bind fun image => Attempt.Preserves.bind (fun _ => rfl) fun _ =>
      preserves_addObject image

/-- A store that is opened anew on a disk and loads the documents. -/
def reload (disk : Disk) : Outcome Depot Unit :=
  load (empty (some disk))

theorem reload_disk (disk : Disk) : (reload disk).state.disk = some disk :=
  preserves_loadAll disk (documentPaths disk.tree) (empty (some disk))

theorem read_of_reload {disk : Disk} {key : ObjectKey}
    (stored : ((reload disk).state.objects.get? key).isSome = true) :
    ∃ path ∈ documentPaths disk.tree, ∃ image, readDocument disk path = .ok image ∧ image.id.key? = some key :=
  (read_of_loadAll stored).resolve_left nofun

theorem reload_of_read {disk : Disk} {path : Path} {key : ObjectKey} {image : Image}
    (loaded : (reload disk).result = .ok ()) (there : path ∈ documentPaths disk.tree)
    (read : readDocument disk path = .ok image) (known : image.id.key? = some key) :
    ((reload disk).state.objects.get? key).isSome = true := by
  obtain ⟨entries, reads⟩ := reads_of_loaded loaded
  obtain ⟨after, done, objects, -⟩ := loadAll_of_reads reads (empty (some disk))
  have state : (reload disk).state = after := congrArg Outcome.state done
  have held : (key, image) ∈ entries := reads.mem_iff.mpr ⟨path, there, read, known⟩
  rw [state, objects]
  exact Catalog.isSome_get?_putAll _ (List.mem_map_of_mem (f := (·.1)) held)

/-- Documents that can all be read, and are one for each key, are what a store holds that is opened anew and loads
them. -/
theorem load_of_readable {disk : Disk}
    (readable : ∀ path ∈ documentPaths disk.tree, ∃ key image, readDocument disk path = .ok image ∧
      image.id.key? = some key)
    (agree : ∀ path ∈ documentPaths disk.tree, ∀ other ∈ documentPaths disk.tree, ∀ image twin,
      readDocument disk path = .ok image → readDocument disk other = .ok twin → image.id.key? = twin.id.key? →
        twin = image) :
    ∃ loaded, load.bare (empty (some disk)) = ⟨.ok (), loaded, []⟩ ∧
      ∀ key image, loaded.objects.get? key = some image ↔
        ∃ path ∈ documentPaths disk.tree, readDocument disk path = .ok image ∧ image.id.key? = some key := by
  obtain ⟨entries, reads⟩ := reads_of_readable readable
  obtain ⟨loaded, done, objects, -⟩ := loadAll_of_reads reads (empty (some disk))
  refine ⟨loaded, done, fun key image => ?_⟩
  have one (image other : Image) (held : (key, image) ∈ entries) (again : (key, other) ∈ entries) : other = image := by
    obtain ⟨path, there, read, known⟩ := reads.mem_iff.mp held
    obtain ⟨otherPath, other_there, other_read, other_known⟩ := reads.mem_iff.mp again
    exact agree path there otherPath other_there image other read other_read (known.trans other_known.symm)
  have mem_entries : (key, image) ∈ entries ↔ _ := reads.mem_iff
  rw [objects, ← mem_entries]
  constructor
  · intro stored
    by_cases held : key ∈ entries.map (·.1)
    · obtain ⟨⟨_, other⟩, there, rfl⟩ := List.mem_map.mp held
      rw [Catalog.get?_putAll_of_mem _ there fun image => one other image there] at stored
      exact Option.some.inj stored ▸ there
    · rw [Catalog.get?_putAll_of_absent _ held] at stored
      cases stored
  · exact fun held => Catalog.get?_putAll_of_mem _ held fun other => one image other held

/-- The image of the document at a location, if there is one that can be read. -/
def imageAt? (disk : Disk) (location : Location) : Option Image :=
  match disk.tree.read location with
  | .error _ => none
  | .ok text =>
    match disk.format.read text with
    | .ok (.mapping entries) => (Image.ofDocument (.mapping entries)).toOption
    | _ => none

theorem readDocument_iff {disk : Disk} {path : Path} {image : Image} :
    readDocument disk path = .ok image ↔ imageAt? disk path.location = some image := by
  unfold readDocument imageAt?
  cases disk.tree.read path.location with
  | error fault => exact ⟨nofun, nofun⟩
  | ok text =>
    dsimp only
    rcases disk.format.read text with (_ | fault) | value
    · exact ⟨nofun, nofun⟩
    · exact ⟨nofun, nofun⟩
    · cases value with
      | mapping entries =>
        dsimp only
        generalize Image.ofDocument (.mapping entries) = read
        cases read <;> simp [Except.toOption]
      | null | bool | int | float | text | bytes | date | timestamp | sequence | tuple | set => exact ⟨nofun, nofun⟩

/-- The image that a text holds in a format, if it is a document. -/
def heldIn? (format : Format) (text : String) : Option Image :=
  match format.read text with
  | .ok (.mapping entries) => (Image.ofDocument (.mapping entries)).toOption
  | _ => none

theorem imageAt?_eq (disk : Disk) (location : Location) :
    imageAt? disk location = (disk.tree.file? location).bind (heldIn? disk.format) := by
  unfold imageAt? Tree.read Tree.file?
  rcases disk.tree.node? location with _ | _ | _ <;> rfl

theorem exists?_of_imageAt? {disk : Disk} {location : Location} {image : Image}
    (read : imageAt? disk location = some image) : disk.tree.exists? location = true := by
  cases there : disk.tree.node? location with
  | none =>
    simp only [imageAt?, Tree.read, there] at read
    cases read
  | some node => simp only [Tree.exists?, there, Option.isSome_some]

theorem imageAt?_of_node? {format : Format} {tree after : Tree} {location : Location}
    (same : after.node? location = tree.node? location) :
    imageAt? ⟨after, format⟩ location = imageAt? ⟨tree, format⟩ location := by
  simp only [imageAt?, Tree.read, same]

end Depot

end ImageOperator
