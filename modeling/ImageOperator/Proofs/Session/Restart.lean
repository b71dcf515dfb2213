import ImageOperator.Proofs.Session.Mirror
import ImageOperator.Proofs.Session.Pages
import ImageOperator.Proofs.Store.Request
import ImageOperator.Proofs.Store.Traces

set_option autoImplicit false

/-!
What is taken out of a store stays out when the store is opened anew, unless a document of it lay elsewhere than in its
place: such a document is loaded, but nothing takes it away.
-/

namespace ImageOperator

open Depot (Covered ReadsAs keyAt isSafe reload heldIn? readDocument documentPaths loadAll loadDocument)

namespace Session

variable {α β : Type} {session : Session} {command : Command}

/-- Commands by which objects are worked on and taken out, and none is added. -/
def tends (_ : Session) : Command → Bool
  | .persist _ _ | .requestDeletion _ | .reconcile _ => true
  | command => isQuiet command

/-- Outcomes that leave the objects and the disk of the store in use as they were, or as handing an image over does. -/
inductive Refiles (session : Session) (outcome : Outcome Session α) : Prop
  | rests (same : outcome.state.filed = session.filed)
  | hands {image : Image} (submitted : .submitted image ∈ outcome.notes)
      (filed : outcome.state.filed = (Depot.persist image session.store).state.filed)

theorem Refiles.answered {attempt : Attempt Session α} {answer : α → Attempt Session β}
    (refiles : Refiles session (attempt session)) (answers : ∀ value, (answer value).Preserves filed) :
    Refiles session ((attempt >>= answer) session) := by
  rcases ran : attempt session with ⟨fault | value, after, notes⟩
  all_goals rw [ran] at refiles
  · rw [Attempt.bind_of_error ran]
    cases refiles with
    | rests same => exact .rests same
    | hands submitted filed => exact .hands submitted filed
  · rw [Attempt.bind_of_ok ran]
    have kept := answers value after
    cases refiles with
    | rests same => exact .rests (kept.trans same)
    | hands submitted filed => exact .hands (List.mem_append_left _ submitted) (kept.trans filed)

theorem Refiles.after {first : Attempt Session α} {next : α → Attempt Session β} (same : first.Preserves store)
    (later : ∀ value middle, middle.store = session.store → Refiles middle (next value middle)) :
    Refiles session ((first >>= next) session) := by
  have kept := same session
  rcases ran : first session with ⟨fault | value, middle, notes⟩
  all_goals rw [ran] at kept
  · rw [Attempt.bind_of_error ran]
    exact .rests (congrArg Depot.filed kept)
  · rw [Attempt.bind_of_ok ran]
    have same : middle.store = session.store := kept
    cases later value middle same with
    | rests still => exact .rests (still.trans (congrArg Depot.filed same))
    | hands submitted filed => exact .hands (List.mem_append_right _ submitted) (same ▸ filed)

theorem submitted_inStore {attempt : Attempt Depot α} {image : Image}
    (submitted : .submitted image ∈ (attempt session.store).notes) : .submitted image ∈ (inStore attempt session).notes :=
  List.mem_filter.mpr ⟨submitted, rfl⟩

theorem submitted_persist (image : Image) (depot : Depot) : .submitted image ∈ (Depot.persist image depot).notes := by
  obtain ⟨told, ofStore, -⟩ := Depot.persist_tells image depot
  have held : Note.submitted image ∈ (Depot.persist image depot).notes.filter Note.isOfStore := by
    rw [ofStore]
    exact List.mem_cons_self
  exact (List.mem_filter.mp held).1

theorem persist_refiles (image : Image) (session : Session) :
    Refiles session (inStore (Depot.persist image) session) :=
  .hands (submitted_inStore (submitted_persist image _)) (congrArg Depot.filed (store_inStore _ session))

theorem requestDeletion_refiles (id : ObjectId) (now : String) (session : Session) :
    Refiles session (inStore (Depot.requestDeletion id now) session) := by
  have store := store_inStore (Depot.requestDeletion id now) session
  have noted {image : Image} := @submitted_inStore _ session (Depot.requestDeletion id now) image
  have deletes := Depot.requestDeletion_deletes id now session.store
  generalize Depot.requestDeletion id now session.store = outcome at deletes store noted
  cases deletes with
  | unknown | absent => exact .rests (congrArg Depot.filed store)
  | handed known stored =>
    exact .hands (noted (List.mem_cons_of_mem _ (submitted_persist _ _))) (congrArg Depot.filed store)

theorem reconcile_refiles (id : ObjectId) (session : Session) : Refiles session (reconcile id session) := by
  obtain ⟨handed, store, kin⟩ := reconcile_store id session
  cases handed with
  | none => exact .rests (congrArg Depot.filed store)
  | some image => exact .hands (kin image rfl).1 (congrArg Depot.filed store)

/-- The step lemma: one image at most is handed to the store. -/
theorem step_refiles (permitted : tends session command = true) : Refiles session (step command session) := by
  have done (answer : Answer) : (pure answer : Attempt Session Answer).Preserves filed :=
    Attempt.preserves_pure filed answer
  cases command with
  | persist source keep =>
    exact .after (preserves_takeSource store source keep) fun image middle _ =>
      (persist_refiles image middle).answered fun _ => done _
  | requestDeletion id =>
    exact .after (Attempt.preserves_read store) fun before middle _ =>
      (requestDeletion_refiles id before.now.iso middle).answered fun _ => done _
  | reconcile id => exact (reconcile_refiles id session).answered fun _ => done _
  | get | list | kept | changeKept | listen | unlisten | setNow | setRegistry | files | pathFor | cloud | state =>
    exact .rests (step_quiet rfl session)
  | add | addWritten | modify | writeFile | makeFolder | deleteFile | deleteRoot | load | reopen | «open» | within
  | scope => cases permitted

/-- The images of stored objects that a step hands to the store. -/
def handed (session : Session) (command : Command) : List Image :=
  ((step command session).notes.filterMap Note.submitted?).filter fun image => (session.stored? image.id).isSome

/-- The images of stored objects that were handed to the store in a run. -/
def handedIn (history : List (Session × Command)) : List Image :=
  history.flatMap fun given => given.1.handed given.2

section

variable {first : Disk} {space name : String} {tree : Tree} {history : List (Session × Command)}

theorem step_covered (permitted : tends session command = true) (safe : isSafe space name = true)
    (kept : session.store.disk = some { first with tree })
    (covered : Covered first space name session.store.objects tree)
    (apart : ∀ image ∈ session.handed command, image.id ≠ ⟨Image.kind, .text space, .text name⟩ →
      ¬ ReadsAs first.format image (keyAt space name)) :
    ∃ after, (step command session).state.store.disk = some { first with tree := after } ∧
      Covered first space name (step command session).state.store.objects after := by
  cases step_refiles permitted with
  | rests same =>
    obtain ⟨objects, disk⟩ := Prod.mk.inj same
    exact ⟨tree, disk.trans kept, objects ▸ covered⟩
  | @hands image submitted filed =>
    obtain ⟨objects, disk⟩ := Prod.mk.inj filed
    rw [objects, disk]
    refine (Depot.persist_files image session.store).covered kept covered safe fun stored other => ?_
    refine apart image (List.mem_filter.mpr ⟨List.mem_filterMap.mpr ⟨_, submitted, rfl⟩, stored⟩) fun same => ?_
    rw [same] at other
    exact other rfl

/-- The run lemma. -/
theorem Run.covered {start : Session} (ran : Run tends start history session) (safe : isSafe space name = true)
    (kept : start.store.disk = some { first with tree })
    (covered : Covered first space name start.store.objects tree)
    (apart : ∀ image ∈ handedIn history, image.id ≠ ⟨Image.kind, .text space, .text name⟩ →
      ¬ ReadsAs first.format image (keyAt space name)) :
    ∃ after, session.store.disk = some { first with tree := after } ∧
      Covered first space name session.store.objects after := by
  induction ran with
  | rest => exact ⟨tree, kept, covered⟩
  | step ran allowed ih =>
    obtain ⟨middle, disk, still⟩ := ih fun image held => apart image (List.mem_append_right _ held)
    exact step_covered allowed safe disk still fun image held => apart image (List.mem_append_left _ held)

/-- A store that has loaded a disk covers every object. -/
theorem load_covered {disk : Disk} {settings : Settings} (kept : settings.disk = some disk)
    (safe : isSafe space name = true) (accepted : (step .load (start settings)).result = .ok .done) :
    (step .load (start settings)).state.store.disk = some disk ∧
      Covered disk space name (step .load (start settings)).state.store.objects disk.tree := by
  obtain ⟨store, result⟩ := step_load (start settings)
  have empty : (start settings).store = Depot.empty (some disk) := congrArg Depot.empty kept
  rw [empty] at store result
  have loaded : (reload disk).result = .ok () := result.mp accepted
  have same : (step .load (start settings)).state.store = (reload disk).state := store
  rw [same]
  have lies := Depot.lies_of_isSafe safe
  refine ⟨Depot.reload_disk disk, fun _ _ _ => .inr rfl, ?_⟩
  rintro absent ⟨image, read, known⟩
  have there := Depot.mem_documentPaths.mpr ⟨space, name, rfl, Depot.exists?_of_imageAt? read⟩
  rw [← lies.location, ← Depot.readDocument_iff] at read
  have stored := Depot.reload_of_read loaded there read known
  rw [absent] at stored
  cases stored

/-- A document of an object that lay elsewhere than in its place when the disk was loaded, and still lies there as it
was. -/
def IsAstray (first : Disk) (session : Session) (id : ObjectId) : Prop :=
  ∃ last path image, session.disk = some last ∧ path ∈ Depot.documentPaths last.tree ∧
    Depot.documentPath id ≠ .ok path ∧ last.tree.file? path.location = first.tree.file? path.location ∧
    Depot.readDocument first path = .ok image ∧ image.id = id

/-- What a store has that is opened anew in a session and loads the disk. -/
theorem store_anew {disk : Disk} (kept : session.store.disk = some disk) :
    (step .load (step .reopen session).state).state.store = (reload disk).state ∧
      ((step .load (step .reopen session).state).result = .ok .done ↔ (reload disk).result = .ok ()) := by
  have empty : (step .reopen session).state.store = Depot.empty (some disk) :=
    (store_reopen session).trans (congrArg Depot.empty kept)
  obtain ⟨store, result⟩ := step_load (step .reopen session).state
  rw [empty] at store result
  exact ⟨store, result⟩

theorem stored_anew {disk : Disk} (kept : session.store.disk = some disk) (space name : String) :
    (step .load (step .reopen session).state).state.stored? ⟨Image.kind, .text space, .text name⟩ =
      (reload disk).state.objects.get? (keyAt space name) := by
  rw [← (store_anew kept).1]
  rfl

/-- An object that a store does not have any more, after a run that adds none, is not there either when the store is
opened anew, unless a document of it went astray; and if one did, it is there again. -/
theorem removed_stays_removed_unless_astray {settings : Settings} {disk : Disk} (kept : settings.disk = some disk)
    (accepted : (step .load (start settings)).result = .ok .done) (safe : isSafe space name = true)
    (ran : Run tends (step .load (start settings)).state history session)
    (apart : ∀ image ∈ handedIn history, image.id ≠ ⟨Image.kind, .text space, .text name⟩ →
      ¬ ReadsAs disk.format image (keyAt space name))
    (removed : session.stored? ⟨Image.kind, .text space, .text name⟩ = none) :
    let anew := step .load (step .reopen session).state
    let back := (anew.state.stored? ⟨Image.kind, .text space, .text name⟩).isSome = true
    (back → IsAstray disk session ⟨Image.kind, .text space, .text name⟩) ∧
      (anew.result = .ok .done → IsAstray disk session ⟨Image.kind, .text space, .text name⟩ → back) := by
  have lies := Depot.lies_of_isSafe safe
  obtain ⟨loaded, covered⟩ := load_covered kept safe accepted
  obtain ⟨tree, last, covered⟩ := ran.covered safe loaded covered apart
  have gone := covered.gone removed
  dsimp only
  rw [stored_anew last, (store_anew last).2]
  refine ⟨fun stored => ?_, fun done astray => ?_⟩
  · obtain ⟨path, there, image, read, known⟩ := Depot.read_of_reload stored
    have trace : Depot.IsTrace { disk with tree } (keyAt space name) path.location :=
      ⟨image, Depot.readDocument_iff.mp read, known⟩
    have elsewhere : path.location ≠ Depot.place space name := fun here => gone (here ▸ trace)
    have same := (covered.elsewhere path.location (Depot.isDocument_of_mem there) trace).resolve_left elsewhere
    obtain ⟨first, first_read, first_known⟩ := trace.of_file? same
    refine ⟨_, path, first, last, there, fun own => ?_, same, Depot.readDocument_iff.mpr first_read,
      Depot.eq_of_key first_known⟩
    obtain rfl := Except.ok.inj (lies.path.symm.trans own)
    exact elsewhere lies.location
  · obtain ⟨_, path, image, again, there, -, same, read, own⟩ := astray
    obtain rfl := Option.some.inj (last.symm.trans again)
    have trace : Depot.IsTrace { disk with tree := disk.tree } (keyAt space name) path.location :=
      ⟨image, Depot.readDocument_iff.mp read, own ▸ rfl⟩
    obtain ⟨other, other_read, known⟩ := trace.of_file? same.symm
    exact Depot.reload_of_read done there (Depot.readDocument_iff.mpr other_read) known

end

namespace Trial

theorem heldIn?_fresh {name : String} (held : name ∈ names) : heldIn? Yaml.format (freshPage name) = some (fresh name) := by
  have restored : Yaml.format.read (Yaml.format.write (fresh name).document) = .ok (fresh name).document :=
    restores_fresh name held
  have reads := reads_fresh name held
  rw [write_fresh name held] at restored
  obtain ⟨entries, mapping⟩ : ∃ entries, (fresh name).document = .mapping entries := ⟨_, rfl⟩
  rw [mapping] at restored reads
  simp only [heldIn?, restored, reads, Except.toOption]

/-- Directories of fresh images: where their documents lie, and their names. -/
structure Shelves (disk : Disk) (documents : List (Path × String)) : Prop where
  format : disk.format = Yaml.format
  rooted : ∀ entry ∈ disk.tree.nodes, entry.1.head? = some Path.rootName
  paths : documentPaths disk.tree = documents.map (·.1)
  named : ∀ document ∈ documents, document.2 ∈ names
  files : ∀ document ∈ documents, disk.tree.file? document.1.location = some (freshPage document.2)

/-- What a store has that has loaded such a directory. -/
def stock (documents : List (Path × String)) : Catalog :=
  Catalog.putAll [] (documents.map fun document => (key document.2, fresh document.2))

def keeping (disk : Disk) : Settings :=
  { settings with disk := some disk }

/-- The listeners of a store that has loaded such documents: the standard one has been told of each. -/
def hearing (documents : List (Path × String)) : Audience :=
  { Audience.standard with
    past := documents.map fun document => .told "default" .added (id document.2) (fresh document.2) }

/-- The session that has loaded such a directory. -/
def loaded (disk : Disk) (documents : List (Path × String)) : Session :=
  putDepot 0 ⟨stock documents, hearing documents, some disk⟩ (start (keeping disk))

theorem loadAll_fresh {disk : Disk} {documents : List (Path × String)}
    (reads : ∀ document ∈ documents, readDocument disk document.1 = .ok (fresh document.2))
    (earlier : List (Path × String)) (objects : Catalog) :
    ∃ notes, loadAll disk (documents.map (·.1)) ⟨objects, hearing earlier, some disk⟩ =
      ⟨.ok (), ⟨objects.putAll (documents.map fun document => (key document.2, fresh document.2)),
        hearing (earlier ++ documents), some disk⟩, notes⟩ ∧ notes.filterMap Note.event? = [] := by
  induction documents generalizing objects earlier with
  | nil => exact ⟨[], by rw [List.append_nil]; rfl, rfl⟩
  | cons document rest ih =>
    have one : ∃ notes, loadDocument disk document.1 ⟨objects, hearing earlier, some disk⟩ =
        ⟨.ok (), ⟨objects.put (key document.2) (fresh document.2), hearing (earlier ++ [document]), some disk⟩,
          notes⟩ ∧ notes.filterMap Note.event? = [] := by
      unfold loadDocument
      rw [Attempt.of_then (reads document List.mem_cons_self)]
      unfold hearing
      rw [List.map_append]
      exact ⟨_, rfl, rfl⟩
    obtain ⟨notes, done, silent⟩ := one
    obtain ⟨more, later, quiet⟩ := ih (fun other held => reads other (List.mem_cons_of_mem _ held))
      (earlier ++ [document]) (objects.put (key document.2) (fresh document.2))
    refine ⟨notes ++ more, ?_, by rw [List.filterMap_append, silent, quiet, List.append_nil]⟩
    rw [List.map_cons, loadAll, Attempt.bind_of_ok done, later, List.append_assoc]
    rfl

namespace Shelves

variable {disk : Disk} {documents : List (Path × String)}

theorem reads (shelves : Shelves disk documents) {document : Path × String} (held : document ∈ documents) :
    readDocument disk document.1 = .ok (fresh document.2) := by
  rw [Depot.readDocument_iff, Depot.imageAt?_eq, shelves.files document held, shelves.format, Option.bind_some,
    heldIn?_fresh (shelves.named document held)]

theorem not_exists_top (shelves : Shelves disk documents) {name : String} (named : Depot.namesDocument name = true) :
    disk.tree.exists? [name] = false := by
  cases there : disk.tree.exists? [name] with
  | false => rfl
  | true =>
    obtain ⟨node, held⟩ := (Tree.exists?_iff_mem (List.cons_ne_nil _ _)).mp there
    obtain rfl := Option.some.inj (shelves.rooted _ held)
    exact absurd named (by decide)

/-- Nothing else can be read from it. -/
theorem eq_of_read (shelves : Shelves disk documents) {tree : Tree} {path : Path} {image : Image}
    (there : path ∈ documentPaths tree) (read : readDocument disk path = .ok image) :
    ∃ document ∈ documents, path = document.1 ∧ image = fresh document.2 := by
  obtain ⟨folder, file, rfl, -⟩ := Depot.mem_documentPaths.mp there
  have found := Depot.exists?_of_imageAt? (Depot.readDocument_iff.mp read)
  have listed : (⟨false, [folder, file ++ Depot.documentSuffix]⟩ : Path) ∈ documentPaths disk.tree := by
    rw [Depot.mem_documentPaths]
    refine ⟨folder, file, rfl, ?_⟩
    rcases Depot.location_cases folder file with location | ⟨rfl, location⟩
    · exact location ▸ found
    · rw [location, shelves.not_exists_top (Depot.namesDocument_append file)] at found
      cases found
  rw [shelves.paths, List.mem_map] at listed
  obtain ⟨document, held, same⟩ := listed
  refine ⟨document, held, same.symm, ?_⟩
  rw [← same, shelves.reads held] at read
  exact (Except.ok.inj read).symm

theorem load (shelves : Shelves disk documents) : (step .load (start (keeping disk))).result = .ok .done ∧
    (step .load (start (keeping disk))).state = loaded disk documents := by
  obtain ⟨notes, done, silent⟩ := loadAll_fresh (fun document held => shelves.reads held) [] []
  rw [← shelves.paths] at done
  have inside : inStore Depot.load (start (keeping disk)) =
      ⟨.ok (), (loaded disk documents).keepEvents notes, notes.filter (loaded disk documents).shows⟩ := by
    have load : Depot.load ((start (keeping disk)).depot (start (keeping disk)).current) =
      ⟨.ok (), ⟨stock documents, hearing documents, some disk⟩, notes⟩ := done
    unfold inStore
    rw [Attempt.read_then]
    unfold inDepot through
    dsimp only
    rw [load]
    rfl
  have same : (loaded disk documents).keepEvents notes = loaded disk documents := by
    unfold keepEvents
    rw [silent, List.append_nil]
  have steps : step .load (start (keeping disk)) =
    (inStore Depot.load >>= fun _ => pure .done) (start (keeping disk)) := rfl
  rw [steps, Attempt.bind_of_ok inside, same]
  exact ⟨rfl, rfl⟩

end Shelves

/-- A document of an object that lies elsewhere than in its place. -/
def astray : Disk where
  tree := ⟨[([Path.rootName], .folder), ([Path.rootName, "t"], .folder),
    ([Path.rootName, "t", "m.yaml"], .file (freshPage "m"))]⟩
  format := Yaml.format

def astrayDocuments : List (Path × String) := [(⟨false, ["t", "m.yaml"]⟩, "m")]

theorem shelves_astray : Shelves astray astrayDocuments where
  format := rfl
  rooted := by decide
  paths := by decide +kernel
  named := by decide
  files := by
    intro document held
    obtain rfl := List.mem_singleton.mp held
    rfl

/-- The session that has loaded it. -/
def straying : Session :=
  loaded astray astrayDocuments

/-- The documents of two objects, the first of which is to be written into the place of the second. -/
def beside : Disk where
  tree := ⟨[([Path.rootName], .folder), ([Path.rootName, "s"], .folder),
    ([Path.rootName, "s", "c.yaml"], .file (freshPage "../s/m")),
    ([Path.rootName, "s", "m.yaml"], .file (freshPage "m"))]⟩
  format := Yaml.format

def besideDocuments : List (Path × String) := [(⟨false, ["s", "c.yaml"]⟩, "../s/m"), (⟨false, ["s", "m.yaml"]⟩, "m")]

theorem shelves_beside : Shelves beside besideDocuments where
  format := rfl
  rooted := by decide
  paths := by
    rw [documentPaths, Tree.pairsBelow, List.mergeSort_of_pairwise (by decide)]
    decide +kernel
  named := by decide
  files := by
    intro document held
    simp only [besideDocuments, List.mem_cons, List.not_mem_nil, or_false] at held
    rcases held with rfl | rfl <;> rfl

/-- The session that has loaded them. -/
def crossing : Session :=
  loaded beside besideDocuments

/-- The object of the second document goes, and that of the first is written in its place. -/
def cleared : List Command :=
  [.reconcile (id "m"), .requestDeletion (id "m"), .reconcile (id "m"),
    .persist (.document (fresh "../s/m").document) none]

theorem ids_cleared : (handedIn (crossing.past [] cleared)).map Image.id =
    [id "../s/m", id "m", id "m", id "m"] := rfl

theorem head_cleared : (handedIn (crossing.past [] cleared)).head? = some (fresh "../s/m") := rfl

theorem handed_cleared {image : Image} (handed : image ∈ handedIn (crossing.past [] cleared)) :
    image = fresh "../s/m" ∨ image.id = id "m" := by
  obtain ⟨latest, earlier, same, -, ids⟩ := List.map_eq_cons_iff.mp ids_cleared
  have head := head_cleared
  rw [same] at handed head
  obtain rfl := Option.some.inj head
  rcases List.mem_cons.mp handed with here | later
  · exact .inl here
  · have held := List.mem_map_of_mem (f := Image.id) later
    rw [ids] at held
    exact .inr (by simpa using held)

/-- The document of the other object is not taken for one of the object that is gone. -/
theorem apart_cleared : ∀ image ∈ handedIn (crossing.past [] cleared),
    image.id ≠ id "m" → ¬ ReadsAs Yaml.format image (key "m") := by
  rintro image handed other ⟨read, held, known⟩
  obtain rfl := (handed_cleared handed).resolve_right other
  rw [write_fresh "../s/m" (by decide), heldIn?_fresh (by decide)] at held
  obtain rfl := Option.some.inj held
  exact absurd known (by decide)

theorem not_astray_beside {session : Session} : ¬ IsAstray beside session (id "m") := by
  rintro ⟨last, path, image, -, there, elsewhere, -, read, own⟩
  obtain ⟨document, held, same⟩ := shelves_beside.eq_of_read there read
  simp only [besideDocuments, List.mem_cons, List.not_mem_nil, or_false] at held
  obtain ⟨rfl, rfl⟩ := same
  rcases held with rfl | rfl
  · have names : Value.text "../s/m" = .text "m" := congrArg ObjectId.name own
    exact absurd (Value.text.inj names) (by decide)
  · exact elsewhere rfl

end Trial

/-- An object goes and stays away, though another one is written in its place. -/
theorem removed_stays_removed_of_cleared :
    (step .load (start (Trial.keeping Trial.beside))).result = .ok .done ∧
      permits tends Trial.crossing Trial.cleared = true ∧
      (step .load (start (Trial.keeping Trial.beside))).state = Trial.crossing ∧
      (Trial.crossing.stored? (Trial.id "m")).isSome = true ∧
      (Trial.crossing.after Trial.cleared).stored? (Trial.id "m") = none ∧
      (step .load (step .reopen (Trial.crossing.after Trial.cleared)).state).state.stored? (Trial.id "m") =
        none := by
  obtain ⟨accepted, loaded⟩ := Trial.shelves_beside.load
  have permitted : permits tends Trial.crossing Trial.cleared = true := rfl
  have removed : (Trial.crossing.after Trial.cleared).stored? (Trial.id "m") = none := rfl
  have ran : Run tends (step .load (start (Trial.keeping Trial.beside))).state
      (Trial.crossing.past [] Trial.cleared) (Trial.crossing.after Trial.cleared) := by
    rw [loaded]
    exact Run.after .rest permitted
  refine ⟨accepted, permitted, loaded, rfl, removed, ?_⟩
  have stays := removed_stays_removed_unless_astray (rfl : (Trial.keeping Trial.beside).disk = some Trial.beside)
    accepted (by decide : Depot.isSafe "s" "m" = true) ran Trial.apart_cleared removed
  refine Option.not_isSome_iff_eq_none.mp fun back => ?_
  exact Trial.not_astray_beside (stays.1 back)

/-- A document that lies elsewhere brings its object back. -/
theorem removed_comes_back_from_astray :
    (step .load (start (Trial.keeping Trial.astray))).result = .ok .done ∧
      (step .load (start (Trial.keeping Trial.astray))).state = Trial.straying ∧
      Trial.straying.stored? (Trial.id "m") = some (Trial.fresh "m") ∧
      permits tends Trial.straying [.requestDeletion (Trial.id "m")] = true ∧
      (Trial.straying.after [.requestDeletion (Trial.id "m")]).stored? (Trial.id "m") = none ∧
      ((step .load (step .reopen
        (Trial.straying.after [.requestDeletion (Trial.id "m")])).state).state.stored? (Trial.id "m")).isSome =
          true := by
  obtain ⟨accepted, loaded⟩ := Trial.shelves_astray.load
  refine ⟨accepted, loaded, rfl, rfl, rfl, ?_⟩
  have kept : (Trial.straying.after [.requestDeletion (Trial.id "m")]).store.disk = some Trial.astray :=
    rfl
  obtain ⟨first, result⟩ := step_load (start (Trial.keeping Trial.astray))
  have loads : (reload Trial.astray).result = .ok () := result.mp accepted
  have held : (⟨false, ["t", "m.yaml"]⟩, "m") ∈ Trial.astrayDocuments := List.mem_cons_self
  have read := Trial.shelves_astray.reads held
  have there : ⟨false, ["t", "m.yaml"]⟩ ∈ documentPaths Trial.astray.tree := by
    rw [Trial.shelves_astray.paths]
    exact List.mem_map_of_mem held
  have known : (Trial.fresh "m").id.key? = some (keyAt "s" "m") := rfl
  have stored := Depot.reload_of_read loads there read known
  exact (congrArg Option.isSome (stored_anew kept "s" "m")).trans stored

end Session

end ImageOperator
