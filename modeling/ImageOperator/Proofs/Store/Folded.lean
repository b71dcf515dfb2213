import ImageOperator.Proofs.Disk.Listing
import ImageOperator.Proofs.Session.Pages
import ImageOperator.Proofs.Store.Load
import ImageOperator.Proofs.Store.Told
import Mathlib.Data.List.Forall2

set_option autoImplicit false

/-!
Loading as a fold. The documents of a tree are visited in the order of their folders and names; each is put into the
store as it is read, and the first that holds no image ends the loading, with everything before it in the store.
-/

namespace ImageOperator

namespace Catalog

theorem map_put (catalog : Catalog) (key : ObjectKey) (image : Image) :
    (catalog.put key image).map (·.1) =
      if key ∈ catalog.map (·.1) then catalog.map (·.1) else catalog.map (·.1) ++ [key] := by
  induction catalog with
  | nil => rfl
  | cons entry rest ih =>
    by_cases own : entry.1 = key
    · simp [put, own]
    · have other : key ≠ entry.1 := Ne.symm own
      simp only [put, own, ↓reduceIte, List.map_cons, ih, List.mem_cons, other, false_or]
      split <;> rfl

/-- Keys that come in keep their place where they are, and come behind all others where they are not. -/
def enter (keys : List ObjectKey) (entry : ObjectKey × Image) : List ObjectKey :=
  if entry.1 ∈ keys then keys else keys ++ [entry.1]

theorem map_putAll (catalog : Catalog) (entries : List (ObjectKey × Image)) :
    (catalog.putAll entries).map (·.1) = entries.foldl enter (catalog.map (·.1)) := by
  induction entries generalizing catalog with
  | nil => rfl
  | cons entry rest ih => rw [putAll, ih, map_put, List.foldl_cons, enter]

/-- The last image that comes in under a key. -/
def last? (entries : List (ObjectKey × Image)) (key : ObjectKey) : Option Image :=
  (entries.reverse.find? fun entry => entry.1 = key).map (·.2)

theorem get?_putAll (catalog : Catalog) (entries : List (ObjectKey × Image)) (key : ObjectKey) :
    (catalog.putAll entries).get? key = (last? entries key).or (catalog.get? key) := by
  induction entries generalizing catalog with
  | nil => rfl
  | cons entry rest ih =>
    rw [putAll, ih, last?, last?, List.reverse_cons, List.find?_append]
    cases rest.reverse.find? fun entry => entry.1 = key with
    | some later => rfl
    | none =>
      by_cases own : key = entry.1
      · subst own
        simp
      · have other : ¬ entry.1 = key := Ne.symm own
        simp [other, get?_put_of_ne catalog entry.2 own]

end Catalog

namespace Depot

/-- Folder and file name of a document. -/
abbrev Title := String × String

def titled (title : Title) : Path :=
  ⟨false, [title.1, title.2]⟩

def placed (title : Title) : Location :=
  [Path.rootName, title.1, title.2]

/-- The documents of a tree: whatever lies in a folder of the root and has the suffix, each once and in order. -/
structure Lists (tree : Tree) (titles : List Title) : Prop where
  mem : ∀ title, title ∈ titles ↔
    tree.exists? (placed title) = true ∧ documentSuffix.toList <:+ title.2.toList
  ordered : titles.Pairwise Tree.Precedes

/-- Documents that hold an image, and under which key. -/
inductive Holds (disk : Disk) (title : Title) : ObjectKey × Image → Prop
  | image {text : String} {entries : Entries} {image : Image} {key : ObjectKey}
      (file : disk.tree.node? (placed title) = some (.file text))
      (parsed : disk.format.read text = .ok (.mapping entries))
      (accepted : Image.ofDocument (.mapping entries) = .ok image)
      (hashed : image.id.key? = some key) : Holds disk title (key, image)

/-- Documents that hold none, and what they are refused with. -/
inductive Spoils (disk : Disk) (title : Title) : Fault → Prop
  | folder (there : disk.tree.node? (placed title) = some .folder) : Spoils disk title (.file .isFolder)
  | unreadable {text : String} (file : disk.tree.node? (placed title) = some (.file text))
      (failed : disk.format.read text = .error .malformed) :
      Spoils disk title (.documentUnreadable (titled title).text)
  | scalar {text : String} {fault : Fault} (file : disk.tree.node? (placed title) = some (.file text))
      (failed : disk.format.read text = .error (.scalar fault)) : Spoils disk title fault
  | shapeless {text : String} {value : Value} (file : disk.tree.node? (placed title) = some (.file text))
      (parsed : disk.format.read text = .ok value) (shape : value.entries? = none) :
      Spoils disk title (.documentNotMapping (titled title).text)
  | refused {text : String} {entries : Entries} {fault : Fault}
      (file : disk.tree.node? (placed title) = some (.file text))
      (parsed : disk.format.read text = .ok (.mapping entries))
      (refused : Image.ofDocument (.mapping entries) = .error fault) : Spoils disk title fault
  | unhashed {text : String} {entries : Entries} {image : Image}
      (file : disk.tree.node? (placed title) = some (.file text))
      (parsed : disk.format.read text = .ok (.mapping entries))
      (accepted : Image.ofDocument (.mapping entries) = .ok image)
      (unhashed : image.id.key? = none) : Spoils disk title .type

/-- What everyone who listens is told while images are added one after the other. -/
def addedNotes : List (ObjectKey × Image) → Audience → List Note
  | [], _ => []
  | (_, image) :: rest, audience =>
    ((audience.registered .added).map fun registration =>
      Note.fired registration.listener .added image.id image) ++
      addedNotes rest (audience.fire .added image.id image).1

/-- A store that took entries in, one after the other, and did nothing else. -/
structure Takes (depot : Depot) (entries : List (ObjectKey × Image)) (outcome : Outcome Depot Unit) : Prop where
  objects : outcome.state.objects = depot.objects.putAll entries
  latest : ∀ key, outcome.state.objects.get? key = (Catalog.last? entries key).or (depot.objects.get? key)
  places : outcome.state.objects.map (·.1) = entries.foldl Catalog.enter (depot.objects.map (·.1))
  audience : outcome.state.audience =
    entries.foldl (fun audience entry => (audience.fire .added entry.2.id entry.2).1) depot.audience
  told : outcome.notes.filter Note.isFired = addedNotes entries depot.audience
  disk : outcome.state.disk = depot.disk

/-- The ways of loading documents: all of them hold images and are taken in, or the first that holds none ends it. -/
inductive Folds (disk : Disk) (depot : Depot) (titles : List Title) (outcome : Outcome Depot Unit) : Prop
  | all {entries : List (ObjectKey × Image)} (holds : List.Forall₂ (Holds disk) titles entries)
      (done : outcome.result = .ok ()) (takes : Takes depot entries outcome)
  | stopped {before after : List Title} {title : Title} {entries : List (ObjectKey × Image)} {fault : Fault}
      (split : titles = before ++ title :: after) (holds : List.Forall₂ (Holds disk) before entries)
      (spoils : Spoils disk title fault) (failed : outcome.result = .error fault)
      (takes : Takes depot entries outcome)

/-- The documents of a tree, as they are visited. -/
def titles (tree : Tree) : List Title :=
  (tree.pairsBelow Path.root.location).filter fun title => namesDocument title.2

theorem documentPaths_eq (tree : Tree) : documentPaths tree = (titles tree).map titled := rfl

theorem lists_titles {tree : Tree} (proper : tree.Proper) : Lists tree (titles tree) := by
  refine ⟨?_, (Tree.pairsBelow_precedes proper _).filter _⟩
  rintro ⟨folder, name⟩
  rw [titles, List.mem_filter, Tree.mem_pairsBelow, namesDocument, List.isSuffixOf_iff_suffix]
  rfl

/-- Where the tree has no name that leads up, a document lies where its title says. -/
theorem location_titled {tree : Tree} (proper : tree.Proper) {title : Title}
    (there : tree.exists? (placed title) = true) : (titled title).location = placed title := by
  obtain ⟨node, held⟩ := (Tree.exists?_iff_mem (by simp [placed])).mp there
  have down := proper.down _ held
  simp only [placed, List.mem_cons, not_or] at down
  simp [titled, placed, Path.location, Path.enter, Ne.symm down.2.1, Ne.symm down.2.2.1]

theorem readDocument_of_holds {disk : Disk} {title : Title} {entry : ObjectKey × Image}
    (at_place : (titled title).location = placed title) (holds : Holds disk title entry) :
    readDocument disk (titled title) = .ok entry.2 ∧ entry.2.id.key? = some entry.1 := by
  cases holds with
  | image file parsed accepted hashed =>
    refine ⟨?_, hashed⟩
    simp only [readDocument, at_place, Tree.read, file, parsed, accepted]

theorem mapping_of_entries? {value : Value} {entries : Entries} (shape : value.entries? = some entries) :
    value = .mapping entries := by
  cases value <;> cases shape
  rfl

/-- What is at the place of a document holds an image or does not. -/
theorem holds_or_spoils {disk : Disk} {title : Title} (there : disk.tree.exists? (placed title) = true) :
    (∃ entry, Holds disk title entry) ∨ ∃ fault, Spoils disk title fault := by
  cases at_place : disk.tree.node? (placed title) with
  | none => simp [Tree.exists?, at_place] at there
  | some node =>
    cases node with
    | folder => exact .inr ⟨_, .folder at_place⟩
    | file text =>
      cases parsed : disk.format.read text with
      | error failed =>
        cases failed with
        | malformed => exact .inr ⟨_, .unreadable at_place parsed⟩
        | scalar fault => exact .inr ⟨fault, .scalar at_place parsed⟩
      | ok value =>
        cases shape : value.entries? with
        | none => exact .inr ⟨_, .shapeless at_place parsed shape⟩
        | some entries =>
          obtain rfl := mapping_of_entries? shape
          cases accepted : Image.ofDocument (.mapping entries) with
          | error fault => exact .inr ⟨fault, .refused at_place parsed accepted⟩
          | ok image =>
            cases hashed : image.id.key? with
            | none => exact .inr ⟨_, .unhashed at_place parsed accepted hashed⟩
            | some key => exact .inl ⟨(key, image), .image at_place parsed accepted hashed⟩

/-- A document that holds none cannot be read, or its image has no key. -/
theorem readDocument_of_spoils {disk : Disk} {title : Title} {fault : Fault}
    (at_place : (titled title).location = placed title) (spoils : Spoils disk title fault) :
    readDocument disk (titled title) = .error fault ∨
      ∃ image, readDocument disk (titled title) = .ok image ∧ image.id.key? = none ∧ fault = .type := by
  cases spoils with
  | folder there =>
    left
    simp only [readDocument, at_place, Tree.read, there]
  | unreadable file failed =>
    left
    simp only [readDocument, at_place, Tree.read, file, failed]
  | scalar file failed =>
    left
    simp only [readDocument, at_place, Tree.read, file, failed]
  | @shapeless text value file parsed shape =>
    left
    simp only [readDocument, at_place, Tree.read, file, parsed]
    cases value <;> first | rfl | cases shape
  | refused file parsed refused =>
    left
    simp only [readDocument, at_place, Tree.read, file, parsed, refused]
  | @unhashed text entries image file parsed accepted unhashed =>
    right
    refine ⟨image, ?_, unhashed, rfl⟩
    simp only [readDocument, at_place, Tree.read, file, parsed, accepted]

theorem Holds.unique {disk : Disk} {title : Title} {entry other : ObjectKey × Image}
    (holds : Holds disk title entry) (again : Holds disk title other) : entry = other := by
  cases holds with
  | image file parsed accepted hashed =>
    cases again with
    | image other_file other_parsed other_accepted other_hashed =>
      rw [file] at other_file
      cases other_file
      rw [parsed] at other_parsed
      cases other_parsed
      rw [accepted] at other_accepted
      cases other_accepted
      rw [hashed] at other_hashed
      cases other_hashed
      rfl

theorem not_holds_of_spoils {disk : Disk} {title : Title} {fault : Fault} {entry : ObjectKey × Image}
    (at_place : (titled title).location = placed title) (spoils : Spoils disk title fault) :
    ¬ Holds disk title entry := by
  intro holds
  obtain ⟨read, hashed⟩ := readDocument_of_holds at_place holds
  rcases readDocument_of_spoils at_place spoils with failed | ⟨image, other, unhashed, _⟩
  · rw [read] at failed
    cases failed
  · rw [read] at other
    obtain rfl := Except.ok.inj other
    rw [hashed] at unhashed
    cases unhashed

theorem Takes.nothing (depot : Depot) (result : Except Fault Unit) {notes : List Note}
    (silent : notes.filter Note.isFired = []) : Takes depot [] ⟨result, depot, notes⟩ :=
  ⟨rfl, fun _ => rfl, rfl, rfl, silent, rfl⟩

/-- A store that takes an image in and then others. -/
theorem Takes.cons {depot middle : Depot} {key : ObjectKey} {image : Image} {notes : List Note}
    {entries : List (ObjectKey × Image)} {outcome : Outcome Depot Unit}
    (put : middle = ⟨depot.objects.put key image, (depot.audience.fire .added image.id image).1, depot.disk⟩)
    (told : notes.filter Note.isFired = (depot.audience.registered .added).map fun registration =>
      Note.fired registration.listener .added image.id image)
    (takes : Takes middle entries outcome) :
    Takes depot ((key, image) :: entries) ⟨outcome.result, outcome.state, notes ++ outcome.notes⟩ := by
  subst put
  have objects : outcome.state.objects = depot.objects.putAll ((key, image) :: entries) := takes.objects
  refine ⟨objects, ?_, ?_, takes.audience, ?_, takes.disk⟩
  · intro asked
    rw [objects, Catalog.get?_putAll]
  · rw [objects, Catalog.map_putAll]
  · rw [List.filter_append, told, takes.told]
    rfl

theorem loadDocument_of_holds {disk : Disk} {title : Title} {key : ObjectKey} {image : Image}
    (at_place : (titled title).location = placed title) (holds : Holds disk title (key, image)) (depot : Depot) :
    ∃ notes, loadDocument disk (titled title) depot = ⟨.ok (),
        ⟨depot.objects.put key image, (depot.audience.fire .added image.id image).1, depot.disk⟩, notes⟩ ∧
      notes.filter Note.isFired = (depot.audience.registered .added).map fun registration =>
        Note.fired registration.listener .added image.id image := by
  obtain ⟨read, hashed⟩ := readDocument_of_holds at_place holds
  have told := fire_fired .added image { depot with objects := depot.objects.put key image }
  rw [loadDocument, Attempt.of_then read, addObject, Attempt.of_then (keyOf_of hashed)]
  exact ⟨_, rfl, told⟩

theorem loadDocument_of_spoils {disk : Disk} {title : Title} {fault : Fault}
    (at_place : (titled title).location = placed title) (spoils : Spoils disk title fault) (depot : Depot) :
    ∃ notes, loadDocument disk (titled title) depot = ⟨.error fault, depot, notes⟩ ∧
      notes.filter Note.isFired = [] := by
  rcases readDocument_of_spoils at_place spoils with failed | ⟨image, read, unhashed, rfl⟩
  · rw [loadDocument, failed]
    exact ⟨[], rfl, rfl⟩
  · rw [loadDocument, Attempt.of_then read, addObject, keyOf_of_none unhashed]
    exact ⟨_, rfl, rfl⟩

/-- One document after the other, as long as they hold images. -/
theorem loadAll_folds {disk : Disk} {titles : List Title}
    (at_place : ∀ title ∈ titles, (titled title).location = placed title)
    (there : ∀ title ∈ titles, disk.tree.exists? (placed title) = true) (depot : Depot) :
    Folds disk depot titles (loadAll disk (titles.map titled) depot) := by
  induction titles generalizing depot with
  | nil => exact .all .nil rfl (.nothing depot (.ok ()) rfl)
  | cons title rest ih =>
    have first_place := at_place title List.mem_cons_self
    have rest_place (other : Title) (later : other ∈ rest) := at_place other (List.mem_cons_of_mem title later)
    have rest_there (other : Title) (later : other ∈ rest) := there other (List.mem_cons_of_mem title later)
    rw [List.map_cons, loadAll]
    rcases holds_or_spoils (there title List.mem_cons_self) with ⟨⟨key, image⟩, holds⟩ | ⟨fault, spoils⟩
    · obtain ⟨notes, ran, told⟩ := loadDocument_of_holds first_place holds depot
      rw [Attempt.bind_of_ok ran]
      cases ih rest_place rest_there _ with
      | all later done takes => exact .all (.cons holds later) done (takes.cons rfl told)
      | @stopped before after bad entries fault split later spoils failed takes =>
        have way : title :: rest = (title :: before) ++ bad :: after := congrArg (title :: ·) split
        exact .stopped way (.cons holds later) spoils failed (takes.cons rfl told)
    · obtain ⟨notes, ran, silent⟩ := loadDocument_of_spoils first_place spoils depot
      rw [Attempt.bind_of_error ran]
      exact .stopped (List.nil_append _).symm .nil spoils rfl (.nothing depot (.error fault) silent)

theorem holds_of_all {disk : Disk} {titles : List Title} {entries : List (ObjectKey × Image)}
    (holds : List.Forall₂ (Holds disk) titles entries) : ∀ title ∈ titles, ∃ entry, Holds disk title entry := by
  intro title listed
  induction holds with
  | nil => cases listed
  | @cons first entry rest entries held later ih =>
    rcases List.mem_cons.mp listed with rfl | further
    · exact ⟨entry, held⟩
    · exact ih further

theorem Folds.ok_iff {disk : Disk} {depot : Depot} {titles : List Title} {outcome : Outcome Depot Unit}
    (at_place : ∀ title ∈ titles, (titled title).location = placed title) (folds : Folds disk depot titles outcome) :
    outcome.result = .ok () ↔ ∀ title ∈ titles, ∃ entry, Holds disk title entry := by
  cases folds with
  | all holds done takes => exact ⟨fun _ => holds_of_all holds, fun _ => done⟩
  | @stopped before after bad entries fault split holds spoils failed takes =>
    have listed : bad ∈ titles := by simp [split]
    rw [failed]
    refine ⟨nofun, fun readable => ?_⟩
    obtain ⟨entry, held⟩ := readable bad listed
    exact absurd held (not_holds_of_spoils (at_place bad listed) spoils)

/-- Loading visits the documents of the tree in order and takes in what they hold, up to the first that holds nothing;
it succeeds where all of them hold an image, and changes no file. -/
theorem load_folds {depot : Depot} {disk : Disk} (kept : depot.disk = some disk) (proper : disk.tree.Proper) :
    Lists disk.tree (titles disk.tree) ∧ Folds disk depot (titles disk.tree) (load depot) ∧
      ((load depot).result = .ok () ↔ ∀ title ∈ titles disk.tree, ∃ entry, Holds disk title entry) := by
  have lists := lists_titles proper
  have there (title : Title) (listed : title ∈ titles disk.tree) := ((lists.mem title).mp listed).1
  have at_place (title : Title) (listed : title ∈ titles disk.tree) := location_titled proper (there title listed)
  have all : load depot = loadAll disk ((titles disk.tree).map titled) depot := by
    rw [load, Attempt.read_then, kept, ← documentPaths_eq]
  have folds := loadAll_folds at_place there depot
  rw [← all] at folds
  exact ⟨lists, folds, folds.ok_iff at_place⟩

end Depot

namespace Session.Trial

open Depot

/-- A document beside a file that was left behind, files too high and too deep, and a folder that is named like a
document. -/
def jumbled : Disk where
  tree := ⟨[([Path.rootName], .folder), ([Path.rootName, "m.yaml"], .file "- 1"), ([Path.rootName, "s"], .folder),
    ([Path.rootName, "s", "m.yaml"], .file page), ([Path.rootName, "s", "m.yaml.tmp"], .file ""),
    ([Path.rootName, "t"], .folder), ([Path.rootName, "t", "n.yaml"], .folder),
    ([Path.rootName, "t", "n.yaml", "o.yaml"], .file "- 1")]⟩
  format := Yaml.format

theorem titles_jumbled : titles jumbled.tree = [("s", "m.yaml"), ("t", "n.yaml")] := by
  rw [titles, Tree.pairsBelow, List.mergeSort_of_pairwise (by decide)]
  decide

theorem holds_jumbled : Depot.Holds jumbled ("s", "m.yaml") (key "m", importing) := by
  have parsed := restores_importing
  rw [Format.Restores, write_importing] at parsed
  exact .image rfl parsed reads_importing rfl

theorem not_holds_jumbled (entry : ObjectKey × Image) : ¬ Depot.Holds jumbled ("t", "n.yaml") entry :=
  not_holds_of_spoils rfl (.folder rfl : Spoils jumbled ("t", "n.yaml") _)

end Session.Trial

namespace Depot

open Session.Trial

theorem load_folds_of_jumbled :
    jumbled.tree.Proper ∧ titles jumbled.tree = [("s", "m.yaml"), ("t", "n.yaml")] ∧
      (load (empty (some jumbled))).result = .error (.file .isFolder) ∧
      (load (empty (some jumbled))).state.objects = [(key "m", importing)] := by
  have proper : jumbled.tree.Proper := ⟨by decide, by decide⟩
  refine ⟨proper, titles_jumbled, ?_⟩
  obtain ⟨-, folds, -⟩ := @load_folds (empty (some jumbled)) jumbled rfl proper
  rw [titles_jumbled] at folds
  cases folds with
  | all holds done takes =>
    obtain ⟨entry, held⟩ := holds_of_all holds ("t", "n.yaml") (by simp)
    exact absurd held (not_holds_jumbled entry)
  | @stopped before after bad entries fault split holds spoils failed takes =>
    rcases before with _ | ⟨first, _ | ⟨second, others⟩⟩
    · obtain ⟨rfl, -⟩ := List.cons.inj split
      exact absurd holds_jumbled (not_holds_of_spoils rfl spoils)
    · obtain ⟨rfl, rest⟩ := List.cons.inj split
      obtain ⟨rfl, -⟩ := List.cons.inj rest
      rcases holds with _ | ⟨held, _ | _⟩
      obtain rfl := held.unique holds_jumbled
      rw [failed, takes.objects]
      have there : jumbled.tree.node? (placed ("t", "n.yaml")) = some .folder := rfl
      cases spoils with
      | folder _ => exact ⟨rfl, rfl⟩
      | unreadable file _ | scalar file _ | shapeless file _ _ | refused file _ _ | unhashed file _ _ _ =>
        rw [there] at file
        cases file
    · obtain ⟨rfl, rest⟩ := List.cons.inj split
      obtain ⟨rfl, none⟩ := List.cons.inj rest
      simp at none

end Depot

end ImageOperator
