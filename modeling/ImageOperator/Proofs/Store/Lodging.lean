import ImageOperator.Proofs.Disk.Path
import ImageOperator.Proofs.Image.Document

set_option autoImplicit false

/-!
Where the documents of accepted images lie. Any two texts that are not empty are accepted for a namespace and a name,
and are joined to a path as they are. They lead to a folder and a file of their own, where documents are looked for,
exactly if neither has a slash and the folder is not one or two dots.
-/

namespace ImageOperator

namespace Image

/-- A new image that is called by two texts. -/
def called (space name : String) : Image where
  name := .text name
  space := .text space
  spec := ⟨"w", "b", "o", "r", defaultTier⟩
  status := Status.fresh
  finalizers := []
  deletion := .null

/-- Whether some document is accepted as that of an image called by the texts. -/
def Accepted (space name : String) : Prop :=
  ∃ document image, ofDocument document = .ok image ∧ image.id = ⟨kind, .text space, .text name⟩

theorem isWhole_called {space name : String} (folder : space ≠ "") (file : name ≠ "") :
    (called space name).isWhole = true := by
  have placed := Value.text_isTrue folder
  have named := Value.text_isTrue file
  simp [called, isWhole, placed, named]

/-- Nothing is asked of a namespace and a name but that there is something of each. -/
theorem accepted_iff (space name : String) : Accepted space name ↔ space ≠ "" ∧ name ≠ "" := by
  constructor
  · rintro ⟨document, image, read, same⟩
    have whole := isWhole_of_document read
    simp only [isWhole, Bool.and_eq_true] at whole
    have named : image.name = .text name := congrArg ObjectId.name same
    have placed : image.space = .text space := congrArg ObjectId.space same
    have full := whole.1.1.1.1
    rw [named, placed] at full
    simpa [Value.isTrue, and_comm] using full
  · rintro ⟨folder, file⟩
    exact ⟨_, called space name, ofDocument_document (isWhole_called folder file) (.inr rfl), rfl⟩

end Image

namespace Depot

theorem isStep_of_documentPath {kind space name : String} {path : Path}
    (found : documentPath ⟨kind, .text space, .text name⟩ = .ok path) :
    ∀ part ∈ path.location, Path.isStep part = true := by
  obtain rfl := Except.ok.inj found
  have root : ∀ part ∈ Path.root.parts, Path.isStep part = true := nofun
  exact fun part => Path.isStep_of_location (Path.isStep_of_join (Path.isStep_of_join root space) _)

theorem isSafe_of_steps {folder stem : String} (folder_step : Path.isStep folder = true)
    (file_step : Path.isStep (stem ++ documentSuffix) = true) (proper : folder ≠ "..") : isSafe folder stem = true := by
  simp only [Path.isStep, Bool.and_eq_true, Bool.not_eq_true', String.toList_append, List.contains_eq_mem,
    List.mem_append, not_or, decide_eq_false_iff_not, decide_eq_true_eq] at folder_step file_step
  simp [isSafe, folder_step, file_step, proper]

/-- Where the document of an image lies that is called by two texts, as against the place of its own: the folder of the
namespace, and in it the file of the name. -/
structure Lodges (space name : String) (path : Path) : Prop where
  accepted : Image.Accepted space name ↔ space ≠ "" ∧ name ≠ ""
  own : path.location = place space name ↔ isSafe space name = true
  /-- In its own place the document is looked for. -/
  sought : isSafe space name = true → ∀ tree, path ∈ documentPaths tree ↔ tree.exists? path.location = true
  /-- Two images with places of their own never have the same. -/
  apart : isSafe space name = true → ∀ otherSpace otherName otherPath, isSafe otherSpace otherName = true →
    documentPath ⟨Image.kind, .text otherSpace, .text otherName⟩ = .ok otherPath →
    otherPath.location = path.location → otherSpace = space ∧ otherName = name
  /-- A document without a place of its own lies in no folder right below the root, or else in the place that is another
  one's own. -/
  astray : isSafe space name = false → ∀ folder file, path.location = [Path.rootName, folder, file] →
    ∃ stem, file = stem ++ documentSuffix ∧ isSafe folder stem = true ∧ (folder ≠ space ∨ stem ≠ name)

theorem location_of_isSafe {kind space name : String} {path : Path} (safe : isSafe space name = true)
    (found : documentPath ⟨kind, .text space, .text name⟩ = .ok path) :
    path = ⟨false, [space, name ++ documentSuffix]⟩ ∧ path.location = place space name := by
  obtain rfl := Except.ok.inj ((documentPath_of_isSafe safe kind).symm.trans found)
  exact ⟨rfl, location_of_document (own_of_isSafe safe) name⟩

/-- A file in a folder right below the root lies in the place of its own of some image. -/
theorem safe_of_location {kind space name folder file : String} {path : Path}
    (found : documentPath ⟨kind, .text space, .text name⟩ = .ok path)
    (below : path.location = [Path.rootName, folder, file]) :
    ∃ stem, file = stem ++ documentSuffix ∧ isSafe folder stem = true := by
  have steps := isStep_of_documentPath found
  have proper := Path.not_mem_location path
  obtain ⟨parts, last, ends, named⟩ := documentPath_parts found
  have ending := Path.location_of_parts ends (proper_of_namesDocument named)
  rw [below] at ending
  obtain rfl : file = last := by simpa using congrArg List.getLast? ending
  obtain ⟨stem, rfl⟩ := eq_of_namesDocument named
  rw [below] at steps proper
  refine ⟨stem, rfl, isSafe_of_steps (steps folder (by simp)) (steps _ (by simp)) ?_⟩
  rintro rfl
  exact proper (by simp)

theorem documents_lodge (space name : String) :
    ∃ path, documentPath ⟨Image.kind, .text space, .text name⟩ = .ok path ∧ Lodges space name path := by
  obtain ⟨path, found⟩ : ∃ path, documentPath ⟨Image.kind, .text space, .text name⟩ = .ok path := ⟨_, rfl⟩
  have own : path.location = place space name ↔ isSafe space name = true := by
    refine ⟨fun lies => ?_, fun safe => (location_of_isSafe safe found).2⟩
    obtain ⟨stem, same, safe⟩ := safe_of_location found lies
    obtain rfl : name = stem := by simpa using same
    exact safe
  refine ⟨path, found, {
    accepted := Image.accepted_iff space name
    own
    sought := fun safe tree => ?_
    apart := fun safe otherSpace otherName otherPath other_safe other_found same => ?_
    astray := fun crossing folder file below => ?_ }⟩
  · obtain ⟨path_eq, lies⟩ := location_of_isSafe safe found
    rw [lies, mem_documentPaths]
    refine ⟨?_, fun there => ⟨space, name, path_eq, there⟩⟩
    rintro ⟨folder, stem, same, there⟩
    rw [path_eq] at same
    obtain ⟨rfl, rfl⟩ : space = folder ∧ name = stem := by simpa using same
    exact there
  · rw [(location_of_isSafe safe found).2, (location_of_isSafe other_safe other_found).2] at same
    exact place_inj same
  · obtain ⟨stem, file_eq, safe⟩ := safe_of_location found below
    refine ⟨stem, file_eq, safe, ?_⟩
    by_cases folder_eq : folder = space
    · refine .inr fun stem_eq => ?_
      rw [folder_eq, stem_eq, crossing] at safe
      cases safe
    · exact .inl folder_eq

/-- Two images are accepted whose documents lie in one file, two folders below the root, where none is looked for; and
one whose document lies outside the root. -/
theorem slashed_documents_unsought :
    let slashed := Image.called "s" "a/b"
    let twin := Image.called "s/a" "b"
    let outer := Image.called "/etc" "m"
    let path : Path := ⟨false, ["s", "a", "b.yaml"]⟩
    let outside : Path := ⟨true, ["etc", "m.yaml"]⟩
    (∀ image ∈ [slashed, twin, outer], Image.ofDocument image.document = .ok image) ∧
      slashed.id.key? ≠ twin.id.key? ∧
      documentPath slashed.id = .ok path ∧ documentPath twin.id = .ok path ∧
      path.location = [Path.rootName, "s", "a", "b.yaml"] ∧ (∀ tree, path ∉ documentPaths tree) ∧
      documentPath outer.id = .ok outside ∧ outside.location = ["etc", "m.yaml"] ∧
      ∀ tree, outside ∉ documentPaths tree := by
  intro slashed twin outer path outside
  refine ⟨?_, by decide, rfl, rfl, rfl, fun tree sought => ?_, rfl, rfl, fun tree sought => ?_⟩
  · intro image held
    simp only [List.mem_cons, List.not_mem_nil, or_false] at held
    rcases held with rfl | rfl | rfl
    all_goals exact Image.ofDocument_document (Image.isWhole_called (by decide) (by decide)) (.inr rfl)
  · obtain ⟨_, _, same, _⟩ := mem_documentPaths.mp sought
    have short : 3 = 2 := congrArg (·.parts.length) same
    cases short
  · obtain ⟨_, _, same, _⟩ := mem_documentPaths.mp sought
    have relative : true = false := congrArg Path.absolute same
    cases relative

end Depot

end ImageOperator
