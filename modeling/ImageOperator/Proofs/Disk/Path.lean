import ImageOperator.Proofs.Disk.Tree
import ImageOperator.Store.Depot

set_option autoImplicit false

/-!
Where the documents of objects lie. Whatever slashes and dots a name has, the last part of its path is a file name
with the suffix of documents, and the temporary file lies beside it.
-/

namespace ImageOperator

namespace Path

theorem split_of_slashless {text : List Char} (slashless : '/' ∉ text) : split text = [text] := by
  induction text with
  | nil => rfl
  | cons c rest ih =>
    have other : c ≠ '/' := fun slash => slashless (slash ▸ List.mem_cons_self)
    have slashless_rest : '/' ∉ rest := fun held => slashless (List.mem_cons_of_mem c held)
    simp only [split, other, ↓reduceIte, ih slashless_rest]

theorem split_slashless {text part : List Char} (held : part ∈ split text) : '/' ∉ part := by
  induction text generalizing part with
  | nil =>
    obtain rfl := List.mem_singleton.mp held
    exact List.not_mem_nil
  | cons c rest ih =>
    by_cases slash : c = '/'
    · simp only [split, slash, ↓reduceIte, List.mem_cons] at held
      rcases held with rfl | later
      · exact List.not_mem_nil
      · exact ih later
    · simp only [split, slash, ↓reduceIte] at held
      split at held
      · obtain rfl := List.mem_singleton.mp held
        simpa using Ne.symm slash
      · rename_i first others parts
        rcases List.mem_cons.mp held with rfl | later
        · have first_slashless := ih (parts ▸ List.mem_cons_self)
          simpa [first_slashless] using Ne.symm slash
        · exact ih (parts ▸ List.mem_cons_of_mem _ later)

/-- What has no slash and stands at the end of a text goes to its last part. -/
theorem split_ends (text : List Char) :
    ∃ parts last, ∀ suffix : List Char, '/' ∉ suffix → split (text ++ suffix) = parts ++ [last ++ suffix] := by
  induction text with
  | nil => exact ⟨[], [], fun suffix slashless => split_of_slashless slashless⟩
  | cons c rest ih =>
    obtain ⟨parts, last, ends⟩ := ih
    by_cases slash : c = '/'
    · refine ⟨[] :: parts, last, fun suffix slashless => ?_⟩
      simp only [List.cons_append, split, slash, ↓reduceIte, ends suffix slashless]
    · cases parts with
      | nil =>
        refine ⟨[], c :: last, fun suffix slashless => ?_⟩
        simp only [List.cons_append, split, slash, ↓reduceIte, ends suffix slashless, List.nil_append]
      | cons first others =>
        refine ⟨(c :: first) :: others, last, fun suffix slashless => ?_⟩
        simp only [List.cons_append, split, slash, ↓reduceIte, ends suffix slashless]

/-- Whether a part of a path tells where it goes. -/
def tells (part : List Char) : Bool :=
  part ≠ [] && part ≠ ['.']

theorem partsOf_eq (text : String) : partsOf text = ((split text.toList).filter tells).map String.ofList := rfl

theorem tells_of_long {part : List Char} (long : 2 ≤ part.length) : tells part = true := by
  rcases part with _ | ⟨first, _ | ⟨second, rest⟩⟩
  · cases long
  · exact absurd long (by simp)
  · simp [tells]

theorem partsOf_of_slashless {text : String} (slashless : '/' ∉ text.toList) (tells : tells text.toList = true) :
    partsOf text = [text] := by
  rw [partsOf_eq, split_of_slashless slashless, List.filter_cons_of_pos tells]
  simp

theorem join_of_slashless (path : Path) {text : String} (slashless : '/' ∉ text.toList)
    (tells : Path.tells text.toList = true) : path.join text = { path with parts := path.parts ++ [text] } := by
  have relative : isAbsolute text = false := by
    unfold isAbsolute
    cases chars : text.toList with
    | nil => rfl
    | cons first rest =>
      have other : first ≠ '/' := fun slash => slashless (chars ▸ slash ▸ List.mem_cons_self)
      simp [List.isPrefixOf, other.symm]
  rw [join, relative, if_neg nofun, partsOf_of_slashless slashless tells]

theorem location_of_parts {path : Path} {parts : List String} {name : String} (ends : path.parts = parts ++ [name])
    (proper : name ≠ "..") : path.location = path.parent.location ++ [name] := by
  simp only [location, parent, ends, List.dropLast_concat, List.foldl_append, List.foldl_cons, List.foldl_nil, enter,
    proper, ↓reduceIte]

theorem foldl_enter_of_down {parts : List String} (down : ".." ∉ parts) (reached : Location) :
    parts.foldl enter reached = reached ++ parts := by
  induction parts generalizing reached with
  | nil => exact (List.append_nil reached).symm
  | cons part rest ih =>
    rw [List.mem_cons, not_or] at down
    obtain ⟨proper, down_rest⟩ := down
    simp only [List.foldl_cons, enter, Ne.symm proper, ↓reduceIte, ih down_rest, List.append_assoc,
      List.singleton_append]

/-- A path that never goes up is its own location. -/
theorem location_of_down {path : Path} (relative : path.absolute = false) (down : ".." ∉ path.parts) :
    path.location = rootName :: path.parts := by
  rw [location, relative, foldl_enter_of_down down]
  rfl

/-- Whatever lies above the end of a path lies above its start or was reached on the way, however often the path goes
up. -/
theorem front_of_above {start above : Location} {parts : List String} (held : above <+: parts.foldl enter start) :
    above <+: start ∨ ∃ front, front <+: parts ∧ front.foldl enter start = above := by
  induction parts generalizing start with
  | nil => exact .inl held
  | cons part rest ih =>
    rcases ih held with first | ⟨front, way, reached⟩
    · by_cases up : part = ".."
      · rw [enter, if_pos up] at first
        exact .inl (first.trans (List.dropLast_prefix _))
      · have moved := first
        rw [enter, if_neg up, List.prefix_concat_iff] at moved
        rcases moved with here | before
        · exact .inr ⟨[part], ⟨rest, rfl⟩, by rw [List.foldl_cons, List.foldl_nil, enter, if_neg up, here]⟩
        · exact .inl before
    · exact .inr ⟨part :: front, List.cons_prefix_cons.mpr ⟨rfl, way⟩, reached⟩

theorem not_mem_foldl_enter {parts : List String} {reached : Location} (down : ".." ∉ reached) :
    ".." ∉ parts.foldl enter reached := by
  induction parts generalizing reached with
  | nil => exact down
  | cons part rest ih =>
    refine ih ?_
    unfold enter
    split
    · exact fun held => down (List.dropLast_subset _ held)
    · rename_i proper
      simpa [down] using Ne.symm proper

theorem mem_of_foldl_enter {part : String} {parts : List String} {reached : Location}
    (held : part ∈ parts.foldl enter reached) : part ∈ reached ∨ part ∈ parts := by
  induction parts generalizing reached with
  | nil => exact .inl held
  | cons first rest ih =>
    rcases ih held with before | later
    · unfold enter at before
      split at before
      · exact .inl (List.dropLast_subset _ before)
      · rcases List.mem_append.mp before with start | here
        · exact .inl start
        · exact .inr (List.mem_singleton.mp here ▸ List.mem_cons_self)
    · exact .inr (List.mem_cons_of_mem _ later)

/-- Names that make one step of a path each. -/
def isStep (part : String) : Bool :=
  !part.toList.contains '/' && part ≠ "" && part ≠ "."

theorem isStep_of_partsOf {text part : String} (held : part ∈ partsOf text) : isStep part = true := by
  rw [partsOf_eq] at held
  obtain ⟨chars, kept, rfl⟩ := List.mem_map.mp held
  obtain ⟨split, tells⟩ := List.mem_filter.mp kept
  have slashless := split_slashless split
  have dot : String.ofList chars = "." ↔ chars = ['.'] := by
    rw [← String.toList_inj, String.toList_ofList]
    rfl
  simp only [Path.tells, Bool.and_eq_true, decide_eq_true_eq] at tells
  simp [isStep, slashless, tells.1, dot, tells.2]

theorem isStep_of_join {path : Path} (steps : ∀ part ∈ path.parts, isStep part = true) (text : String) :
    ∀ part ∈ (path.join text).parts, isStep part = true := by
  intro part held
  unfold join at held
  split at held
  · exact isStep_of_partsOf held
  · rcases List.mem_append.mp held with before | here
    · exact steps part before
    · exact isStep_of_partsOf here

theorem isStep_of_location {path : Path} (steps : ∀ part ∈ path.parts, isStep part = true) {part : String}
    (held : part ∈ path.location) : isStep part = true := by
  rcases mem_of_foldl_enter held with start | later
  · split at start
    · cases start
    · obtain rfl := List.mem_singleton.mp start
      decide
  · exact steps part later

/-- Locations have no double dots left. -/
theorem not_mem_location (path : Path) : ".." ∉ path.location := by
  refine not_mem_foldl_enter ?_
  split <;> decide

end Path

namespace Depot

open ImageOperator.Path (partsOf)

/-- Whether a file of the name is taken for a document. -/
def namesDocument (name : String) : Bool :=
  documentSuffix.toList.isSuffixOf name.toList

theorem namesDocument_append (name : String) : namesDocument (name ++ documentSuffix) = true := by
  simp [namesDocument, String.toList_append]

theorem eq_of_namesDocument {name : String} (named : namesDocument name = true) :
    ∃ stem, name = stem ++ documentSuffix := by
  obtain ⟨stem, same⟩ := List.isSuffixOf_iff_suffix.mp named
  refine ⟨String.ofList stem, String.toList_inj.mp ?_⟩
  rw [String.toList_append, String.toList_ofList, same]

theorem proper_of_namesDocument {name : String} (named : namesDocument name = true) : name ≠ ".." := by
  rintro rfl
  revert named
  decide

theorem proper_temporary (name : String) : name ++ temporarySuffix ≠ ".." := by
  intro same
  have long := congrArg (·.toList.length) same
  simp only [String.toList_append, List.length_append] at long
  have four : temporarySuffix.toList.length = 4 := by decide
  have two : "..".toList.length = 2 := by decide
  omega

theorem not_namesDocument_temporary (name : String) : namesDocument (name ++ temporarySuffix) = false := by
  cases named : namesDocument (name ++ temporarySuffix) with
  | false => rfl
  | true =>
    rw [namesDocument, List.isSuffixOf_iff_suffix, String.toList_append] at named
    obtain ⟨before, same⟩ := named
    have document : documentSuffix.toList.getLast? = some 'l' := by decide
    have temporary : temporarySuffix.toList.getLast? = some 'p' := by decide
    have last := congrArg List.getLast? same
    rw [List.getLast?_append, List.getLast?_append, document, temporary] at last
    cases last

theorem partsOf_append (name : String) :
    ∃ parts last, partsOf (name ++ documentSuffix) = parts ++ [last] ∧ namesDocument last = true := by
  obtain ⟨parts, last, ends⟩ := Path.split_ends name.toList
  have split := ends documentSuffix.toList (by decide)
  have suffixed : documentSuffix.toList.isSuffixOf (last ++ documentSuffix.toList) = true := by simp
  have kept : Path.tells (last ++ documentSuffix.toList) = true := by
    have long : 2 ≤ (last ++ documentSuffix.toList).length := by
      rw [List.length_append]
      exact Nat.le_add_left_of_le (by decide)
    exact Path.tells_of_long long
  refine ⟨(parts.filter Path.tells).map String.ofList, String.ofList (last ++ documentSuffix.toList), ?_, ?_⟩
  · rw [Path.partsOf_eq, String.toList_append, split, List.filter_append, List.map_append,
      List.filter_cons_of_pos kept]
    rfl
  · rw [namesDocument, String.toList_ofList, suffixed]

theorem join_document (path : Path) (name : String) :
    ∃ parts last, (path.join (name ++ documentSuffix)).parts = parts ++ [last] ∧ namesDocument last = true := by
  obtain ⟨parts, last, ends, named⟩ := partsOf_append name
  unfold Path.join
  split
  · exact ⟨parts, last, ends, named⟩
  · exact ⟨path.parts ++ parts, last, by simp only [ends, List.append_assoc], named⟩

theorem documentPath_parts {id : ObjectId} {path : Path} (found : documentPath id = .ok path) :
    ∃ parts last, path.parts = parts ++ [last] ∧ namesDocument last = true := by
  unfold documentPath at found
  split at found
  · split at found
    · cases found
      exact join_document _ _
    · split at found
      · cases found
      · cases found
        exact join_document _ _
  · cases found

theorem temporaryPath_parts {path : Path} {parts : List String} {name : String} (ends : path.parts = parts ++ [name]) :
    (temporaryPath path).parts = parts ++ [name ++ temporarySuffix] := by
  simp only [temporaryPath, Path.withSuffix, ends, List.getLast?_concat, List.dropLast_concat]

/-- Locations of documents, in whatever folder. -/
def isDocument (location : Location) : Bool :=
  location.getLast?.any namesDocument

/-- What is written beside a document first is no document. -/
theorem not_isDocument_temporary {id : ObjectId} {path : Path} (found : documentPath id = .ok path) :
    isDocument (temporaryPath path).location = false := by
  obtain ⟨parts, last, ends, named⟩ := documentPath_parts found
  rw [Path.location_of_parts (temporaryPath_parts ends) (proper_temporary last)]
  simp [isDocument, not_namesDocument_temporary]

/-- Where the document of an object lies if namespace and name make one part of its path each. -/
def place (space name : String) : Location :=
  [Path.rootName, space, name ++ documentSuffix]

theorem place_inj {space name otherSpace otherName : String} (same : place space name = place otherSpace otherName) :
    space = otherSpace ∧ name = otherName := by
  simpa [place] using same

theorem isDocument_place (space name : String) : isDocument (place space name) = true := by
  simp [isDocument, place, namesDocument_append]

theorem documentPath_of_slashless {kind space name : String} (name_slashless : '/' ∉ name.toList)
    (space_slashless : '/' ∉ space.toList) (tells : Path.tells space.toList = true) :
    documentPath ⟨kind, .text space, .text name⟩ = .ok ⟨false, [space, name ++ documentSuffix]⟩ := by
  have slashless : '/' ∉ (name ++ documentSuffix).toList := by
    have suffix : '/' ∉ documentSuffix.toList := by decide
    simp [String.toList_append, name_slashless, suffix]
  have suffixed : Path.tells (name ++ documentSuffix).toList = true := by
    refine Path.tells_of_long ?_
    rw [String.toList_append, List.length_append]
    exact Nat.le_add_left_of_le (by decide)
  simp only [documentPath, Path.join_of_slashless _ space_slashless tells, Path.join_of_slashless _ slashless suffixed]
  rfl

/-- Whether the names of a folder and of a file in it are single parts of a path, and the folder is one of its own. -/
def isSafe (space name : String) : Bool :=
  !space.toList.contains '/' && !name.toList.contains '/' && space ≠ "" && space ≠ "." && space ≠ ".."

theorem own_of_isSafe {space name : String} (safe : isSafe space name = true) : space ≠ ".." := by
  simp only [isSafe, Bool.and_eq_true, decide_eq_true_eq] at safe
  exact safe.2

theorem documentPath_of_isSafe {space name : String} (safe : isSafe space name = true) (kind : String) :
    documentPath ⟨kind, .text space, .text name⟩ = .ok ⟨false, [space, name ++ documentSuffix]⟩ := by
  simp only [isSafe, Bool.and_eq_true, Bool.not_eq_true', List.contains_eq_mem, decide_eq_true_eq,
    decide_eq_false_iff_not] at safe
  obtain ⟨⟨⟨⟨space_slashless, name_slashless⟩, full⟩, here⟩, -⟩ := safe
  have chars : space.toList ≠ ['.'] := fun same => here (String.toList_inj.mp same)
  exact documentPath_of_slashless name_slashless space_slashless (by simp [Path.tells, full, chars])

theorem location_of_document {space : String} (own : space ≠ "..") (name : String) :
    (⟨false, [space, name ++ documentSuffix]⟩ : Path).location = place space name := by
  have proper := proper_of_namesDocument (namesDocument_append name)
  simp [Path.location, Path.enter, own, proper, place]

theorem location_cases (space name : String) :
    (⟨false, [space, name ++ documentSuffix]⟩ : Path).location = place space name ∨
      space = ".." ∧ (⟨false, [space, name ++ documentSuffix]⟩ : Path).location = [name ++ documentSuffix] := by
  by_cases above : space = ".."
  · subst above
    have proper := proper_of_namesDocument (namesDocument_append name)
    exact .inr ⟨rfl, by simp [Path.location, Path.enter, proper]⟩
  · exact .inl (location_of_document above name)

theorem mem_documentPaths {tree : Tree} {path : Path} :
    path ∈ documentPaths tree ↔
      ∃ space name, path = ⟨false, [space, name ++ documentSuffix]⟩ ∧ tree.exists? (place space name) = true := by
  simp only [documentPaths, List.mem_map, List.mem_filter]
  constructor
  · rintro ⟨⟨folder, file⟩, ⟨there, named⟩, rfl⟩
    obtain ⟨name, rfl⟩ := eq_of_namesDocument named
    exact ⟨folder, name, rfl, Tree.mem_pairsBelow.mp there⟩
  · rintro ⟨space, name, rfl, there⟩
    exact ⟨(space, name ++ documentSuffix), ⟨Tree.mem_pairsBelow.mpr there, namesDocument_append name⟩, rfl⟩

theorem isDocument_of_mem {tree : Tree} {path : Path} (there : path ∈ documentPaths tree) :
    isDocument path.location = true := by
  obtain ⟨space, name, rfl, -⟩ := mem_documentPaths.mp there
  have named := namesDocument_append name
  have ends : (⟨false, [space, name ++ documentSuffix]⟩ : Path).parts = [space] ++ [name ++ documentSuffix] := rfl
  rw [Path.location_of_parts ends (proper_of_namesDocument named)]
  simp [isDocument, named]

end Depot

end ImageOperator
