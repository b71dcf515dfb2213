import ImageOperator.Proofs.Disk.Path

set_option autoImplicit false

/-!
Trees with room for documents: folders and files keep to their depths, so that no step of writing or taking away a
document of a fitting name can fail.
-/

namespace ImageOperator

namespace Tree

/-- Below the root there are folders and in these there are files; the root is no file either. -/
structure Layered (tree : Tree) : Prop where
  root : ∀ text, tree.node? [Path.rootName] ≠ some (.file text)
  folders : ∀ space text, tree.node? [Path.rootName, space] ≠ some (.file text)
  files : ∀ space name, tree.node? [Path.rootName, space, name] ≠ some .folder

variable {tree : Tree}

theorem Layered.put_file (layered : tree.Layered) (space name text : String) :
    (tree.put [Path.rootName, space, name] (.file text)).Layered := by
  refine ⟨fun other => ?_, fun folder other => ?_, fun folder file => ?_⟩
  · rw [node?_put_of_ne tree (by simp)]
    exact layered.root other
  · rw [node?_put_of_ne tree (by simp)]
    exact layered.folders folder other
  · by_cases own : [Path.rootName, folder, file] = [Path.rootName, space, name]
    · rw [own, node?_put_self tree (by simp)]
      exact nofun
    · rw [node?_put_of_ne tree own]
      exact layered.files folder file

theorem Layered.erase (layered : tree.Layered) (location : Location) : (tree.erase location).Layered := by
  have less (other : Location) (node : Node) (held : (tree.erase location).node? other = some node) :
      tree.node? other = some node ∨ other = [] := by
    by_cases own : other = location
    · subst own
      by_cases top : other = []
      · exact .inr top
      · rw [node?_erase_self tree top] at held
        cases held
    · exact .inl (node?_erase_of_ne tree own ▸ held)
  refine ⟨fun text held => ?_, fun space text held => ?_, fun space name held => ?_⟩
  · exact (less _ _ held).elim (layered.root text) nofun
  · exact (less _ _ held).elim (layered.folders space text) nofun
  · exact (less _ _ held).elim (layered.files space name) nofun

/-- Folders can be made where no name is too long and no file is in the way. -/
theorem makeFolders_of_clear {reached : Location} {names : List String} (tree : Tree)
    (named : ∀ name ∈ names, checkName name = .ok ())
    (clear : ∀ front text, front ≠ [] → front <+: names → tree.node? (reached ++ front) ≠ some (.file text))
    (here : tree.node? reached = some .folder) :
    (tree.makeFolders reached names).1 = .ok () ∧
      (tree.makeFolders reached names).2.node? (reached ++ names) = some .folder := by
  induction names generalizing tree reached with
  | nil => exact ⟨rfl, (List.append_nil reached).symm ▸ here⟩
  | cons name rest ih =>
    have way (front : List String) : reached ++ name :: front = reached ++ [name] ++ front := by simp
    have named_rest (other : String) (later : other ∈ rest) := named other (List.mem_cons_of_mem _ later)
    unfold makeFolders
    rw [named name List.mem_cons_self, way rest]
    dsimp only
    cases there : tree.node? (reached ++ [name]) with
    | some node =>
      cases node with
      | file text => exact absurd there (clear [name] text (by simp) (by simp))
      | folder =>
        refine ih tree named_rest (fun front text _ above => ?_) there
        rw [← way front]
        exact clear _ text (by simp) ((List.prefix_cons_inj name).mpr above)
    | none =>
      refine ih _ named_rest (fun front text some above => ?_) (node?_put_self tree (by simp) _)
      have deeper : reached ++ [name] ++ front ≠ reached ++ [name] := by simpa using some
      rw [node?_put_of_ne tree deeper, ← way front]
      exact clear _ text (by simp) ((List.prefix_cons_inj name).mpr above)

theorem Layered.makeFolders (layered : tree.Layered) (space : String) :
    (tree.makeFolders [] [Path.rootName, space]).2.Layered := by
  have same (location : Location) := node?_makeFolders tree [] [Path.rootName, space] location
  refine ⟨fun text held => ?_, fun folder text held => ?_, fun folder name held => ?_⟩
  · rcases same [Path.rootName] with kept | ⟨_, made, _⟩
    · exact layered.root text (kept ▸ held)
    · rw [made] at held
      cases held
  · rcases same [Path.rootName, folder] with kept | ⟨_, made, _⟩
    · exact layered.folders folder text (kept ▸ held)
    · rw [made] at held
      cases held
  · rcases same [Path.rootName, folder, name] with kept | ⟨_, _, above⟩
    · exact layered.files folder name (kept ▸ held)
    · exact absurd above.length_le (by simp)

theorem checkName_of_append {name suffix : String} (fits : checkName (name ++ suffix) = .ok ()) :
    checkName name = .ok () := by
  have long : (name ++ suffix).utf8ByteSize = name.utf8ByteSize + suffix.utf8ByteSize := String.utf8ByteSize_append
  unfold checkName at fits ⊢
  split at fits
  · cases fits
  · rename_i clean
    split at fits
    · cases fits
    · rename_i short
      have clean_name : ¬ name.toList.contains '\x00' = true := by
        intro held
        simp only [String.toList_append, List.contains_eq_mem, List.mem_append, decide_eq_true_eq] at clean held
        exact clean (.inl held)
      rw [if_neg clean_name, if_neg (by omega)]

theorem checkPlace_of_folder {folder : Location} {name : String} (named : checkName name = .ok ())
    (there : tree.node? folder = some .folder) : tree.checkPlace (folder ++ [name]) = .ok () := by
  simp only [checkPlace, List.getLast?_concat, named, List.dropLast_concat, there]

variable {location source target : Location}

theorem truncate_of_free (free : tree.checkPlace location = .ok ()) (file : tree.node? location ≠ some .folder) :
    tree.truncate location = (.ok (), tree.put location (.file "")) := by
  simp only [truncate, free, isFolder, file, decide_false, Bool.false_eq_true, ↓reduceIte]

theorem replace_of_free {text : String} (there : tree.node? source = some (.file text))
    (free : tree.checkPlace target = .ok ()) (file : tree.node? target ≠ some .folder) :
    tree.replace source target = (.ok (), (tree.erase source).put target (.file text)) := by
  simp only [replace, there, free, isFolder, file, decide_false, Bool.false_eq_true, ↓reduceIte]

theorem remove_of_file {text : String} (there : tree.node? location = some (.file text)) :
    tree.remove location = (.ok (), tree.erase location) := by
  simp only [remove, there]

end Tree

namespace Depot

/-- Whether a folder and a file in it can have the names, with all that is added to them. -/
def fitsPlace (space name : String) : Bool :=
  isSafe space name && (Tree.checkName space).isOk && (Tree.checkName (name ++ documentSuffix ++ temporarySuffix)).isOk

/-- What a folder and a file that fit have to be. -/
structure Fits (space name : String) : Prop where
  safe : isSafe space name = true
  folder : Tree.checkName space = .ok ()
  temporary : Tree.checkName (name ++ documentSuffix ++ temporarySuffix) = .ok ()

theorem ok_of_isOk {α : Type} {result : Except α Unit} (done : result.isOk = true) : result = .ok () := by
  cases result with
  | error fault => cases done
  | ok => rfl

theorem fits_of_fitsPlace {space name : String} (fits : fitsPlace space name = true) : Fits space name := by
  simp only [fitsPlace, Bool.and_eq_true] at fits
  exact ⟨fits.1.1, ok_of_isOk fits.1.2, ok_of_isOk fits.2⟩

/-- The path of the document of a namespace and name. -/
def pathAt (space name : String) : Path :=
  ⟨false, [space, name ++ documentSuffix]⟩

variable {space : String}

theorem parent_pathAt (own : space ≠ "..") (name : String) :
    (pathAt space name).parent.location = [Path.rootName, space] :=
  Path.location_of_down rfl (by simpa [pathAt, Path.parent] using own.symm)

theorem beside_pathAt (own : space ≠ "..") (name : String) : (temporaryPath (pathAt space name)).location =
    [Path.rootName, space, name ++ documentSuffix ++ temporarySuffix] := by
  have proper := proper_temporary (name ++ documentSuffix)
  exact Path.location_of_down rfl (by simpa [pathAt, temporaryPath, Path.withSuffix] using ⟨own.symm, proper.symm⟩)

/-- A document is refused where what lies beside it cannot have its name. -/
theorem writeSteps_of_misnamed {name : String} {fault : FileFault} {before after : Tree} (own : space ≠ "..")
    (makes : before.step (.makeFolders [Path.rootName, space]) = (.ok (), after))
    (misnamed : Tree.checkName (name ++ documentSuffix ++ temporarySuffix) = .error fault) (text : String) :
    (before.steps (writeSteps (pathAt space name) text)).1 = .error fault := by
  rw [writeSteps, parent_pathAt own, beside_pathAt own, Tree.steps_of_done makes]
  simp only [Tree.steps, Tree.step, Tree.truncate, Tree.checkPlace, List.getLast?_cons_cons, List.getLast?_singleton,
    misnamed]

namespace Fits

variable {name : String}

theorem path (fits : Fits space name) : documentPath ⟨Image.kind, .text space, .text name⟩ = .ok (pathAt space name) :=
  documentPath_of_isSafe fits.safe _

theorem own (fits : Fits space name) : space ≠ ".." :=
  own_of_isSafe fits.safe

theorem location (fits : Fits space name) : (pathAt space name).location = place space name :=
  location_of_document fits.own name

variable {tree : Tree}

theorem makeFolders (fits : Fits space name) (layered : tree.Layered) :
    (tree.makeFolders [] [Path.rootName, space]).1 = .ok () ∧
      (tree.makeFolders [] [Path.rootName, space]).2.node? [Path.rootName, space] = some .folder := by
  have rooted : Tree.checkName Path.rootName = .ok () := rfl
  refine Tree.makeFolders_of_clear tree (by simp [rooted, fits.folder]) (fun front text some above => ?_) rfl
  rcases front with _ | ⟨first, _ | ⟨second, rest⟩⟩
  · exact absurd rfl some
  · obtain ⟨_, same⟩ := above
    cases same
    exact layered.root text
  · obtain ⟨_, same⟩ := above
    simp only [List.cons_append, List.cons.injEq, List.append_eq_nil_iff] at same
    obtain ⟨rfl, rfl, rfl, rfl⟩ := same
    exact layered.folders second text

/-- A document that fits can be written, and leaves room for others. -/
theorem writeSteps (fits : Fits space name) (layered : tree.Layered) (text : String) :
    ∃ after, tree.steps (Depot.writeSteps (pathAt space name) text) = (.ok (), after) ∧ after.Layered := by
  obtain ⟨done, folder⟩ := fits.makeFolders layered
  have room := layered.makeFolders space
  let founded := (tree.makeFolders [] [Path.rootName, space]).2
  have makes : tree.step (.makeFolders [Path.rootName, space]) = (.ok (), founded) := Prod.ext done rfl
  let temporary := [Path.rootName, space, name ++ documentSuffix ++ temporarySuffix]
  let filled := (founded.put temporary (.file "")).put temporary (.file ("" ++ text))
  have empties : founded.step (.truncate temporary) = (.ok (), founded.put temporary (.file "")) :=
    Tree.truncate_of_free (Tree.checkPlace_of_folder fits.temporary folder) (room.files _ _)
  have blank := Tree.node?_put_self founded (by simp [temporary] : temporary ≠ []) (.file "")
  obtain ⟨fills, written⟩ := @Tree.append_of_file _ temporary "" text (by simp [temporary]) blank
  have appends : (founded.put temporary (.file "")).step (.append temporary text) = (.ok (), filled) := fills
  have filled_room : filled.Layered := (room.put_file space _ "").put_file space _ ("" ++ text)
  have filled_folder : filled.node? [Path.rootName, space] = some .folder := by
    rw [Tree.node?_put_of_ne _ (by simp [temporary]), Tree.node?_put_of_ne _ (by simp [temporary])]
    exact folder
  have replaces : filled.step (.replace temporary (place space name)) =
      (.ok (), (filled.erase temporary).put (place space name) (.file ("" ++ text))) :=
    Tree.replace_of_free written
      (Tree.checkPlace_of_folder (Tree.checkName_of_append fits.temporary) filled_folder) (filled_room.files _ _)
  refine ⟨_, ?_, (filled_room.erase temporary).put_file space (name ++ documentSuffix) ("" ++ text)⟩
  have steps : Depot.writeSteps (pathAt space name) text =
      [.makeFolders [Path.rootName, space], .truncate temporary, .append temporary text,
        .replace temporary (place space name)] := by
    simp only [Depot.writeSteps, parent_pathAt fits.own, beside_pathAt fits.own, fits.location, temporary]
  rw [steps, Tree.steps_of_done makes, Tree.steps_of_done empties, Tree.steps_of_done appends,
    Tree.steps_of_done replaces]
  rfl

/-- A document that fits can be taken away, if it is there, and leaves room for others. -/
theorem removeSteps (fits : Fits space name) (layered : tree.Layered) :
    ∃ after, tree.steps (Depot.removeSteps tree (pathAt space name)) = (.ok (), after) ∧ after.Layered := by
  unfold Depot.removeSteps
  rw [fits.location]
  cases there : tree.node? (place space name) with
  | none => exact ⟨tree, by simp [Tree.exists?, there, Tree.steps], layered⟩
  | some node =>
    cases node with
    | folder => exact absurd there (layered.files _ _)
    | file text =>
      refine ⟨_, ?_, layered.erase (place space name)⟩
      have removes : tree.step (.remove (place space name)) = (.ok (), tree.erase (place space name)) :=
        Tree.remove_of_file there
      simp only [Tree.exists?, there, Option.isSome_some, ↓reduceIte]
      exact Tree.steps_of_done removes []

end Fits

end Depot

end ImageOperator
