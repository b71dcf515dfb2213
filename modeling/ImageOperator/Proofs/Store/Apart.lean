import ImageOperator.Proofs.Disk.Patch
import ImageOperator.Proofs.Store.Mirror
import ImageOperator.Proofs.Store.Request

set_option autoImplicit false

/-!
Objects with documents of their own do not get in each other's way: what handing one to a store comes to is read off its
own places in the catalog and on the disk, and nothing else changes.
-/

namespace ImageOperator

namespace Catalog

variable {catalog : Catalog} {key other : ObjectKey}

/-- Objects that are there are replaced in their places, in either order. -/
theorem put_put_comm (held : (catalog.get? key).isSome = true) (apart : key ≠ other) (first second : Image) :
    (catalog.put key first).put other second = (catalog.put other second).put key first := by
  induction catalog with
  | nil => cases held
  | cons entry rest ih =>
    by_cases here : entry.1 = key
    · have elsewhere : entry.1 ≠ other := here ▸ apart
      simp [put, here, apart]
    · by_cases there : entry.1 = other
      · simp [put, there, apart.symm]
      · simp only [get?, here, ↓reduceIte] at held
        simp [put, here, there, ih held]

theorem erase_put_comm (apart : key ≠ other) (image : Image) :
    (catalog.put key image).erase other = (catalog.erase other).put key image := by
  induction catalog with
  | nil => simp [put, erase, apart]
  | cons entry rest ih =>
    by_cases here : entry.1 = key
    · simp [put, erase, here, apart]
    · by_cases there : entry.1 = other
      · simpa [put, erase, here, there, apart.symm] using ih
      · simpa [put, erase, here, there] using ih

theorem erase_erase_comm (catalog : Catalog) (key other : ObjectKey) :
    (catalog.erase key).erase other = (catalog.erase other).erase key := by
  simp only [erase, List.filter_filter, Bool.and_comm]

end Catalog

open Patch (applyAll)

namespace Depot

open ImageOperator.Tree (Comes Patched making)

/-- What lies beside the document of a namespace and name while that is written. -/
def besidePlace (space name : String) : Location :=
  [Path.rootName, space, name ++ documentSuffix ++ temporarySuffix]

/-- What it comes to, to put a document into a folder that is there. -/
def placing (tree : Tree) (space name text : String) : Except FileFault Unit × List Patch :=
  match Tree.checkName (name ++ documentSuffix ++ temporarySuffix) with
  | .error fault => (.error fault, [])
  | .ok () =>
    if tree.isFolder (besidePlace space name) then (.error .isFolder, [])
    else if tree.isFolder (place space name) then
      (.error .isFolder, [.set (besidePlace space name) (some (.file text))])
    else (.ok (), [.set (besidePlace space name) none, .set (place space name) (some (.file text))])

/-- What it comes to, to write a document: its folder comes first. -/
def writing (tree : Tree) (space name text : String) : Except FileFault Unit × List Patch :=
  match making tree [] [Path.rootName, space] with
  | (.error fault, patches) => (.error fault, patches)
  | (.ok (), patches) =>
    ((placing tree space name text).1, patches ++ (placing tree space name text).2)

/-- What it comes to, to take a document away. -/
def removing (tree : Tree) (space name : String) : Except FileFault Unit × List Patch :=
  match tree.node? (place space name) with
  | none => (.ok (), [])
  | some (.file _) => (.ok (), [.set (place space name) none])
  | some .folder => (.error .isFolder, [])

/-- Changes that have to do with the document of a namespace and name. -/
def Owned (space name : String) : Patch → Prop
  | .make location => location.length ≤ 2
  | .set location _ => location = place space name ∨ location = besidePlace space name

section

variable {tree after : Tree} {space name : String}

theorem besidePlace_ne_place (space name otherSpace otherName : String) :
    besidePlace space name ≠ place otherSpace otherName := by
  intro same
  have document := isDocument_place otherSpace otherName
  rw [← same] at document
  simp [isDocument, besidePlace, not_namesDocument_temporary] at document

theorem besidePlace_inj {otherSpace otherName : String}
    (same : besidePlace space name = besidePlace otherSpace otherName) : space = otherSpace ∧ name = otherName := by
  simpa [besidePlace] using same

/-- A file that can be made is filled, and nothing else changes. -/
theorem steps_of_filled {location : Location} (below : location ≠ []) (free : tree.checkPlace location = .ok ())
    (file : tree.isFolder location = false) (text : String) :
    ∃ full : Tree, full.node? location = some (.file text) ∧
      (∀ other, other ≠ location → full.node? other = tree.node? other) ∧
      ∀ rest, tree.steps (.truncate location :: .append location text :: rest) = full.steps rest := by
  have empties : tree.step (.truncate location) = (.ok (), tree.put location (.file "")) :=
    Tree.truncate_of_free free (of_decide_eq_false file)
  obtain ⟨fills, filled⟩ := @Tree.append_of_file _ _ "" text below (Tree.node?_put_self tree below (.file ""))
  rw [String.empty_append] at fills filled
  have appends : (tree.put location (.file "")).step (.append location text) =
      (.ok (), (tree.put location (.file "")).put location (.file text)) := fills
  refine ⟨_, filled, fun other elsewhere => ?_, fun rest => ?_⟩
  · rw [Tree.node?_put_of_ne _ elsewhere, Tree.node?_put_of_ne _ elsewhere]
  · rw [Tree.steps_of_done empties]
    exact Tree.steps_of_done appends rest

theorem placing_comes (there : tree.node? [Path.rootName, space] = some .folder) (text : String) :
    Comes tree (placing tree space name text) (tree.steps [.truncate (besidePlace space name),
      .append (besidePlace space name) text, .replace (besidePlace space name) (place space name)]) := by
  have below : besidePlace space name ≠ [] := by simp [besidePlace]
  have placed : place space name ≠ [] := by simp [place]
  have other : place space name ≠ besidePlace space name := (besidePlace_ne_place space name space name).symm
  unfold placing
  cases fits : Tree.checkName (name ++ documentSuffix ++ temporarySuffix) with
  | error fault =>
    have refused : tree.step (.truncate (besidePlace space name)) = (.error fault, tree) := by
      simp only [Tree.step, Tree.truncate, Tree.checkPlace, besidePlace, List.getLast?_cons_cons,
        List.getLast?_singleton, fits]
    simp only [Tree.steps, refused]
    exact ⟨rfl, Tree.patched_nil tree⟩
  | ok =>
    have free : tree.checkPlace (besidePlace space name) = .ok () := Tree.checkPlace_of_folder fits there
    cases beside : tree.isFolder (besidePlace space name) with
    | true =>
      have refused : tree.step (.truncate (besidePlace space name)) = (.error .isFolder, tree) := by
        simp only [Tree.step, Tree.truncate, free, beside, ↓reduceIte]
      simp only [Tree.steps, refused, ↓reduceIte]
      exact ⟨rfl, Tree.patched_nil tree⟩
    | false =>
      obtain ⟨full, filled, same, fills⟩ := steps_of_filled below free beside text
      have placeable : full.checkPlace (place space name) = .ok () := by
        refine Tree.checkPlace_of_folder (Tree.checkName_of_append fits) ((same _ ?_).trans there)
        simp [besidePlace]
      have document : full.isFolder (place space name) = tree.isFolder (place space name) := by
        rw [Tree.isFolder, same _ other, Tree.isFolder]
      rw [fills]
      cases taken : tree.isFolder (place space name) with
      | true =>
        have refused : full.step (.replace (besidePlace space name) (place space name)) = (.error .isFolder, full) := by
          simp only [Tree.step, Tree.replace, filled, placeable, document, taken, ↓reduceIte]
        simp only [Tree.steps, refused, Bool.false_eq_true, ↓reduceIte]
        exact ⟨rfl, Tree.patched_set filled same⟩
      | false =>
        have moves : full.step (.replace (besidePlace space name) (place space name)) =
            (.ok (), (full.erase (besidePlace space name)).put (place space name) (.file text)) :=
          Tree.replace_of_free filled placeable (of_decide_eq_false (document.trans taken))
        have emptied : Patched [.set (besidePlace space name) none] tree (full.erase (besidePlace space name)) :=
          Tree.patched_set (Tree.node?_erase_self full below) fun location elsewhere =>
            (Tree.node?_erase_of_ne full elsewhere).trans (same location elsewhere)
        have put (held : Tree) : Patched [.set (place space name) (some (.file text))] held
            (held.put (place space name) (.file text)) :=
          Tree.patched_set (Tree.node?_put_self held placed _) fun location elsewhere =>
            Tree.node?_put_of_ne held elsewhere _
        rw [Tree.steps_of_done moves]
        exact ⟨rfl, emptied.trans (put _)⟩

/-- Where only folders above were made, it comes to the same to put a document there. -/
theorem placing_of_same (beside : after.node? (besidePlace space name) = tree.node? (besidePlace space name))
    (document : after.node? (place space name) = tree.node? (place space name)) (text : String) :
    placing after space name text = placing tree space name text := by
  have filled : after.isFolder (besidePlace space name) = tree.isFolder (besidePlace space name) := by
    rw [Tree.isFolder, beside, Tree.isFolder]
  have taken : after.isFolder (place space name) = tree.isFolder (place space name) := by
    rw [Tree.isFolder, document, Tree.isFolder]
  rw [placing, placing, filled, taken]

theorem mem_placing {text : String} {patch : Patch} (held : patch ∈ (placing tree space name text).2) :
    ∃ location node, patch = .set location node ∧
      (location = place space name ∨ location = besidePlace space name) := by
  unfold placing at held
  split at held
  · cases held
  · split at held
    · cases held
    · split at held
      · exact ⟨_, _, List.mem_singleton.mp held, .inr rfl⟩
      · rcases List.mem_cons.mp held with rfl | held
        · exact ⟨_, _, rfl, .inr rfl⟩
        · exact ⟨_, _, List.mem_singleton.mp held, .inl rfl⟩

theorem writing_comes (own : space ≠ "..") (tree : Tree) (name text : String) :
    Comes tree (writing tree space name text) (tree.steps (writeSteps (pathAt space name) text)) := by
  have steps : writeSteps (pathAt space name) text = [.makeFolders [Path.rootName, space],
      .truncate (besidePlace space name), .append (besidePlace space name) text,
      .replace (besidePlace space name) (place space name)] := by
    have located : (pathAt space name).location = place space name := location_of_document own name
    simp only [writeSteps, parent_pathAt own, beside_pathAt own, located, besidePlace]
  obtain ⟨⟨result, patched⟩, founded⟩ := @Tree.makeFolders_comes tree [] [Path.rootName, space] rfl
  rw [steps, writing]
  have ran : tree.step (.makeFolders [Path.rootName, space]) = tree.makeFolders [] [Path.rootName, space] := rfl
  rcases made : tree.makeFolders [] [Path.rootName, space] with ⟨fault | done, middle⟩
  all_goals
    rcases makes : making tree [] [Path.rootName, space] with ⟨outcome, patches⟩
    rw [made, makes] at result patched founded
    rw [made] at ran
    obtain rfl := result
  · simp only [Tree.steps, ran]
    exact ⟨rfl, patched⟩
  · have above (location : Location) (deep : 2 < location.length) : middle.node? location = tree.node? location := by
      refine patched.node?_of_ne fun patch held here => ?_
      obtain ⟨place, rfl, short⟩ := Tree.mem_making (makes ▸ held)
      subst here
      exact absurd deep (Nat.not_lt_of_le short)
    have comes := @placing_comes middle space name (founded rfl) text
    rw [placing_of_same (above _ (by simp [besidePlace])) (above _ (by simp [place]))] at comes
    rw [Tree.steps_of_done ran]
    exact ⟨comes.result, patched.trans comes.patched⟩

theorem removing_comes (own : space ≠ "..") (tree : Tree) (name : String) :
    Comes tree (removing tree space name) (tree.steps (removeSteps tree (pathAt space name))) := by
  have located : (pathAt space name).location = place space name := location_of_document own name
  have placed : place space name ≠ [] := by simp [place]
  unfold removing removeSteps
  rw [located]
  cases there : tree.node? (place space name) with
  | none =>
    simp only [Tree.exists?, there, Option.isSome_none, Bool.false_eq_true, ↓reduceIte]
    exact ⟨rfl, Tree.patched_nil tree⟩
  | some node =>
    cases node with
    | file text =>
      have removes : tree.step (.remove (place space name)) = (.ok (), tree.erase (place space name)) :=
        Tree.remove_of_file there
      simp only [Tree.exists?, there, Option.isSome_some, ↓reduceIte]
      rw [Tree.steps_of_done removes]
      exact ⟨rfl, Tree.patched_set (Tree.node?_erase_self tree placed) fun location elsewhere =>
        Tree.node?_erase_of_ne tree elsewhere⟩
    | folder =>
      have refused : tree.step (.remove (place space name)) = (.error .isFolder, tree) := by
        simp only [Tree.step, Tree.remove, there]
      simp only [Tree.exists?, there, Option.isSome_some, ↓reduceIte, Tree.steps, refused]
      exact ⟨rfl, Tree.patched_nil tree⟩

/-- What it comes to, to do what goes on the disk before an image takes its object's place, or takes it away. -/
def filing (disk : Disk) (image : Image) (space name : String) : Except FileFault Unit × List Patch :=
  if leaves image then removing disk.tree space name
  else writing disk.tree space name (disk.format.write image.document)

theorem filing_owned {disk : Disk} {image : Image} {patch : Patch}
    (held : patch ∈ (filing disk image space name).2) : Owned space name patch := by
  have founds (made : patch ∈ (making disk.tree [] [Path.rootName, space]).2) : Owned space name patch := by
    obtain ⟨location, rfl, short⟩ := Tree.mem_making made
    exact short
  unfold filing at held
  split at held
  · unfold removing at held
    split at held
    · cases held
    · obtain rfl := List.mem_singleton.mp held
      exact .inl rfl
    · cases held
  · unfold writing at held
    split at held
    · rename_i makes
      exact founds (makes ▸ held)
    · rename_i makes
      rcases List.mem_append.mp held with above | here
      · exact founds (makes ▸ above)
      · obtain ⟨location, node, rfl, own⟩ := mem_placing here
        exact own

variable {otherSpace otherName : String} {patch other : Patch} {patches : List Patch}

/-- Where one document lies, and what lies beside it, no other is dealt with. -/
theorem Owned.ne (owned : Owned otherSpace otherName patch) (apart : ¬ (space = otherSpace ∧ name = otherName))
    {location : Location} (here : location = place space name ∨ location = besidePlace space name) :
    location ≠ patch.place := by
  intro same
  subst same
  cases patch with
  | make location =>
    have short : location.length ≤ 2 := owned
    rcases here with rfl | rfl <;> simp [place, besidePlace] at short
  | set location node =>
    rcases here with rfl | rfl <;> rcases owned with same | same
    · exact apart (place_inj same)
    · exact besidePlace_ne_place _ _ _ _ same.symm
    · exact besidePlace_ne_place _ _ _ _ same
    · exact apart (besidePlace_inj same)

theorem Owned.comm (owned : Owned space name patch) (others : Owned otherSpace otherName other)
    (apart : ¬ (space = otherSpace ∧ name = otherName)) (location : Location) (node : Option Node) :
    patch.apply location (other.apply location node) = other.apply location (patch.apply location node) := by
  cases patch with
  | set here given =>
    have lies : here = place space name ∨ here = besidePlace space name := owned
    have elsewhere : here ≠ other.place := others.ne apart lies
    exact @Patch.apply_comm_of_ne (.set here given) other elsewhere location node
  | make here =>
    cases other with
    | make there => exact Patch.apply_make_comm here there location node
    | set there given =>
      refine Patch.apply_comm_of_ne (Ne.symm ?_) location node
      have lies : there = place otherSpace otherName ∨ there = besidePlace otherSpace otherName := others
      exact owned.ne (fun same => apart ⟨same.1.symm, same.2.symm⟩) lies

/-- What is done about one document comes to the same after something was done about another. -/
theorem filing_of_patched {disk : Disk} {tree : Tree} (patched : Patched patches disk.tree tree)
    (owned : ∀ patch ∈ patches, Owned otherSpace otherName patch)
    (apart : ¬ (space = otherSpace ∧ name = otherName)) (image : Image) :
    filing { disk with tree } image space name = filing disk image space name := by
  have own {location : Location} (here : location = place space name ∨ location = besidePlace space name) :
      tree.node? location = disk.tree.node? location :=
    patched.node?_of_ne fun patch held => (owned patch held).ne apart here
  have makes : making tree [] [Path.rootName, space] = making disk.tree [] [Path.rootName, space] := by
    refine Tree.making_of_same fun location short => patched.isFile fun patch held here => ?_
    have owns := owned patch held
    cases patch with
    | make place => exact ⟨place, rfl⟩
    | set place node =>
      obtain rfl : location = place := here
      rcases owns with rfl | rfl <;> simp [place, besidePlace] at short
  have places (text : String) : placing tree space name text = placing disk.tree space name text :=
    placing_of_same (own (.inr rfl)) (own (.inl rfl)) text
  have removes : removing tree space name = removing disk.tree space name := by
    simp only [removing, own (.inl rfl)]
  have writes (text : String) : writing tree space name text = writing disk.tree space name text := by
    simp only [writing, makes, places]
  simp only [filing, removes, writes]

theorem filing_comm (disk : Disk) (first second : Image) (apart : ¬ (space = otherSpace ∧ name = otherName))
    (location : Location) (node : Option Node) :
    applyAll location (applyAll location node (filing disk first space name).2)
        (filing disk second otherSpace otherName).2 =
      applyAll location (applyAll location node (filing disk second otherSpace otherName).2)
        (filing disk first space name).2 := by
  apply Patch.applyAll_comm
  intro patch held other among node
  exact (filing_owned held).comm (filing_owned among) apart location node

end

/-! ### Stores -/

/-- Disks with the same files and folders. -/
def SameFiles (one other : Option Disk) : Prop :=
  ∀ location, one.map (·.tree.node? location) = other.map (·.tree.node? location)

/-- What is done on the disk about an image that is handed to a store, where it can have a document of its own. -/
inductive Stows (image : Image) : Option Disk → Except Fault Unit → Option Disk → Prop
  | memory : Stows image none (.ok ()) none
  | disk {disk : Disk} {tree : Tree} {space name : String} (id_eq : image.id = ⟨Image.kind, .text space, .text name⟩)
      (patched : Patched (filing disk image space name).2 disk.tree tree) :
      Stows image (some disk) ((filing disk image space name).1.mapError .file) (some { disk with tree })

end Depot

/-- Whether namespace and name are texts that make one part of a path each. -/
def Image.isHoused (image : Image) : Bool :=
  match image.space, image.name with
  | .text space, .text name => Depot.isSafe space name
  | _, _ => false

namespace Depot

open ImageOperator.Tree (Comes)

variable {depot : Depot} {first second image : Image} {key otherKey : ObjectKey}

theorem texts_inj {kind space name otherSpace otherName : String}
    (same : (⟨kind, .text space, .text name⟩ : ObjectId) = ⟨kind, .text otherSpace, .text otherName⟩) :
    space = otherSpace ∧ name = otherName := by
  simpa using same

theorem safe_of_isHoused (housed : image.isHoused = true) :
    ∃ space name, image.id = ⟨Image.kind, .text space, .text name⟩ ∧ isSafe space name = true := by
  unfold Image.isHoused at housed
  split at housed
  · rename_i space name spaced named
    exact ⟨space, name, by rw [Image.id, spaced, named], housed⟩
  · cases housed

theorem takeSteps_then_result {next : Unit → Attempt Depot Unit}
    (ends : ∀ done depot, (next done depot).result = .ok ()) (disk : Disk) (steps : List FileStep) (depot : Depot) :
    ((takeSteps disk steps >>= next) depot).result = (disk.tree.steps steps).1.mapError .file := by
  have taken : (takeSteps disk steps depot).result = (disk.tree.steps steps).1.mapError .file := by
    rw [← Attempt.bare_result, bare_takeSteps rfl]
  rw [← taken]
  rcases ran : takeSteps disk steps depot with ⟨fault | done, after, notes⟩
  · rw [Attempt.bind_of_error ran]
  · rw [Attempt.bind_of_ok ran]
    exact ends done after

/-- Whether the disk refuses what is to be done on it, is whether its steps fail. -/
theorem refile_result {disk : Disk} {path : Path} (kept : depot.disk = some disk)
    (found : documentPath image.id = .ok path) :
    (refile image depot).result = (disk.tree.steps (documentSteps disk image (leaves image))).1.mapError .file := by
  unfold documentSteps
  rw [found]
  cases leaving : leaves image with
  | true =>
    rw [refile_of_leaving leaving, removeDocument, Attempt.read_then, kept]
    dsimp only
    rw [found, Attempt.of_then rfl]
    refine takeSteps_then_result (fun _ depot => ?_) disk _ depot
    split <;> rfl
  | false =>
    rw [refile_of_staying leaving, writeDocument, Attempt.read_then, kept]
    dsimp only
    rw [found, Attempt.of_then rfl]
    exact takeSteps_then_result (fun _ _ => rfl) disk _ depot

theorem refile_memory (kept : depot.disk = none) : (refile image).bare depot = ⟨.ok (), depot, []⟩ := by
  cases leaving : leaves image with
  | true =>
    rw [refile_of_leaving leaving, removeDocument, Attempt.bare_bind, Attempt.bare_read, Attempt.read_then, kept]
    rfl
  | false =>
    rw [refile_of_staying leaving, writeDocument, Attempt.bare_bind, Attempt.bare_read, Attempt.read_then, kept]
    rfl

theorem refile_stows (housed : depot.disk = none ∨ image.isHoused = true) :
    Stows image depot.disk (refile image depot).result (refile image depot).state.disk := by
  cases kept : depot.disk with
  | none =>
    rw [← Attempt.bare_result, ← Attempt.bare_state, refile_memory kept, kept]
    exact .memory
  | some disk =>
    have texts : image.isHoused = true := housed.resolve_left (by simp [kept])
    obtain ⟨space, name, id_eq, safe⟩ := safe_of_isHoused texts
    have found : documentPath image.id = .ok (pathAt space name) := id_eq ▸ documentPath_of_isSafe safe _
    have comes : Comes disk.tree (filing disk image space name)
        (disk.tree.steps (documentSteps disk image (leaves image))) := by
      unfold documentSteps filing
      rw [found]
      cases leaves image with
      | true => exact removing_comes (own_of_isSafe safe) disk.tree name
      | false => exact writing_comes (own_of_isSafe safe) disk.tree name _
    rw [refile_result kept found, refile_disk image kept, comes.result]
    exact .disk id_eq comes.patched

/-- Handing over an image whose object is there is done on the disk first, and in the catalog if the disk lets it. -/
theorem persist_stows (known : image.id.key? = some key) (held : (depot.objects.get? key).isSome = true)
    (housed : depot.disk = none ∨ image.isHoused = true) :
    Stows image depot.disk (persist image depot).result (persist image depot).state.disk ∧
      (persist image depot).state.objects =
        if (persist image depot).result.isOk then turn depot.objects key image else depot.objects := by
  have stows := refile_stows housed
  have rests := still_refile image depot
  have hands := persist_hands image depot
  rw [← Attempt.bare_result, ← Attempt.bare_state] at stows ⊢
  generalize (persist image).bare depot = outcome at hands
  cases hands with
  | unknown unknown =>
    rw [unknown] at known
    cases known
  | absent other absent =>
    obtain rfl := Option.some.inj (known.symm.trans other)
    rw [absent] at held
    cases held
  | refused other _ refiled =>
    rw [refiled] at stows rests
    cases rests with
    | failed store kept => exact ⟨stows, kept⟩
  | taken other _ refiled =>
    obtain rfl := Option.some.inj (known.symm.trans other)
    rw [refiled] at stows rests
    cases rests with
    | done kept => exact ⟨stows, congrArg (turn · key image) kept⟩

theorem Stows.of_memory {after : Option Disk} {result : Except Fault Unit} (stows : Stows image none result after) :
    after = none := by
  cases stows
  rfl

/-- What is done on the disk about two objects comes to the same in either order, and is the same for each as if the
other were not. -/
theorem Stows.comm {disk left right both back : Option Disk} {result again other otherAgain : Except Fault Unit}
    (apart : first.id ≠ second.id) (one : Stows first disk result left) (then_other : Stows second left otherAgain both)
    (another : Stows second disk other right) (then_one : Stows first right again back) :
    again = result ∧ otherAgain = other ∧ SameFiles both back := by
  cases one with
  | memory =>
    cases another
    cases then_other
    cases then_one
    exact ⟨rfl, rfl, fun _ => rfl⟩
  | @disk disk tree space name id_eq patched =>
    cases another with
    | @disk _ otherTree otherSpace otherName other_eq otherPatched =>
      have different : ¬ (space = otherSpace ∧ name = otherName) := by
        rintro ⟨rfl, rfl⟩
        exact apart (id_eq.trans other_eq.symm)
      have unhindered := filing_of_patched otherPatched (fun _ => filing_owned) different first
      have unhindering := filing_of_patched patched (fun _ => filing_owned)
        (fun same => different ⟨same.1.symm, same.2.symm⟩) second
      cases then_other with
      | @disk _ bothTree _ _ second_eq thenPatched =>
        cases then_one with
        | @disk _ backTree _ _ first_eq backPatched =>
          obtain ⟨rfl, rfl⟩ := texts_inj (other_eq.symm.trans second_eq)
          obtain ⟨rfl, rfl⟩ := texts_inj (id_eq.symm.trans first_eq)
          rw [unhindering] at thenPatched ⊢
          rw [unhindered] at backPatched ⊢
          refine ⟨rfl, rfl, fun location => ?_⟩
          have there : bothTree.node? location = applyAll location (applyAll location (disk.tree.node? location)
              (filing disk first space name).2) (filing disk second otherSpace otherName).2 :=
            (patched.trans thenPatched location).trans (Patch.applyAll_append _ _ _ _)
          have here : backTree.node? location = applyAll location (applyAll location (disk.tree.node? location)
              (filing disk second otherSpace otherName).2) (filing disk first space name).2 :=
            (otherPatched.trans backPatched location).trans (Patch.applyAll_append _ _ _ _)
          exact congrArg some (there.trans ((filing_comm disk first second different location _).trans here.symm))

theorem get?_turn_of_ne (objects : Catalog) (image : Image) (apart : otherKey ≠ key) :
    (turn objects key image).get? otherKey = objects.get? otherKey := by
  unfold turn
  cases leaves image with
  | true => exact Catalog.get?_erase_of_ne objects apart
  | false => exact Catalog.get?_put_of_ne objects image apart

theorem turn_comm {objects : Catalog} (held : (objects.get? key).isSome = true) (apart : key ≠ otherKey)
    (first second : Image) :
    turn (turn objects key first) otherKey second = turn (turn objects otherKey second) key first := by
  unfold turn
  cases leaves first <;> cases leaves second
  · exact Catalog.put_put_comm held apart first second
  · exact Catalog.erase_put_comm apart first
  · exact (Catalog.erase_put_comm apart.symm second).symm
  · exact Catalog.erase_erase_comm objects key otherKey

/-- Stores with the same objects in the same order, and the same files and folders. -/
structure SameStock (one other : Depot) : Prop where
  objects : one.objects = other.objects
  files : SameFiles one.disk other.disk

/-- Images of two objects of a store can be handed to it in either order: each is taken, or refused, as if the other
were not, and the same is left in the end. -/
theorem persist_comm (known : first.id.key? = some key) (other_known : second.id.key? = some otherKey)
    (apart : key ≠ otherKey) (held : (depot.objects.get? key).isSome = true)
    (other_held : (depot.objects.get? otherKey).isSome = true)
    (housed : depot.disk = none ∨ first.isHoused = true ∧ second.isHoused = true) :
    let left := (persist first depot).state
    let right := (persist second depot).state
    (persist first right).result = (persist first depot).result ∧
      (persist second left).result = (persist second depot).result ∧
      SameStock (persist second left).state (persist first right).state := by
  intro left right
  have ids : first.id ≠ second.id := by
    intro same
    rw [same, other_known] at known
    exact apart (Option.some.inj known.symm)
  obtain ⟨stows, objects⟩ := persist_stows known held (housed.imp_right And.left)
  obtain ⟨other_stows, other_objects⟩ := persist_stows other_known other_held (housed.imp_right And.right)
  have left_held : (left.objects.get? otherKey).isSome = true := by
    rw [objects]
    split
    · rw [get?_turn_of_ne _ _ apart.symm]
      exact other_held
    · exact other_held
  have right_held : (right.objects.get? key).isSome = true := by
    rw [other_objects]
    split
    · rw [get?_turn_of_ne _ _ apart]
      exact held
    · exact held
  have left_housed : left.disk = none ∨ second.isHoused = true :=
    housed.imp (fun memory => (memory ▸ stows).of_memory) And.right
  have right_housed : right.disk = none ∨ first.isHoused = true :=
    housed.imp (fun memory => (memory ▸ other_stows).of_memory) And.left
  obtain ⟨then_stows, then_objects⟩ := persist_stows other_known left_held left_housed
  obtain ⟨back_stows, back_objects⟩ := persist_stows known right_held right_housed
  obtain ⟨again, other_again, files⟩ := stows.comm ids then_stows other_stows back_stows
  refine ⟨again, other_again, ?_, files⟩
  rw [then_objects, back_objects, other_again, again, objects, other_objects]
  cases (persist first depot).result.isOk with
  | false => rfl
  | true =>
    cases (persist second depot).result.isOk with
    | false => rfl
    | true => exact turn_comm held apart first second

end Depot

end ImageOperator
