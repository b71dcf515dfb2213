import ImageOperator.Proofs.Disk.Room

set_option autoImplicit false

/-!
Changes of a tree place by place. What it comes to, to write one document or to take it away, is read off its own
places, and nothing else changes; so with documents apart it does not matter which of them is dealt with first.
-/

namespace ImageOperator

/-- A change of a tree at one place. -/
inductive Patch
  /-- A folder, where there is nothing. -/
  | make (place : Location)
  | set (place : Location) (node : Option Node)

namespace Patch

def place : Patch → Location
  | make place | set place _ => place

/-- What is at a location after a change, given what was there. -/
def apply (location : Location) (node : Option Node) : Patch → Option Node
  | make place => if location = place then node.or (some .folder) else node
  | set place given => if location = place then given else node

/-- What is at a location after changes that were made one after the other. -/
def applyAll (location : Location) (node : Option Node) (patches : List Patch) : Option Node :=
  patches.foldl (apply location) node

variable {location : Location} {patch other : Patch} {patches others : List Patch}

theorem apply_of_ne (elsewhere : location ≠ patch.place) (node : Option Node) :
    patch.apply location node = node := by
  cases patch <;> exact if_neg elsewhere

/-- Changes at different places can be made in either order. -/
theorem apply_comm_of_ne (apart : patch.place ≠ other.place) (location : Location) (node : Option Node) :
    patch.apply location (other.apply location node) = other.apply location (patch.apply location node) := by
  by_cases here : location = patch.place
  · have elsewhere : location ≠ other.place := here ▸ apart
    rw [apply_of_ne elsewhere, apply_of_ne elsewhere]
  · rw [apply_of_ne here, apply_of_ne here]

theorem apply_make_comm (place otherPlace location : Location) (node : Option Node) :
    (make place).apply location ((make otherPlace).apply location node) =
      (make otherPlace).apply location ((make place).apply location node) := by
  by_cases same : place = otherPlace
  · rw [same]
  · exact @apply_comm_of_ne (make place) (make otherPlace) same location node

theorem applyAll_append (location : Location) (node : Option Node) (first second : List Patch) :
    applyAll location node (first ++ second) = applyAll location (applyAll location node first) second :=
  List.foldl_append

theorem applyAll_of_ne (elsewhere : ∀ patch ∈ patches, location ≠ patch.place) (node : Option Node) :
    applyAll location node patches = node := by
  induction patches generalizing node with
  | nil => rfl
  | cons patch rest ih =>
    have later (other : Patch) (held : other ∈ rest) := elsewhere other (List.mem_cons_of_mem _ held)
    exact (ih later _).trans (apply_of_ne (elsewhere patch List.mem_cons_self) node)

/-- A change that can be made before or after each of others can be made before or after them all. -/
theorem applyAll_apply (commute : ∀ other ∈ others, ∀ node,
      patch.apply location (other.apply location node) = other.apply location (patch.apply location node))
    (node : Option Node) :
    applyAll location (patch.apply location node) others = patch.apply location (applyAll location node others) := by
  induction others generalizing node with
  | nil => rfl
  | cons other rest ih =>
    have later (other : Patch) (held : other ∈ rest) := commute other (List.mem_cons_of_mem _ held)
    calc applyAll location (other.apply location (patch.apply location node)) rest
        = applyAll location (patch.apply location (other.apply location node)) rest := by
          rw [commute other List.mem_cons_self]
      _ = patch.apply location (applyAll location (other.apply location node) rest) := ih later _

theorem applyAll_comm (commute : ∀ patch ∈ patches, ∀ other ∈ others, ∀ node,
      patch.apply location (other.apply location node) = other.apply location (patch.apply location node))
    (node : Option Node) :
    applyAll location (applyAll location node patches) others =
      applyAll location (applyAll location node others) patches := by
  induction patches generalizing node with
  | nil => rfl
  | cons patch rest ih =>
    have later (other : Patch) (held : other ∈ rest) := commute other (List.mem_cons_of_mem _ held)
    calc applyAll location (applyAll location (patch.apply location node) rest) others
        = applyAll location (applyAll location (patch.apply location node) others) rest := ih later _
      _ = applyAll location (patch.apply location (applyAll location node others)) rest := by
          rw [applyAll_apply (commute patch List.mem_cons_self)]

end Patch

open Patch (applyAll)

def Node.isFile : Node → Bool
  | .file _ => true
  | .folder => false

namespace Tree

/-- A tree has become of another by changes at places. -/
def Patched (patches : List Patch) (before after : Tree) : Prop :=
  ∀ location, after.node? location = applyAll location (before.node? location) patches

def isFile (tree : Tree) (location : Location) : Bool :=
  (tree.node? location).any Node.isFile

/-- What steps on a tree have come to: a result, and changes at places. -/
structure Comes (before : Tree) (outcome : Except FileFault Unit × List Patch) (ran : Except FileFault Unit × Tree) :
    Prop where
  result : ran.1 = outcome.1
  patched : Patched outcome.2 before ran.2

variable {tree middle after : Tree}

theorem patched_nil (tree : Tree) : Patched [] tree tree :=
  fun _ => rfl

theorem Patched.trans {first second : List Patch} (one : Patched first tree middle)
    (other : Patched second middle after) : Patched (first ++ second) tree after := by
  intro location
  rw [other, one, Patch.applyAll_append]

theorem patched_set {location : Location} {node : Option Node} (own : after.node? location = node)
    (others : ∀ other, other ≠ location → after.node? other = tree.node? other) :
    Patched [.set location node] tree after := by
  intro other
  by_cases here : other = location
  · subst here
    simp [applyAll, Patch.apply, own]
  · simp [applyAll, Patch.apply, here, others other here]

/-- A folder that is there may as well be made. -/
theorem patched_make_of_folder {location : Location} (there : tree.node? location = some .folder) :
    Patched [.make location] tree tree := by
  intro other
  by_cases own : other = location
  · subst own
    simp [applyAll, Patch.apply, there]
  · simp [applyAll, Patch.apply, own]

theorem patched_make_of_absent {location : Location} (below : location ≠ []) (absent : tree.node? location = none) :
    Patched [.make location] tree (tree.put location .folder) := by
  intro other
  by_cases own : other = location
  · subst own
    simp [applyAll, Patch.apply, absent, node?_put_self tree below]
  · simp [applyAll, Patch.apply, own, node?_put_of_ne tree own]

theorem Patched.node?_of_ne {patches : List Patch} (patched : Patched patches tree after) {location : Location}
    (elsewhere : ∀ patch ∈ patches, location ≠ patch.place) : after.node? location = tree.node? location :=
  (patched location).trans (Patch.applyAll_of_ne elsewhere _)

/-- Where nothing is changed but by making folders, there is a file if there was one. -/
theorem Patched.isFile {patches : List Patch} (patched : Patched patches tree after) {location : Location}
    (making : ∀ patch ∈ patches, location = patch.place → ∃ place, patch = .make place) :
    after.isFile location = tree.isFile location := by
  have same (node : Option Node) : (applyAll location node patches).any Node.isFile = node.any Node.isFile := by
    clear patched
    induction patches generalizing node with
    | nil => rfl
    | cons patch rest ih =>
      have later (other : Patch) (held : other ∈ rest) := making other (List.mem_cons_of_mem _ held)
      refine (ih later _).trans ?_
      by_cases here : location = patch.place
      · obtain ⟨place, rfl⟩ := making patch List.mem_cons_self here
        have made : (Patch.make place).apply location node = node.or (some .folder) := if_pos here
        rw [made]
        cases node <;> rfl
      · rw [Patch.apply_of_ne here]
  rw [Tree.isFile, patched, same, Tree.isFile]

/-- What it comes to, to make folders, each in the one before. -/
def making (tree : Tree) (reached : Location) : List String → Except FileFault Unit × List Patch
  | [] => (.ok (), [])
  | name :: rest =>
    match checkName name with
    | .error fault => (.error fault, [])
    | .ok () =>
      if tree.isFile (reached ++ [name]) then (.error (if rest.isEmpty then .occupied else .notFolder), [])
      else
        let (result, patches) := making tree (reached ++ [name]) rest
        (result, .make (reached ++ [name]) :: patches)

/-- Making folders turns on where there are files. -/
theorem making_of_same {reached : Location} {names : List String}
    (same : ∀ location, location.length ≤ reached.length + names.length →
      after.isFile location = tree.isFile location) :
    making after reached names = making tree reached names := by
  induction names generalizing reached with
  | nil => rfl
  | cons name rest ih =>
    have deeper : making after (reached ++ [name]) rest = making tree (reached ++ [name]) rest := by
      apply ih
      intro location short
      apply same
      simp only [List.length_append, List.length_cons, List.length_nil] at short ⊢
      omega
    have here : after.isFile (reached ++ [name]) = tree.isFile (reached ++ [name]) := by
      apply same
      simp
    simp only [making, here, deeper]

theorem mem_making {reached : Location} {names : List String} {patch : Patch}
    (held : patch ∈ (making tree reached names).2) :
    ∃ place, patch = .make place ∧ place.length ≤ reached.length + names.length := by
  induction names generalizing reached with
  | nil => cases held
  | cons name rest ih =>
    unfold making at held
    split at held
    · cases held
    · split at held
      · cases held
      · rcases List.mem_cons.mp held with rfl | later
        · exact ⟨_, rfl, by simp⟩
        · obtain ⟨place, rfl, short⟩ := ih later
          refine ⟨place, rfl, ?_⟩
          simp only [List.length_append, List.length_cons, List.length_nil] at short ⊢
          omega

theorem makeFolders_comes {reached : Location} {names : List String} (there : tree.node? reached = some .folder) :
    Comes tree (making tree reached names) (tree.makeFolders reached names) ∧
      ((making tree reached names).1 = .ok () →
        (tree.makeFolders reached names).2.node? (reached ++ names) = some .folder) := by
  induction names generalizing tree reached with
  | nil => exact ⟨⟨rfl, patched_nil tree⟩, fun _ => (List.append_nil reached).symm ▸ there⟩
  | cons name rest ih =>
    have way : reached ++ name :: rest = reached ++ [name] ++ rest := by simp
    have below : reached ++ [name] ≠ [] := by simp
    -- The folder is there once it is made, and making it puts no file anywhere.
    have onward (middle : Tree) (patched : Patched [.make (reached ++ [name])] tree middle)
        (made : middle.node? (reached ++ [name]) = some .folder) :
        Comes tree ((making tree (reached ++ [name]) rest).1,
            .make (reached ++ [name]) :: (making tree (reached ++ [name]) rest).2)
          (middle.makeFolders (reached ++ [name]) rest) ∧
        ((making tree (reached ++ [name]) rest).1 = .ok () →
          (middle.makeFolders (reached ++ [name]) rest).2.node? (reached ++ [name] ++ rest) = some .folder) := by
      have same : making middle (reached ++ [name]) rest = making tree (reached ++ [name]) rest :=
        making_of_same fun location _ => patched.isFile (by simp)
      obtain ⟨⟨result, rest_patched⟩, last⟩ := ih made
      rw [same] at result rest_patched last
      exact ⟨⟨result, patched.trans rest_patched⟩, last⟩
    rw [way]
    unfold making makeFolders
    cases checkName name with
    | error fault => exact ⟨⟨rfl, patched_nil tree⟩, fun ended => by cases ended⟩
    | ok =>
      cases found : tree.node? (reached ++ [name]) with
      | none =>
        have clear : tree.isFile (reached ++ [name]) = false := by simp [isFile, found]
        simp only [clear, found, Bool.false_eq_true, ↓reduceIte]
        exact onward _ (patched_make_of_absent below found) (node?_put_self tree below _)
      | some node =>
        cases node with
        | file text =>
          have blocked : tree.isFile (reached ++ [name]) = true := by simp [isFile, found, Node.isFile]
          simp only [blocked, found, ↓reduceIte]
          exact ⟨⟨rfl, patched_nil tree⟩, fun ended => by cases ended⟩
        | folder =>
          have clear : tree.isFile (reached ++ [name]) = false := by simp [isFile, found, Node.isFile]
          simp only [clear, found, Bool.false_eq_true, ↓reduceIte]
          exact onward tree (patched_make_of_folder found) found

end Tree

end ImageOperator
