import ImageOperator.Disk.Tree

set_option autoImplicit false

/-!
What the steps on a file tree change. Every step leaves all but one or two places alone, except that making a folder
also makes those above it.
-/

namespace ImageOperator.Tree

theorem lookup_replaceNode_self (location : Location) (node : Node) (nodes : List (Location × Node)) :
    (replaceNode location node nodes).lookup location = some node := by
  induction nodes with
  | nil => simp [replaceNode]
  | cons entry rest ih =>
    obtain ⟨place, held⟩ := entry
    by_cases h : place = location
    · simp [replaceNode, h]
    · have skipped : (location == place) = false := by simpa using Ne.symm h
      simp [replaceNode, h, List.lookup_cons, skipped, ih]

theorem lookup_replaceNode_of_ne {location other : Location} (different : other ≠ location) (node : Node)
    (nodes : List (Location × Node)) : (replaceNode location node nodes).lookup other = nodes.lookup other := by
  have skipped : (other == location) = false := by simpa using different
  induction nodes with
  | nil => simp [replaceNode, List.lookup_cons, skipped]
  | cons entry rest ih =>
    obtain ⟨place, held⟩ := entry
    by_cases h : place = location
    · simp [replaceNode, h, List.lookup_cons, skipped]
    · simp only [replaceNode, h, ↓reduceIte, List.lookup_cons, ih]

theorem node?_put_self (tree : Tree) {location : Location} (below : location ≠ []) (node : Node) :
    (tree.put location node).node? location = some node := by
  simp only [node?, below, ↓reduceIte, put, lookup_replaceNode_self]

theorem node?_put_of_ne (tree : Tree) {location other : Location} (different : other ≠ location) (node : Node) :
    (tree.put location node).node? other = tree.node? other := by
  simp only [node?, put, lookup_replaceNode_of_ne different]

theorem lookup_filter_self (location : Location) (nodes : List (Location × Node)) :
    (nodes.filter fun entry => entry.1 ≠ location).lookup location = none := by
  rw [List.lookup_eq_none_iff]
  intro entry kept
  have other : entry.1 ≠ location := of_decide_eq_true (List.mem_filter.mp kept).2
  exact bne_iff_ne.mpr other.symm

theorem lookup_filter_of_ne {location other : Location} (different : other ≠ location)
    (nodes : List (Location × Node)) :
    (nodes.filter fun entry => entry.1 ≠ location).lookup other = nodes.lookup other := by
  induction nodes with
  | nil => rfl
  | cons entry rest ih =>
    obtain ⟨place, held⟩ := entry
    by_cases h : place = location
    · have skipped : (other == location) = false := by simpa using different
      simpa only [List.filter_cons, h, ne_eq, not_true_eq_false, decide_false, Bool.false_eq_true, ↓reduceIte,
        List.lookup_cons, skipped] using ih
    · simp only [List.filter_cons, h, ne_eq, not_false_eq_true, decide_true, ↓reduceIte, List.lookup_cons, ih]

theorem node?_erase_self (tree : Tree) {location : Location} (below : location ≠ []) :
    (tree.erase location).node? location = none := by
  simp only [node?, below, ↓reduceIte, erase, lookup_filter_self]

theorem node?_erase_of_ne (tree : Tree) {location other : Location} (different : other ≠ location) :
    (tree.erase location).node? other = tree.node? other := by
  simp only [node?, erase, lookup_filter_of_ne different]

/-- Trees that differ at most in what is at the given places, and in folders that were made down to a depth. -/
def Spares (places : List Location) (depth : Nat) (before after : Tree) : Prop :=
  ∀ location ∉ places, after.node? location = before.node? location ∨
    (before.node? location = none ∧ after.node? location = some .folder ∧ location.length ≤ depth)

namespace Spares

variable {places : List Location} {depth : Nat} {before middle after : Tree}

theorem refl (places : List Location) (depth : Nat) (tree : Tree) : Spares places depth tree tree :=
  fun _ _ => .inl rfl

theorem trans (first : Spares places depth before middle) (second : Spares places depth middle after) :
    Spares places depth before after := by
  intro location elsewhere
  rcases second location elsewhere with same | ⟨absent, made, above⟩
  · rw [same]
    exact first location elsewhere
  · rcases first location elsewhere with same | ⟨_, other, _⟩
    · exact .inr ⟨same ▸ absent, made, above⟩
    · rw [absent] at other
      cases other

theorem mono {more : List Location} {deeper : Nat} (spares : Spares places depth before after)
    (within : ∀ place ∈ places, place ∈ more) (below : depth ≤ deeper) : Spares more deeper before after := by
  intro location elsewhere
  rcases spares location fun held => elsewhere (within location held) with same | ⟨absent, made, above⟩
  · exact .inl same
  · exact .inr ⟨absent, made, Nat.le_trans above below⟩

end Spares

variable {tree after : Tree} {location source target : Location} {result : Except FileFault Unit}

theorem spares_put (tree : Tree) (location : Location) (node : Node) :
    Spares [location] 0 tree (tree.put location node) :=
  fun _ elsewhere => .inl (node?_put_of_ne tree (List.ne_of_not_mem_cons elsewhere) node)

theorem spares_erase (tree : Tree) (location : Location) : Spares [location] 0 tree (tree.erase location) :=
  fun _ elsewhere => .inl (node?_erase_of_ne tree (List.ne_of_not_mem_cons elsewhere))

/-- Making folders makes folders, where there was nothing on the way. -/
theorem node?_makeFolders (tree : Tree) (reached : Location) (names : List String) (location : Location) :
    (tree.makeFolders reached names).2.node? location = tree.node? location ∨
      (tree.node? location = none ∧ (tree.makeFolders reached names).2.node? location = some .folder ∧
        location <+: reached ++ names) := by
  induction names generalizing tree reached with
  | nil => exact .inl rfl
  | cons name rest ih =>
    have way : reached ++ name :: rest = reached ++ [name] ++ rest := by simp
    unfold makeFolders
    rw [way]
    cases checkName name with
    | error fault => exact .inl rfl
    | ok =>
      cases there : tree.node? (reached ++ [name]) with
      | some node =>
        cases node with
        | file text =>
          simp only [there]
          exact .inl trivial
        | folder =>
          simp only [there]
          exact ih tree _
      | none =>
        simp only [there]
        have later := ih (tree.put (reached ++ [name]) .folder) (reached ++ [name])
        by_cases own : location = reached ++ [name]
        · subst own
          rw [node?_put_self _ (by simp)] at later
          refine .inr ⟨there, ?_, List.prefix_append _ _⟩
          rcases later with same | ⟨absent, _⟩
          · exact same
          · cases absent
        · rw [node?_put_of_ne _ own] at later
          exact later

theorem makeFolders_spares (tree : Tree) (reached : Location) (names : List String) :
    Spares [] (reached.length + names.length) tree (tree.makeFolders reached names).2 := by
  intro location _
  rcases node?_makeFolders tree reached names location with same | ⟨absent, made, way⟩
  · exact .inl same
  · exact .inr ⟨absent, made, by simpa using way.length_le⟩

theorem ne_nil_of_checkPlace {tree : Tree} {location : Location} (free : tree.checkPlace location = .ok ()) :
    location ≠ [] := by
  rintro rfl
  cases free

/-- Emptying a file, and that it is there then. -/
theorem truncate_spares (ran : tree.truncate location = (result, after)) :
    Spares [location] 0 tree after ∧
      (result = .ok () → location ≠ [] ∧ after.node? location = some (.file "")) := by
  unfold truncate at ran
  cases free : tree.checkPlace location with
  | error fault =>
    rw [free] at ran
    cases ran
    exact ⟨.refl _ _ tree, nofun⟩
  | ok =>
    rw [free] at ran
    have below := ne_nil_of_checkPlace free
    cases folder : tree.isFolder location with
    | true =>
      simp only [folder, ↓reduceIte] at ran
      cases ran
      exact ⟨.refl _ _ tree, nofun⟩
    | false =>
      simp only [folder, Bool.false_eq_true, ↓reduceIte] at ran
      cases ran
      exact ⟨spares_put tree location _, fun _ => ⟨below, node?_put_self tree below _⟩⟩

theorem append_of_file {before text : String} (below : location ≠ [])
    (there : tree.node? location = some (.file before)) :
    tree.append location text = (.ok (), tree.put location (.file (before ++ text))) ∧
      (tree.put location (.file (before ++ text))).node? location = some (.file (before ++ text)) := by
  refine ⟨?_, node?_put_self tree below _⟩
  simp only [append, there]

/-- Moving a file into a place: nothing is changed, or the file is there then. -/
theorem replace_of_file {text : String} (there : tree.node? source = some (.file text))
    (ran : tree.replace source target = (result, after)) :
    (result = .ok () ∧ Spares [source, target] 0 tree after ∧ after.node? target = some (.file text)) ∨
      (∃ fault, result = .error fault ∧ after = tree) := by
  unfold replace at ran
  rw [there] at ran
  cases free : tree.checkPlace target with
  | error fault =>
    rw [free] at ran
    cases ran
    exact .inr ⟨fault, rfl, rfl⟩
  | ok =>
    rw [free] at ran
    cases folder : tree.isFolder target with
    | true =>
      simp only [folder, ↓reduceIte] at ran
      cases ran
      exact .inr ⟨_, rfl, rfl⟩
    | false =>
      simp only [folder, Bool.false_eq_true, ↓reduceIte] at ran
      cases ran
      refine .inl ⟨rfl, ?_, node?_put_self _ (ne_nil_of_checkPlace free) _⟩
      have erased : Spares [source, target] 0 tree (tree.erase source) :=
        (spares_erase tree source).mono (by simp) (Nat.le_refl 0)
      exact erased.trans ((spares_put _ target _).mono (by simp) (Nat.le_refl 0))

/-- Removing what is there: nothing is changed, or nothing is there then. -/
theorem remove_cases (ran : tree.remove location = (result, after)) :
    (result = .ok () ∧ Spares [location] 0 tree after ∧ after.node? location = none) ∨
      (∃ fault, result = .error fault ∧ after = tree) := by
  unfold remove at ran
  cases there : tree.node? location with
  | none =>
    rw [there] at ran
    cases ran
    exact .inr ⟨_, rfl, rfl⟩
  | some node =>
    rw [there] at ran
    cases node with
    | folder =>
      cases ran
      exact .inr ⟨_, rfl, rfl⟩
    | file text =>
      cases ran
      have below : location ≠ [] := by
        rintro rfl
        cases there
      exact .inl ⟨rfl, spares_erase tree location, node?_erase_self tree below⟩

theorem steps_of_done {step : FileStep} {middle : Tree} (done : tree.step step = (.ok (), middle))
    (rest : List FileStep) : tree.steps (step :: rest) = middle.steps rest := by
  simp only [Tree.steps, done]

/-- What lies deeper than the folders that were made. -/
theorem Spares.node? {places : List Location} {depth : Nat} {before after : Tree}
    (spares : Spares places depth before after) {location : Location} (elsewhere : location ∉ places)
    (deep : depth < location.length) : after.node? location = before.node? location := by
  rcases spares location elsewhere with same | ⟨_, _, above⟩
  · exact same
  · omega

/-- The text of the file at a location, if there is one. -/
def file? (tree : Tree) (location : Location) : Option String :=
  match tree.node? location with
  | some (.file text) => some text
  | _ => none

/-- Files stay with their texts, and folders that are made are none. -/
theorem Spares.file? {places : List Location} {depth : Nat} {before after : Tree}
    (spares : Spares places depth before after) {location : Location} (elsewhere : location ∉ places) :
    after.file? location = before.file? location := by
  rcases spares location elsewhere with same | ⟨absent, made, _⟩
  · simp only [Tree.file?, same]
  · simp only [Tree.file?, absent, made]

theorem exists?_iff_mem {tree : Tree} {location : Location} (below : location ≠ []) :
    tree.exists? location = true ↔ ∃ node, (location, node) ∈ tree.nodes := by
  simp only [exists?, node?, below, ↓reduceIte, List.lookup_isSome_iff, beq_iff_eq]
  constructor
  · rintro ⟨⟨place, node⟩, held, same⟩
    cases same
    exact ⟨node, held⟩
  · rintro ⟨node, held⟩
    exact ⟨_, held, rfl⟩

/-- What lies two names below a location. -/
theorem mem_pairsBelow {tree : Tree} {location : Location} {folder name : String} :
    (folder, name) ∈ tree.pairsBelow location ↔ tree.exists? (location ++ [folder, name]) = true := by
  rw [exists?_iff_mem (by simp), pairsBelow, List.mem_mergeSort, List.mem_filterMap]
  constructor
  · rintro ⟨⟨place, node⟩, held, found⟩
    split at found
    · rename_i inside
      obtain ⟨rest, rfl⟩ := List.isPrefixOf_iff_prefix.mp inside
      rw [List.drop_left] at found
      split at found
      · cases found
        exact ⟨node, held⟩
      · cases found
    · cases found
  · rintro ⟨node, held⟩
    refine ⟨_, held, ?_⟩
    have inside : location.isPrefixOf (location ++ [folder, name]) = true := by simp
    rw [if_pos inside, List.drop_left]

end ImageOperator.Tree
