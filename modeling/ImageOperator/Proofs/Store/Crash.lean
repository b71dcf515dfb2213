import ImageOperator.Proofs.Disk.Stop
import ImageOperator.Proofs.Session.Pages
import ImageOperator.Proofs.Store.Tidy

set_option autoImplicit false

/-!
A crash leaves whole documents. Wherever a request stops, the directory has the documents that it had, except that
the one of its image may be there already, or be gone already; a store that is opened anew loads them all.
-/

namespace ImageOperator

namespace Depot

variable {tree stopped : Tree} {path : Path}

/-- Trees that differ at most in one document, which is as it was or has the given text, if any. -/
structure Swaps (path : Path) (text : Option String) (before after : Tree) : Prop where
  own : after.node? path.location = before.node? path.location ∨ after.node? path.location = text.map .file
  others : ∀ location, location ≠ path.location → location ≠ (temporaryPath path).location →
    ¬ location <+: path.parent.location → after.node? location = before.node? location

theorem Swaps.refl (path : Path) (text : Option String) (tree : Tree) : Swaps path text tree tree :=
  ⟨.inl rfl, fun _ _ _ _ => rfl⟩

section

variable {id : ObjectId}

theorem location_of_documentPath (found : documentPath id = .ok path) :
    ∃ name, path.location = path.parent.location ++ [name] ∧ isDocument path.location = true := by
  obtain ⟨parts, name, ends, named⟩ := documentPath_parts found
  have location := Path.location_of_parts ends (proper_of_namesDocument named)
  exact ⟨name, location, by simp [location, isDocument, named]⟩

theorem location_not_above (found : documentPath id = .ok path) : ¬ path.location <+: path.parent.location := by
  obtain ⟨name, location, -⟩ := location_of_documentPath found
  intro above
  have short := above.length_le
  rw [location, List.length_append] at short
  exact absurd short (by simp)

theorem location_ne_temporary (found : documentPath id = .ok path) :
    path.location ≠ (temporaryPath path).location := by
  obtain ⟨name, -, document⟩ := location_of_documentPath found
  intro same
  rw [same, not_isDocument_temporary found] at document
  cases document

/-- A document that is written comes into its place at once. -/
theorem swaps_writeSteps (found : documentPath id = .ok path) {text : String}
    (stops : tree.Stops (writeSteps path text) stopped) : Swaps path (some text) tree stopped := by
  have untouched (location : Location) (other : location ≠ path.location)
      (beside : location ≠ (temporaryPath path).location) (aside : ¬ location <+: path.parent.location) :
      ∀ step ∈ writeSteps path text, ¬ step.Touches location := by
    intro step taken
    simp only [writeSteps, List.mem_cons, List.not_mem_nil, or_false] at taken
    rcases taken with rfl | rfl | rfl | rfl
    · exact aside
    · exact beside
    · exact beside
    · exact not_or.mpr ⟨beside, other⟩
  refine ⟨?_, fun location other beside aside => stops.node? (untouched location other beside aside)⟩
  have begun : Tree.Stops tree ([.makeFolders path.parent.location, .truncate (temporaryPath path).location,
      .append (temporaryPath path).location text] ++ [.replace (temporaryPath path).location path.location]) stopped :=
    stops
  rcases begun.before_or_end (fun piece begins => by cases begins; rfl) with early | ended
  · refine .inl (early.node? fun step taken => ?_)
    simp only [List.mem_cons, List.not_mem_nil, or_false] at taken
    rcases taken with rfl | rfl | rfl
    · exact location_not_above found
    · exact location_ne_temporary found
    · exact location_ne_temporary found
  · rcases ran : tree.steps (writeSteps path text) with ⟨result, after⟩
    obtain rfl : stopped = after := ended.trans (congrArg Prod.snd ran)
    rcases writeSteps_cases ran with ⟨_, there, _⟩ | ⟨_, _, spares⟩
    · exact .inr there
    · obtain ⟨name, location, -⟩ := location_of_documentPath found
      refine .inl (spares.node? ?_ ?_)
      · exact fun held => location_ne_temporary found (List.mem_singleton.mp held)
      · rw [location, List.length_append]
        exact Nat.lt_succ_self _

theorem eq_of_stops_nil (stops : tree.Stops [] stopped) : stopped = tree := by
  cases stops with
  | before => rfl

/-- A document that is taken away goes at once. -/
theorem swaps_removeSteps (stops : tree.Stops (removeSteps tree path) stopped) : Swaps path none tree stopped := by
  cases there : tree.exists? path.location with
  | false =>
    have idle : removeSteps tree path = [] := by simp only [removeSteps, there, Bool.false_eq_true, ↓reduceIte]
    rw [idle] at stops
    rw [eq_of_stops_nil stops]
    exact .refl _ _ tree
  | true =>
    have single : removeSteps tree path = [] ++ [.remove path.location] := by
      simp only [removeSteps, there, ↓reduceIte, List.nil_append]
    have untouched (location : Location) (other : location ≠ path.location) :
        ∀ step ∈ removeSteps tree path, ¬ step.Touches location := by
      intro step taken
      rw [single] at taken
      obtain rfl := List.mem_singleton.mp taken
      exact other
    refine ⟨?_, fun location other _ _ => stops.node? (untouched location other)⟩
    rw [single] at stops
    rcases stops.before_or_end (fun piece begins => by cases begins; rfl) with early | ended
    · exact .inl (congrArg (Tree.node? · _) (eq_of_stops_nil early))
    · rcases ran : tree.steps (removeSteps tree path) with ⟨result, after⟩
      obtain rfl : stopped = after := by rw [ended, ← single, ran]
      rcases removeSteps_cases ran with ⟨_, gone, _⟩ | ⟨_, _, same⟩
      · exact .inr gone
      · exact .inl (congrArg (Tree.node? · _) same)

end

/-- Wherever a request stops, at most the document of its image has changed, and is what the request is to make of
it. -/
theorem Request.swaps {depot : Depot} {disk : Disk} {request : Request} {image : Image}
    (kept : depot.disk = some disk) (handed : request.image? depot = some image)
    (found : documentPath image.id = .ok path) (stops : disk.tree.Stops (request.steps depot) stopped) :
    Swaps path ((request.outcome image).map fun image => disk.format.write image.document) disk.tree stopped := by
  simp only [steps, kept, handed] at stops
  split at stops
  · simp only [documentSteps, found] at stops
    cases away : request.takesAway image with
    | true =>
      simp only [away, ↓reduceIte] at stops
      simp only [outcome, away, ↓reduceIte]
      exact swaps_removeSteps stops
    | false =>
      simp only [away, Bool.false_eq_true, ↓reduceIte] at stops
      simp only [outcome, away, Bool.false_eq_true, ↓reduceIte]
      exact swaps_writeSteps found stops
  · rw [eq_of_stops_nil stops]
    exact .refl _ _ disk.tree

/-- Whether a location is one where documents are looked for. -/
def isPlace : Location → Bool
  | [root, _, name] => root = Path.rootName && namesDocument name
  | _ => false

theorem isPlace_place (space name : String) : isPlace (place space name) = true := by
  simp [isPlace, place, namesDocument_append]

/-- Whether no folder on the way to a file is where a document is looked for. -/
def isClear (path : Path) : Bool :=
  let folders := path.parts.dropLast
  (List.range (folders.length + 1)).all fun count => !isPlace (Path.location { path with parts := folders.take count })

/-- The folders that a clear path needs are in the place of no document. -/
theorem place_not_above (clear : isClear path = true) (space name : String) :
    ¬ place space name <+: path.parent.location := by
  intro above
  rcases Path.front_of_above above with start | ⟨front, way, reached⟩
  · have short := start.length_le
    split at short <;> simp [place] at short
  · have within := List.mem_range.mpr (Nat.lt_succ_of_le way.length_le)
    have aside := List.all_eq_true.mp clear _ within
    have taken : path.parts.dropLast.take front.length = front := (List.prefix_iff_eq_take.mp way).symm
    have here : Path.location { path with parts := front } = place space name := reached
    rw [taken, here, isPlace_place] at aside
    cases aside

/-- Disks whose documents read alike, but for that of one path, which may read as the given image or be gone. -/
def Redraws (path : Path) (last : Option Image) (before after : Disk) : Prop :=
  ∀ space name,
    imageAt? after (place space name) = imageAt? before (place space name) ∧
        after.tree.exists? (place space name) = before.tree.exists? (place space name) ∨
      place space name = path.location ∧ imageAt? after (place space name) = last ∧
        after.tree.exists? (place space name) = last.isSome

/-- A store that is opened anew on a directory has what it had, but for one object, which is as it was or as given. -/
structure Survives (before after : Disk) (image : Image) (last : Option Image) : Prop where
  loads : (reload after).result = .ok ()
  own : ∀ key, image.id.key? = some key →
    (reload after).state.objects.get? key = (reload before).state.objects.get? key ∨
      (reload after).state.objects.get? key = last
  others : ∀ key, image.id.key? ≠ some key →
    (reload after).state.objects.get? key = (reload before).state.objects.get? key

section

variable {before after : Disk} {image : Image} {last : Option Image}

theorem Redraws.refl (path : Path) (last : Option Image) (disk : Disk) : Redraws path last disk disk :=
  fun _ _ => .inl ⟨rfl, rfl⟩

theorem Redraws.tidy (redraws : Redraws path last before after) (tidy : Tidy before)
    (found : documentPath image.id = .ok path) (own : ∀ other, last = some other → other = image) : Tidy after := by
  intro space name there
  rcases redraws space name with ⟨same, exist⟩ | ⟨here, read, exist⟩
  · rw [same]
    exact tidy space name (exist ▸ there)
  · cases last with
    | none =>
      rw [exist] at there
      cases there
    | some other =>
      obtain rfl := own other rfl
      exact ⟨other, path, read, found, here.symm⟩

/-- The object of the document is found as it was, or as it was to be. -/
theorem Redraws.own (redraws : Redraws path last before after) (tidy : Tidy before) (tidy_after : Tidy after)
    (found : documentPath image.id = .ok path) (whole : image.isWhole = true)
    (own : ∀ other, last = some other → other = image) {key : ObjectKey} (known : image.id.key? = some key) :
    (reload after).state.objects.get? key = (reload before).state.objects.get? key ∨
      (reload after).state.objects.get? key = last := by
  by_cases turned : ∃ space name, place space name = path.location ∧ imageAt? after (place space name) = last
  · obtain ⟨space, name, here, read⟩ := turned
    right
    cases last with
    | some other =>
      obtain rfl := own other rfl
      exact (tidy_after.reload.2 key other).mpr ⟨space, name, read, known⟩
    | none =>
      refine Option.eq_none_iff_forall_ne_some.mpr fun other stored => ?_
      obtain ⟨otherSpace, otherName, other_read, other_known⟩ := (tidy_after.reload.2 key other).mp stored
      obtain ⟨otherPath, other_found, location⟩ := tidy_after.lies other_read
      obtain rfl := path_of_key whole (isWhole_of_imageAt? other_read) found other_found
        (known.trans other_known.symm)
      rw [← location, ← here, read] at other_read
      cases other_read
  · left
    refine Option.ext fun other => ?_
    have same (space name : String) : imageAt? after (place space name) = imageAt? before (place space name) := by
      rcases redraws space name with ⟨same, -⟩ | ⟨here, read, -⟩
      · exact same
      · exact absurd ⟨space, name, here, read⟩ turned
    rw [tidy_after.reload.2, tidy.reload.2]
    simp only [same]

/-- Other objects are found as they were. -/
theorem Redraws.others (redraws : Redraws path last before after) (tidy : Tidy before) (tidy_after : Tidy after)
    (own : ∀ other, last = some other → other = image)
    (apart : ∀ key other otherPath, (reload before).state.objects.get? key = some other →
      documentPath other.id = .ok otherPath → otherPath.location = path.location → image.id.key? = some key)
    {key : ObjectKey} (different : image.id.key? ≠ some key) :
    (reload after).state.objects.get? key = (reload before).state.objects.get? key := by
  refine Option.ext fun other => ?_
  rw [tidy_after.reload.2, tidy.reload.2]
  refine exists_congr fun space => exists_congr fun name => and_congr_left fun known => ?_
  rcases redraws space name with ⟨same, -⟩ | ⟨here, read, -⟩
  · rw [same]
  · constructor
    · intro other_read
      obtain rfl := own other (read.symm.trans other_read)
      exact absurd known different
    · intro other_read
      obtain ⟨otherPath, other_found, location⟩ := tidy.lies other_read
      have stored := (tidy.reload.2 key other).mpr ⟨space, name, other_read, known⟩
      exact absurd (apart key other otherPath stored other_found (location.trans here)) different

end

section

variable {disk : Disk} {image : Image} {last : Option Image}

/-- A document reads as the image that it was written for. -/
theorem imageAt?_of_written (restores : disk.format.Restores image.document)
    (reads : Image.ofDocument image.document = .ok image) (own : ∀ other, last = some other → other = image)
    {location : Location}
    (there : stopped.node? location = (last.map fun image => disk.format.write image.document).map .file) :
    imageAt? { disk with tree := stopped } location = last := by
  cases last with
  | none => simp only [imageAt?, Tree.read, there, Option.map_none]
  | some other =>
    obtain rfl := own other rfl
    have restored : disk.format.read (disk.format.write other.document) = .ok other.document := restores
    obtain ⟨entries, mapping⟩ : ∃ entries, other.document = .mapping entries := ⟨_, rfl⟩
    simp only [imageAt?, Tree.read, there, Option.map_some, restored]
    rw [mapping] at reads ⊢
    simp only [reads, Except.toOption]

theorem Swaps.redraws
    (swaps : Swaps path (last.map fun image => disk.format.write image.document) disk.tree stopped)
    (found : documentPath image.id = .ok path) (aside : ∀ space name, ¬ place space name <+: path.parent.location)
    (restores : disk.format.Restores image.document) (reads : Image.ofDocument image.document = .ok image)
    (own : ∀ other, last = some other → other = image) :
    Redraws path last disk { disk with tree := stopped } := by
  intro space name
  have kept (same : stopped.node? (place space name) = disk.tree.node? (place space name)) :
      imageAt? { disk with tree := stopped } (place space name) = imageAt? disk (place space name) ∧
        stopped.exists? (place space name) = disk.tree.exists? (place space name) :=
    ⟨imageAt?_of_node? same, by rw [Tree.exists?, same, Tree.exists?]⟩
  by_cases here : place space name = path.location
  · rcases swaps.own with same | turned
    · exact .inl (kept (here ▸ same))
    · rw [← here] at turned
      exact .inr ⟨here, imageAt?_of_written restores reads own turned, by simp [Tree.exists?, turned]⟩
  · exact .inl (kept (swaps.others _ here (place_ne_temporary found space name) (aside space name)))

end

/-- Wherever a request of an image that documents preserve stops, the directory loads: the object of the image is as
it was or as the request was to leave it, and all others are as they were. It does not matter what else is there. -/
theorem crash_leaves_whole_documents {depot : Depot} {disk : Disk} {request : Request} {image : Image}
    (kept : depot.disk = some disk) (tidy : Tidy disk) (handed : request.image? depot = some image)
    (restores : disk.format.Restores image.document) (reads : Image.ofDocument image.document = .ok image)
    (clear : ∀ path, documentPath image.id = .ok path → isClear path = true)
    (apart : ∀ path key other otherPath, documentPath image.id = .ok path →
      (reload disk).state.objects.get? key = some other → documentPath other.id = .ok otherPath →
        otherPath.location = path.location → image.id.key? = some key)
    (stops : disk.tree.Stops (request.steps depot) stopped) :
    Survives disk { disk with tree := stopped } image (request.outcome image) := by
  cases found : documentPath image.id with
  | error fault =>
    have idle : request.steps depot = [] := by
      simp only [Request.steps, kept, handed, documentSteps, found, ite_self]
    rw [idle] at stops
    rw [eq_of_stops_nil stops]
    exact ⟨tidy.reload.1, fun _ _ => .inl rfl, fun _ _ => rfl⟩
  | ok path =>
    have own (other : Image) (last : request.outcome image = some other) : other = image := by
      unfold Request.outcome at last
      split at last
      · cases last
      · exact (Option.some.inj last).symm
    have redraws := (Request.swaps kept handed found stops).redraws found (place_not_above (clear path found))
      restores reads own
    have tidy_after := redraws.tidy tidy found own
    refine ⟨tidy_after.reload.1, fun key known => ?_, fun key different => ?_⟩
    · exact redraws.own tidy tidy_after found (Image.isWhole_of_document reads) own known
    · exact redraws.others tidy tidy_after own (fun key other otherPath => apart path key other otherPath found)
        different

namespace Trial

open Session.Trial (importing page fresh)

/-- A directory with one document, and with what two crashes left. -/
def littered : Disk where
  tree := ⟨[([Path.rootName], .folder), ([Path.rootName, "s"], .folder), ([Path.rootName, "s", "m.yaml"], .file page),
    ([Path.rootName, "s", "m.yaml.tmp"], .file "---\napi"), ([Path.rootName, "s", "n.yaml.tmp"], .file "")]⟩
  format := Yaml.format

/-- A store that has loaded it. -/
def loaded : Depot :=
  ⟨[(Session.Trial.key "m", importing)], Audience.standard, some littered⟩

/-- The tree when some of a new document is written. -/
def begun (text : String) : Tree :=
  ⟨[([Path.rootName], .folder), ([Path.rootName, "s"], .folder), ([Path.rootName, "s", "m.yaml"], .file page),
    ([Path.rootName, "s", "m.yaml.tmp"], .file text), ([Path.rootName, "s", "n.yaml.tmp"], .file "")]⟩

theorem exists?_littered {space name : String} (there : littered.tree.exists? (place space name) = true) :
    space = "s" ∧ name = "m" := by
  obtain ⟨node, held⟩ := (Tree.exists?_iff_mem (by simp [place])).mp there
  have document := isDocument_place space name
  simp only [littered, List.mem_cons, Prod.mk.injEq, List.not_mem_nil, or_false] at held
  rcases held with ⟨same, -⟩ | ⟨same, -⟩ | ⟨same, -⟩ | ⟨same, -⟩ | ⟨same, -⟩
  · cases same
  · cases same
  · exact place_inj (show place space name = place "s" "m" from same)
  · rw [same] at document
    exact absurd document (by decide)
  · rw [same] at document
    exact absurd document (by decide)

theorem imageAt?_littered : imageAt? littered (place "s" "m") = some importing := by
  have there : littered.tree.node? (place "s" "m") =
      ((some importing).map fun image => Yaml.format.write image.document).map .file := by
    rw [Option.map_some, Session.Trial.write_importing]
    rfl
  have own (other : Image) (same : some importing = some other) : other = importing := (Option.some.inj same).symm
  exact @imageAt?_of_written littered.tree littered importing _ Session.Trial.restores_importing
    Session.Trial.reads_importing own _ there

theorem tidy_littered : Tidy littered := by
  intro space name there
  obtain ⟨rfl, rfl⟩ := exists?_littered there
  exact ⟨importing, _, imageAt?_littered, rfl, rfl⟩

/-- The only object that is loaded from it. -/
theorem reload_littered {key : ObjectKey} {image : Image} :
    (reload littered).state.objects.get? key = some image ↔ key = Session.Trial.key "m" ∧ image = importing := by
  rw [tidy_littered.reload.2]
  constructor
  · rintro ⟨space, name, read, known⟩
    obtain ⟨rfl, rfl⟩ := exists?_littered (exists?_of_imageAt? read)
    obtain rfl := Option.some.inj (imageAt?_littered.symm.trans read)
    exact ⟨(Option.some.inj known).symm, rfl⟩
  · rintro ⟨rfl, rfl⟩
    exact ⟨"s", "m", imageAt?_littered, rfl⟩

end Trial

open Session.Trial (fresh)

/-- The first line of a new document is written beside the old one. -/
theorem crash_leaves_littered :
    Tidy Trial.littered ∧
      Tree.Stops Trial.littered.tree ((Request.persist (fresh "m")).steps Trial.loaded) (Trial.begun "---\n") ∧
      Survives Trial.littered { Trial.littered with tree := Trial.begun "---\n" } (fresh "m") (some (fresh "m")) := by
  have stops : Tree.Stops Trial.littered.tree ((Request.persist (fresh "m")).steps Trial.loaded)
      (Trial.begun "---\n") := by
    have written : (Yaml.format.write (fresh "m").document).toList =
        (Session.Trial.freshLines "m").flatMap String.toList := by
      rw [Session.Trial.write_fresh "m" (by decide), Session.Trial.freshPage, String.toList_ofList]
    have first : "---\n".toList <+: (Yaml.format.write (fresh "m").document).toList := by
      rw [written, Session.Trial.freshLines, List.flatMap_cons]
      exact List.prefix_append _ _
    let temporary := [Path.rootName, "s", "m.yaml.tmp"]
    have folders : Trial.littered.tree.step (.makeFolders [Path.rootName, "s"]) = (.ok (), Trial.littered.tree) := rfl
    have empties : Trial.littered.tree.step (.truncate temporary) = (.ok (), Trial.begun "") := rfl
    have fills : ((Trial.begun "").step (.append temporary "---\n")).2 = Trial.begun "---\n" := rfl
    rw [← fills]
    exact .after folders (.after empties (.amid (.text first)))
  refine ⟨Trial.tidy_littered, stops, ?_⟩
  refine crash_leaves_whole_documents (rfl : Trial.loaded.disk = some Trial.littered) Trial.tidy_littered rfl
    (Session.Trial.restores_fresh "m" (by decide)) (Session.Trial.reads_fresh "m" (by decide)) ?_ ?_ stops
  · rintro path ⟨⟩
    rfl
  · intro path key other otherPath _ stored _ _
    obtain ⟨rfl, rfl⟩ := Trial.reload_littered.mp stored
    rfl

namespace Trial

/-- An object whose name leads to the document of another one. -/
def crossing : Image := fresh "../s/m"

def crossingPath : Path := ⟨false, ["s", "..", "s", "m.yaml"]⟩

theorem path_crossing : documentPath crossing.id = .ok crossingPath := rfl

theorem restores_crossing : Yaml.format.Restores crossing.document :=
  Session.Trial.restores_fresh "../s/m" (by decide)

theorem reads_crossing : Image.ofDocument crossing.document = .ok crossing :=
  Session.Trial.reads_fresh "../s/m" (by decide)

/-- The tree when it is added. -/
def crossed : Tree :=
  (littered.tree.steps ((Request.add crossing).steps loaded)).2

theorem node?_crossed : crossed.node? (place "s" "m") = some (.file (Yaml.format.write crossing.document)) := by
  have ran : littered.tree.steps (writeSteps crossingPath (Yaml.format.write crossing.document)) = (.ok (), crossed) :=
    Prod.ext rfl rfl
  rcases writeSteps_cases ran with ⟨-, there, -⟩ | ⟨fault, failed, -⟩
  · exact there
  · cases failed

theorem redraws_crossed : Redraws crossingPath (some crossing) littered { littered with tree := crossed } := by
  have swaps : Swaps crossingPath ((some crossing).map fun image => Yaml.format.write image.document) littered.tree
      crossed := swaps_writeSteps path_crossing (Tree.stops_steps littered.tree _)
  refine swaps.redraws path_crossing (fun space name above => ?_) restores_crossing reads_crossing
    fun other same => (Option.some.inj same).symm
  have short : (place space name).length ≤ 2 := above.length_le
  exact absurd short (by simp [place])

theorem imageAt?_crossed : imageAt? { littered with tree := crossed } (place "s" "m") = some crossing := by
  have there : crossed.node? (place "s" "m") =
      ((some crossing).map fun image => Yaml.format.write image.document).map .file := node?_crossed
  exact @imageAt?_of_written crossed littered crossing _ restores_crossing reads_crossing
    (fun other same => (Option.some.inj same).symm) _ there

end Trial

/-- The document that was there is lost once the other object is added. -/
theorem document_lost_to_crossing_name :
    Tidy Trial.littered ∧ Yaml.format.Restores Trial.crossing.document ∧
      Image.ofDocument Trial.crossing.document = .ok Trial.crossing ∧
      ((Request.add Trial.crossing).run Trial.loaded).result = .ok () ∧
      Tree.Stops Trial.littered.tree ((Request.add Trial.crossing).steps Trial.loaded) Trial.crossed ∧
      ¬ Survives Trial.littered { Trial.littered with tree := Trial.crossed } Trial.crossing
        ((Request.add Trial.crossing).outcome Trial.crossing) := by
  refine ⟨Trial.tidy_littered, Trial.restores_crossing, Trial.reads_crossing, rfl, Tree.stops_steps _ _,
    fun survives => ?_⟩
  have tidy : Tidy { Trial.littered with tree := Trial.crossed } :=
    Trial.redraws_crossed.tidy Trial.tidy_littered Trial.path_crossing fun other same => (Option.some.inj same).symm
  have kept := survives.others (Session.Trial.key "m") (by decide)
  rw [Trial.reload_littered.mpr ⟨rfl, rfl⟩] at kept
  obtain ⟨space, name, read, -⟩ := (tidy.reload.2 _ _).mp kept
  have there := exists?_of_imageAt? read
  obtain ⟨rfl, rfl⟩ : space = "s" ∧ name = "m" := by
    rcases Trial.redraws_crossed space name with ⟨-, same⟩ | ⟨here, -⟩
    · exact Trial.exists?_littered (same ▸ there)
    · exact place_inj (show place space name = place "s" "m" from here)
  have names : Value.text "../s/m" = .text "m" :=
    congrArg Image.name (Option.some.inj (Trial.imageAt?_crossed.symm.trans read))
  exact absurd (Value.text.inj names) (by decide)

end Depot

end ImageOperator
