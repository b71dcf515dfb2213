import ImageOperator.Proofs.Store.Notes
import ImageOperator.Proofs.Store.Request
import ImageOperator.Yaml.Format

set_option autoImplicit false

/-!
A request that fails leaves the store as it was. The document is dealt with before anything else, and whatever stands
in its way, at most what lies beside it was begun by then.
-/

namespace ImageOperator

/-- Notes of what listeners are told. -/
def Note.isFired : Note → Bool
  | .fired _ _ _ _ => true
  | _ => false

theorem Note.isFired_of_apart {note : Note} (apart : note.isOfStore = false) : note.isFired = false := by
  cases note with
  | fired | submitted => cases apart
  | called | requested | recorded | logged => rfl

namespace Depot

open Attempt (Preserves preserves_pure preserves_read preserves_fail preserves_of preserves_update)

variable {α β : Type} {depot : Depot}

/-- The store without its disk. -/
def unfiled (depot : Depot) : Depot :=
  { depot with disk := none }

theorem preserves_takeSteps (disk : Disk) (steps : List FileStep) : (takeSteps disk steps).Preserves unfiled := by
  unfold takeSteps
  rcases disk.tree.steps steps with ⟨fault | done, tree⟩
  · exact Preserves.bind (preserves_update fun _ => rfl) fun _ => preserves_fail _ _
  · exact preserves_update fun _ => rfl

theorem preserves_writeDocument (image : Image) : (writeDocument image).Preserves unfiled := by
  refine (preserves_read _).bind fun depot => ?_
  cases depot.disk with
  | none => exact preserves_pure _ _
  | some disk =>
    exact (preserves_of _ _).bind fun path => (preserves_takeSteps disk _).bind fun _ _ => rfl

theorem preserves_removeDocument (id : ObjectId) : (removeDocument id).Preserves unfiled := by
  refine (preserves_read _).bind fun depot => ?_
  cases depot.disk with
  | none => exact preserves_pure _ _
  | some disk =>
    refine (preserves_of _ _).bind fun path => (preserves_takeSteps disk _).bind fun _ => ?_
    split
    · exact fun _ => rfl
    · exact preserves_pure _ _

/-- Outcomes that leave everything but the disk as it was, and of which nobody is told. -/
structure Begun (depot : Depot) (outcome : Outcome Depot α) : Prop where
  unfiled : outcome.state.unfiled = depot.unfiled
  silent : ∀ note ∈ outcome.notes, note.isFired = false

/-- An attempt that has only begun if it fails. -/
def FailsFirst (attempt : Attempt Depot α) : Prop :=
  ∀ depot fault, (attempt depot).result = .error fault → Begun depot (attempt depot)

theorem FailsFirst.of_done {attempt : Attempt Depot α} (done : ∀ depot, ∃ value, (attempt depot).result = .ok value) :
    FailsFirst attempt := by
  intro depot fault failed
  obtain ⟨value, done⟩ := done depot
  rw [done] at failed
  cases failed

/-- What works on the disk alone may come before. -/
theorem FailsFirst.after {first : Attempt Depot α} {next : α → Attempt Depot β}
    (begins : ∀ depot, Begun depot (first depot)) (later : ∀ value, FailsFirst (next value)) : FailsFirst (first >>= next) := by
  intro depot fault failed
  obtain ⟨same, silent⟩ := begins depot
  rcases ran : first depot with ⟨fault | value, middle, notes⟩
  all_goals rw [ran] at same silent
  · rw [Attempt.bind_of_error ran]
    exact ⟨same, silent⟩
  · rw [Attempt.bind_of_ok ran] at failed ⊢
    obtain ⟨then_same, then_silent⟩ := later value middle fault failed
    refine ⟨then_same.trans same, fun note noted => ?_⟩
    rcases List.mem_append.mp noted with first_noted | then_noted
    · exact silent note first_noted
    · exact then_silent note then_noted

theorem begun_of_apart {attempt : Attempt Depot α} (preserves : attempt.Preserves unfiled)
    (apart : attempt.Calls calls) (depot : Depot) : Begun depot (attempt depot) := by
  refine ⟨preserves depot, fun note noted => ?_⟩
  have none : (attempt depot).notes.filter Note.isOfStore = [] := (apart depot).2
  rw [List.filter_eq_nil_iff] at none
  exact Note.isFired_of_apart (Bool.eq_false_iff.mpr (none note noted))

/-- What goes on unless it failed before. -/
theorem FailsFirst.guarded {fails : Prop} [Decidable fails] {fault : Fault} {next : Attempt Depot β}
    (later : FailsFirst next) :
    FailsFirst (if fails then Attempt.fail fault >>= fun _ : PUnit => next else next) := by
  split
  · exact fun depot _ _ => ⟨rfl, fun _ noted => absurd noted List.not_mem_nil⟩
  · exact later

theorem failsFirst_persist (image : Image) : FailsFirst (persist image) := by
  have submitted (depot : Depot) : Begun depot ((Attempt.note [.submitted image] : Attempt Depot Unit) depot) := by
    refine ⟨rfl, fun note noted => ?_⟩
    rw [List.mem_singleton.mp noted]
    rfl
  unfold persist
  refine .after submitted fun _ => .after (begun_of_apart (preserves_of _ _) (Attempt.calls_of _ _)) fun key => ?_
  refine .after (begun_of_apart (preserves_read _) (Attempt.calls_read _)) fun depot => .guarded ?_
  -- once the document is dealt with, nothing fails any more
  split
  · refine .after (begun_of_apart (preserves_removeDocument image.id) (calls_removeDocument image.id)) fun _ => ?_
    exact .of_done fun _ => ⟨(), rfl⟩
  · refine .after (begun_of_apart (preserves_writeDocument image) (calls_writeDocument image)) fun _ => ?_
    exact .of_done fun _ => ⟨(), rfl⟩

/-- What was begun of an image that is refused lies beside its document. -/
theorem persist_spared {image : Image} {fault : Fault} (failed : (persist image depot).result = .error fault) :
    Spared image.id depot.disk (persist image depot).state.disk := by
  have files := persist_files image depot
  rw [failed] at files
  cases files with
  | refused kept spared => exact spared

theorem writeDocument_spared {image : Image} {fault : Fault}
    (failed : (writeDocument image depot).result = .error fault) :
    Spared image.id depot.disk (writeDocument image depot).state.disk := by
  have disks := writeDocument_disks image depot
  rw [← Attempt.bare_state]
  rw [← Attempt.bare_result] at failed
  generalize (writeDocument image).bare depot = outcome at disks failed
  cases disks with
  | refused spared => exact spared
  | done wrote => cases failed

/-- An image whose document was written is put into the store. -/
theorem key?_of_written {image : Image} (placed : image.isPlaced = true) (filed : depot.disk.isNone = false)
    (written : (writeDocument image depot).result = .ok ()) : ∃ key, image.id.key? = some key := by
  have disks := writeDocument_disks image depot
  rw [← Attempt.bare_result] at written
  generalize (writeDocument image).bare depot = outcome at disks written
  cases disks with
  | refused spared => cases written
  | done wrote =>
    generalize depot.disk = disk at filed wrote
    cases wrote with
    | memory => cases filed
    | disk found there spares => exact key?_of_documentPath placed found

theorem addWritten_refused {image : Image} (placed : image.isPlaced = true) {fault : Fault}
    (failed : (addWritten image depot).result = .error fault) :
    Begun depot (addWritten image depot) ∧ Spared image.id depot.disk (addWritten image depot).state.disk := by
  have same : addWritten image depot = (if depot.disk.isNone = true then
      Attempt.fail .attribute >>= fun _ : PUnit => writeDocument image >>= fun _ => addObject image
    else writeDocument image >>= fun _ => addObject image) depot := rfl
  rw [same] at failed ⊢
  cases filed : depot.disk.isNone with
  | true => exact ⟨⟨rfl, fun _ noted => absurd noted List.not_mem_nil⟩, .same⟩
  | false =>
    simp only [filed, Bool.false_eq_true, ↓reduceIte] at failed ⊢
    have begun := begun_of_apart (preserves_writeDocument image) (calls_writeDocument image) depot
    have spared := @writeDocument_spared depot image
    have key := key?_of_written placed filed
    rcases ran : writeDocument image depot with ⟨early | done, middle, notes⟩
    all_goals rw [ran] at begun spared key
    · rw [Attempt.bind_of_error ran]
      exact ⟨begun, spared rfl⟩
    · obtain ⟨key, known⟩ := key rfl
      rw [Attempt.bind_of_ok ran, ← Attempt.bare_result, bare_addObject_of known] at failed
      cases failed

namespace Request

/-- Whether the image that a request adds has a namespace that images can have. -/
def isPlaced : Request → Bool
  | .add image => image.isPlaced
  | .persist _ | .delete _ _ => true

theorem refused {request : Request} (placed : request.isPlaced = true) {fault : Fault}
    (failed : (request.run depot).result = .error fault) :
    Begun depot (request.run depot) ∧ ((request.run depot).state.disk = depot.disk ∨
      ∃ image, request.image? depot = some image ∧ Spared image.id depot.disk (request.run depot).state.disk) := by
  cases request with
  | add image =>
    obtain ⟨begun, spared⟩ := addWritten_refused placed failed
    exact ⟨begun, .inr ⟨image, rfl, spared⟩⟩
  | persist image => exact ⟨failsFirst_persist image depot fault failed, .inr ⟨image, rfl, persist_spared failed⟩⟩
  | delete id now =>
    have deletes := requestDeletion_deletes id now depot
    simp only [run, image?] at failed ⊢
    generalize requestDeletion id now depot = outcome at deletes failed
    cases deletes with
    | unknown | absent => exact ⟨⟨rfl, fun _ noted => absurd noted List.not_mem_nil⟩, .inl rfl⟩
    | @handed key image record known stored =>
      obtain ⟨unfiled, quiet⟩ := failsFirst_persist (image.marked now) depot fault failed
      have asked : ((id.key?.bind depot.objects.get?).map (·.marked now)) = some (image.marked now) := by
        rw [known, Option.bind_some, stored, Option.map_some]
      refine ⟨⟨unfiled, fun other noted => ?_⟩, .inr ⟨_, asked, persist_spared failed⟩⟩
      rcases List.mem_cons.mp noted with rfl | later
      · rfl
      · exact quiet other later

end Request

/-- A store that is as it was, but for what lies beside the document of the image that a request is about. -/
structure LeftAs (depot : Depot) (image? : Option Image) (outcome : Outcome Depot Unit) : Prop where
  objects : outcome.state.objects = depot.objects
  audience : outcome.state.audience = depot.audience
  files : ∀ location, (∀ image path, image? = some image → documentPath image.id = .ok path →
    location ≠ (temporaryPath path).location) → file? outcome.state.disk location = file? depot.disk location
  silent : ∀ listener change id image, .fired listener change id image ∉ outcome.notes

/-- A request that fails, for whatever reason and whatever is on the disk, leaves the store as it was. -/
theorem failed_request_leaves_store {request : Request} (placed : request.isPlaced = true) {fault : Fault}
    (failed : (request.run depot).result = .error fault) :
    LeftAs depot (request.image? depot) (request.run depot) := by
  obtain ⟨⟨unfiled, silent⟩, disk⟩ := request.refused placed failed
  have objects := congrArg Depot.objects unfiled
  have audience := congrArg Depot.audience unfiled
  refine ⟨objects, audience, fun location elsewhere => ?_, ?_⟩
  · rcases disk with same | ⟨image, handed, spared⟩
    · rw [same]
    · exact spared.file?_of_ne fun path found => elsewhere image path handed found
  · intro listener change id image fired
    cases silent _ fired

namespace Trial

def image : Image where
  name := .text "m"
  space := .text "s"
  spec := ⟨"w", "b", "o", "r", "tier1"⟩
  status := Image.Status.fresh
  finalizers := []
  deletion := .null

/-- A store on a directory where a folder stands in the place of a document. -/
def blocked : Depot where
  objects := [(⟨Image.kind, .text "s", .text "m"⟩, image)]
  audience := Audience.standard
  disk := some ⟨⟨[([Path.rootName], .folder), ([Path.rootName, "s"], .folder),
    ([Path.rootName, "s", "m.yaml"], .folder), ([Path.rootName, "s", "n.yaml"], .file "")]⟩, Yaml.format⟩

end Trial

/-- The image is not added again, though a temporary file is left. -/
theorem failed_request_leaves_blocked :
    (Request.add Trial.image).isPlaced = true ∧
      ((Request.add Trial.image).run Trial.blocked).result = .error (.file .isFolder) ∧
      LeftAs Trial.blocked (some Trial.image) ((Request.add Trial.image).run Trial.blocked) :=
  have failed : ((Request.add Trial.image).run Trial.blocked).result = .error (.file .isFolder) := rfl
  ⟨rfl, failed, failed_request_leaves_store rfl failed⟩

end Depot

end ImageOperator
