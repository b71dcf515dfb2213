import ImageOperator.Proofs.Session.OwnJob
import Mathlib.Data.List.Nodup

set_option autoImplicit false

/-!
Whose images the statuses of stored objects name: an identifier in a status was given to an image of the object's name
in the object's workspace. Where no identifier is given twice in a workspace, a pass therefore deletes images of the
object's name only, and one at most.
-/

namespace ImageOperator

namespace Workspace

theorem addImage_images (workspace : Workspace) (name : Value) (imageId : String) :
    (workspace.addImage name imageId).2.images = workspace.images ++ [(workspace.addImage name imageId).1] := by
  unfold addImage
  split <;> rfl

end Workspace

/-- A list of images, and the list that is left when one image of a name is gone. -/
inductive Loses (name : Value) : List CloudImage → List CloudImage → Prop
  | one {image : CloudImage} {earlier later : List CloudImage} (bears : image.name.same name = true) :
      Loses name (earlier ++ image :: later) (earlier ++ later)

namespace Session

/-- The image that a command puts into a workspace, if it puts one there; it is what the command answers with. -/
def gift? (name : String) (session : Session) : Command → Option CloudImage
  | .cloud place command =>
    if place.getD session.home = name then
      match (step (.cloud place command) session).result with
      | .ok (.cloudImage image) => some image
      | _ => none
    else none
  | _ => none

/-- The images that were put into a workspace, with the identifiers that they were given, the latest first. -/
def given (name : String) (history : List (Session × Command)) : List CloudImage :=
  history.filterMap fun (session, command) => session.gift? name command

variable {id : ObjectId} {session after : Session} {command : Command} {history : List (Session × Command)}

theorem gift?_addImage (place : Option String) (name : Value) (imageId : String) (session : Session) :
    session.gift? (place.getD session.home) (.cloud place (.addImage name imageId)) =
      some ((session.workspace (place.getD session.home)).addImage name imageId).1 := by
  simp only [gift?, ↓reduceIte]
  rfl

theorem gift?_completeJob {place : Option String} {jobId : String} {record : JobRecord} {session : Session}
    (known : (session.workspace (place.getD session.home)).record? jobId = some record) :
    session.gift? (place.getD session.home) (.cloud place (.completeJob jobId)) =
      some (((session.workspace (place.getD session.home)).setJob jobId .completed none).addImage
        record.request.imageName "").1 := by
  have made : (inWorkspace (place.getD session.home) (Workspace.completeJob jobId) session).result =
      .ok (((session.workspace (place.getD session.home)).setJob jobId .completed none).addImage
        record.request.imageName "").1 := Workspace.completeJob_of known
  have answered : (step (.cloud place (.completeJob jobId)) session).result =
      .ok (.cloudImage (((session.workspace (place.getD session.home)).setJob jobId .completed none).addImage
        record.request.imageName "").1) := by
    change ((inWorkspace (place.getD session.home) (Workspace.completeJob jobId) >>= fun image =>
      pure (Answer.cloudImage image)) session).result = _
    rcases ran : inWorkspace (place.getD session.home) (Workspace.completeJob jobId) session with
      ⟨fault | image, reached, notes⟩
    all_goals rw [ran] at made
    · cases made
    · rw [Attempt.bind_of_ok ran, Except.ok.inj made]
      rfl
  simp only [gift?, ↓reduceIte, answered]

/-- What a turn of a workspace leaves there was there, or is what the turn put there. -/
theorem listed_of_turns {place : Option String} {command : CloudCommand} {workspace : Workspace} {notes : List Note}
    (turns : Workspace.Turns (session.workspace (place.getD session.home)) command workspace notes)
    {image : CloudImage} (listed : image ∈ workspace.images) :
    image ∈ (session.workspace (place.getD session.home)).images ∨
      session.gift? (place.getD session.home) (.cloud place command) = some image := by
  cases turns with
  | rests alike noted =>
    rw [alike.images] at listed
    exact .inl listed
  | @imageAdded name imageId =>
    rw [Workspace.addImage_images] at listed
    rcases List.mem_append.mp listed with old | new
    · exact .inl old
    · rw [List.mem_singleton.mp new]
      exact .inr (gift?_addImage place name imageId session)
  | imageDeleted alike =>
    rw [alike.images] at listed
    exact .inl (List.mem_of_mem_eraseP listed)
  | jobMoved progress known unfinished => exact .inl listed
  | jobCompleted known =>
    rw [Workspace.addImage_images] at listed
    rcases List.mem_append.mp listed with old | new
    · exact .inl old
    · rw [List.mem_singleton.mp new]
      exact .inr (gift?_completeJob known)
  | jobDeleted alike =>
    rw [alike.images] at listed
    exact .inl listed
  | jobCreated alike =>
    rw [alike.images] at listed
    exact .inl listed

/-- What is known of identifiers: whatever is listed in a workspace was put there, and the image that a status names
was put into the object's workspace with the object's name. -/
structure Identified (history : List (Session × Command)) (session : Session) : Prop where
  listed : ∀ name, ∀ image ∈ (session.workspace name).images, image ∈ given name history
  named : ∀ id image, session.stored? id = some image → image.status.imageId ≠ "" →
    ∃ name, session.scene.clientOf image = some name ∧ ∃ found ∈ given name history,
      found.imageId = image.status.imageId ∧ found.name.same image.name = true

theorem given_later {name : String} {image : CloudImage} (put : image ∈ given name history)
    (step : Session × Command) : image ∈ given name (step :: history) := by
  obtain ⟨entry, held, same⟩ := List.mem_filterMap.mp put
  exact List.mem_filterMap.mpr ⟨entry, List.mem_cons_of_mem _ held, same⟩

theorem Identified.later (identified : Identified history session) (step : Session × Command) :
    Identified (step :: history) session := by
  refine ⟨fun name image listed => given_later (identified.listed name image listed) step,
    fun id image stored named => ?_⟩
  obtain ⟨name, served, found, put, same, bears⟩ := identified.named id image stored named
  exact ⟨name, served, found, given_later put step, same, bears⟩

/-- What an image that is stored already says of itself holds of one with its name, workspace and identifier. -/
theorem Identified.of_same (identified : Identified history session) {old image : Image}
    (stored : session.stored? id = some old) (title : image.id = old.id) (spec : image.spec = old.spec)
    (status : image.status.imageId = old.status.imageId) (named : image.status.imageId ≠ "") :
    ∃ name, session.scene.clientOf image = some name ∧ ∃ found ∈ given name history,
      found.imageId = image.status.imageId ∧ found.name.same image.name = true := by
  obtain ⟨name, served, found, put, same, bears⟩ := identified.named id old stored (status ▸ named)
  have name_eq : image.name = old.name := congrArg ObjectId.name title
  refine ⟨name, ?_, found, put, same.trans status.symm, name_eq ▸ bears⟩
  rw [← served]
  simp only [Scene.clientOf, spec]

/-- A pass leaves in each workspace at most what was there. -/
theorem Treats.listed {image : Image} {name : String} {bench : Bench} (treats : Treats session image name bench after)
    (other : String) {listed : CloudImage} (left : listed ∈ (after.workspace other).images) :
    listed ∈ (session.workspace other).images := by
  rw [treats.workspaces] at left
  by_cases own : other = name
  · subst own
    rw [Scene.withWorkspace_self] at left
    cases treats.identifies with
    | keeps same images | finds first taken images => exact images ▸ left
    | deletes requested named same images =>
      rw [images] at left
      exact List.mem_of_mem_eraseP left
  · rw [Scene.withWorkspace_of_ne _ _ own] at left
    exact left

theorem Treats.named {image : Image} {name : String} {bench : Bench} (treats : Treats session image name bench after)
    (identified : Identified history session) (stored : session.stored? id = some image)
    (served : session.scene.clientOf image = some name) (named : bench.image.status.imageId ≠ "") :
    ∃ name, session.scene.clientOf bench.image = some name ∧ ∃ found ∈ given name history,
      found.imageId = bench.image.status.imageId ∧ found.name.same bench.image.name = true := by
  have kept (same : bench.image.status.imageId = image.status.imageId ∨ bench.image.status.imageId = "") :=
    identified.of_same stored treats.akin.id treats.akin.spec (same.resolve_right named) named
  cases treats.identifies with
  | keeps same images => exact kept same
  | deletes requested wasNamed same images => exact kept same
  | @finds found first taken images =>
    have title : bench.image.name = image.name := congrArg ObjectId.name treats.akin.id
    have member : found ∈ (session.workspace name).images := List.mem_of_find?_eq_some first
    have bears : found.name.same image.name = true :=
      List.find?_some (p := fun listed : CloudImage => listed.name.same image.name) first
    refine ⟨name, (clientOf_of_akin treats.akin).trans served, found, identified.listed name found member,
      taken.symm, ?_⟩
    rw [title]
    exact bears

/-- What a workspace lists after a routine command was listed before, or the command put it there. -/
theorem Identified.listed_next (identified : Identified history session) (permitted : command.isRoutine = true)
    {name : String} {image : CloudImage} (listed : image ∈ ((step command session).state.workspace name).images) :
    image ∈ given name ((session, command) :: history) := by
  have later := identified.later (session, command)
  obtain ⟨after, notes, reached, noted, moves⟩ := step_moves permitted session
  have workspaces := congrArg Scene.workspaces reached
  rw [scene_workspaces] at workspaces
  rw [workspaces] at listed
  cases moves with
  | rests | adds brought adds | marks marks => exact later.listed name image listed
  | @turns place order workspace _ turns =>
    by_cases own : name = place.getD session.home
    · subst own
      rw [Scene.withWorkspace_self] at listed
      rcases listed_of_turns turns listed with old | new
      · exact later.listed _ image old
      · exact List.mem_filterMap.mpr ⟨_, List.mem_cons_self, new⟩
    · rw [Scene.withWorkspace_of_ne _ _ own] at listed
      exact later.listed name image listed
  | @reconciles passed _ _ _ told deeds reconciles =>
    rcases step_treats passed session with same | ⟨old, place, bench, found, client, treats⟩
    · rw [← workspaces, ← scene_workspaces, same] at listed
      exact later.listed name image listed
    · rw [← workspaces] at listed
      exact later.listed name image (treats.listed name listed)

/-- An image that a status names after a routine command was put there with the object's name before that. -/
theorem Identified.named_next (identified : Identified history session) (permitted : addsFresh session command = true)
    {image : Image} (stored : (step command session).state.stored? id = some image)
    (named : image.status.imageId ≠ "") :
    ∃ name, session.scene.clientOf image = some name ∧ ∃ found ∈ given name history,
      found.imageId = image.status.imageId ∧ found.name.same image.name = true := by
  have fresh := permitted
  simp only [addsFresh, Bool.and_eq_true] at fresh
  obtain ⟨routine, fresh⟩ := fresh
  obtain ⟨after, notes, reached, noted, moves⟩ := step_moves routine session
  have objects := congrArg Scene.objects reached
  have kept (still : (step command session).state.stored? id = session.stored? id) :=
    identified.named id image (still ▸ stored) named
  cases moves with
  | rests | turns turns => exact kept (stored?_of_objects objects id)
  | @adds _ added _ _ brought adds =>
    rw [Scene.withObjects_objects] at objects
    rcases stored?_of_adds (objects ▸ adds) id with still | new
    · exact kept still
    · obtain rfl := Option.some.inj (new.symm.trans stored)
      simp only [brought, Option.all_some, decide_eq_true_eq] at fresh
      rw [fresh] at named
      exact absurd rfl named
  | @marks asked now _ _ _ marks =>
    rw [Scene.withObjects_objects] at objects
    cases marks with
    | unknown unknown | absent known absent => exact kept (stored?_of_objects objects id)
    | @handed key old _ _ known there persists =>
      rcases stored?_of_persists (objects ▸ persists) id with still | gone | ⟨-, new, -⟩
      · exact kept still
      · rw [gone] at stored
        cases stored
      · obtain rfl := Option.some.inj (new.symm.trans stored)
        have found : session.stored? asked = some old := by
          rw [stored?, known]
          exact there
        have status : (old.marked now).status.imageId = old.status.imageId := by rw [old.marked_status now]
        exact identified.of_same found (old.marked_id now) (old.marked_spec now) status named
  | @reconciles passed _ _ _ told deeds reconciles =>
    rcases step_treats passed session with same | ⟨old, place, bench, found, client, treats⟩
    · exact kept (stored?_of_objects (congrArg Scene.objects same) id)
    · rcases treats.stored id with still | gone | ⟨-, new⟩
      · exact kept still
      · rw [gone] at stored
        cases stored
      · obtain rfl := Option.some.inj (new.symm.trans stored)
        exact treats.named identified found client named

/-- The step lemma: one case for each way in which a routine command can move the store and the workspaces. -/
theorem Identified.next (identified : Identified history session) (permitted : addsFresh session command = true) :
    Identified ((session, command) :: history) (step command session).state := by
  have routine := permitted
  simp only [addsFresh, Bool.and_eq_true] at routine
  refine ⟨fun name image listed => identified.listed_next routine.1 listed, fun id image stored named => ?_⟩
  obtain ⟨name, client, found, put, same⟩ := identified.named_next permitted stored named
  obtain ⟨after, notes, reached, noted, moves⟩ := step_moves routine.1 session
  refine ⟨name, ?_, found, given_later put _, same⟩
  rw [reached, moves.clientOf]
  exact client

theorem start_identified (settings : Settings) : Identified [] (start settings) := by
  refine ⟨fun name image listed => ?_, fun id image stored => ?_⟩
  · rw [workspace_start] at listed
    cases listed
  · obtain ⟨key, -, held⟩ := Option.bind_eq_some_iff.mp stored
    cases held

/-- The run lemma: all that was put into workspaces by the end of a run accounts for every point of it. -/
theorem Run.identified {settings : Settings} (ran : Run addsFresh (start settings) history session) :
    Identified history session ∧ ∀ before command, (before, command) ∈ history → Identified history before := by
  induction ran with
  | rest => exact ⟨start_identified settings, fun _ _ given => absurd given List.not_mem_nil⟩
  | step ran permitted ih =>
    obtain ⟨now, earlier⟩ := ih
    refine ⟨now.next permitted, fun before command given => ?_⟩
    rcases List.mem_cons.mp given with latest | given
    · obtain ⟨rfl, rfl⟩ := Prod.mk.inj latest
      exact now.later _
    · exact (earlier before command given).later _

/-- Two entries of a list whose identifiers are distinct, of one identifier, are one. -/
theorem image_eq_of_distinct {name : String} {first second : CloudImage}
    (distinct : ((given name history).map (·.imageId)).Nodup) (one : first ∈ given name history)
    (other : second ∈ given name history) (same : first.imageId = second.imageId) : first = second :=
  List.inj_on_of_nodup_map distinct one other same

/-- Where one image at most of an identifier was put into each workspace, a pass that deletes an image deletes one of
the object's name. -/
theorem Treats.loses {image : Image} {name : String} {bench : Bench} (treats : Treats session image name bench after)
    (identified : Identified history session) (distinct : ((given name history).map (·.imageId)).Nodup)
    (stored : session.stored? id = some image) (served : session.scene.clientOf image = some name) :
    (after.workspace name).images = (session.workspace name).images ∨ image.deletionRequested = true ∧
      Loses image.name (session.workspace name).images (after.workspace name).images := by
  rw [treats.workspaces, Scene.withWorkspace_self]
  cases treats.identifies with
  | keeps same images => exact .inl images
  | finds first taken images => exact .inl images
  | deletes requested named same images =>
    by_cases present : ∃ listed ∈ (session.workspace name).images, listed.imageId = image.status.imageId
    · obtain ⟨listed, member, matching⟩ := present
      obtain ⟨deleted, earlier, later, -, own, split, erased⟩ :=
        List.exists_of_eraseP (p := (·.imageId = image.status.imageId)) member (by simpa using matching)
      obtain ⟨place, client, found, put, same, bears⟩ := identified.named id image stored named
      obtain rfl := Option.some.inj (served.symm.trans client)
      have own : deleted.imageId = image.status.imageId := by simpa using own
      have listed : deleted ∈ (session.workspace name).images :=
        split ▸ List.mem_append_right earlier List.mem_cons_self
      obtain rfl := image_eq_of_distinct distinct put (identified.listed name deleted listed) (same.trans own.symm)
      rw [images, erased, split]
      exact .inr ⟨requested, .one bears⟩
    · refine .inl (images.trans (List.eraseP_of_forall_not fun listed member => ?_))
      simpa using fun matching => present ⟨listed, member, matching⟩

/-- Where no identifier is given to two images of a workspace, an identifier in a status was given, in the object's
workspace, to an image of the object's name. So the image that a pass deletes, if it deletes any, bears the name of the
object, whose deletion was asked for. -/
theorem deleted_images_bear_name {settings : Settings} (ran : Run addsFresh (start settings) history session)
    (distinct : ∀ name, ((given name history).map (·.imageId)).Nodup) :
    (∀ id image, session.stored? id = some image → image.status.imageId ≠ "" →
      ∃ name, session.scene.clientOf image = some name ∧ ∃ found ∈ given name history,
        found.imageId = image.status.imageId ∧ found.name.same image.name = true) ∧
    ∀ before id, (before, .reconcile id) ∈ history → ∀ place,
      let left := (step (.reconcile id) before).state.workspace place
      left.images = (before.workspace place).images ∨
        ∃ image, before.stored? id = some image ∧ image.deletionRequested = true ∧
          before.scene.clientOf image = some place ∧ Loses image.name (before.workspace place).images left.images := by
  obtain ⟨identified, earlier⟩ := ran.identified
  refine ⟨identified.named, fun before id given place => ?_⟩
  intro left
  rcases step_treats id before with same | ⟨image, name, bench, stored, client, treats⟩
  · exact .inl (congrArg Workspace.images (congrFun (congrArg Scene.workspaces same) place))
  · by_cases own : place = name
    · subst own
      rcases treats.loses (earlier before _ given) (distinct place) stored client with kept | ⟨requested, loses⟩
      · exact .inl kept
      · exact .inr ⟨image, stored, requested, client, loses⟩
    · refine .inl (congrArg Workspace.images ?_)
      exact (congrFun treats.workspaces place).trans (Scene.withWorkspace_of_ne _ _ own)

namespace Trial

/-- Two images of one name and one of another are put there, a pass takes up the first, and a later one deletes it. -/
def twice : List Command :=
  [add "m", .cloud none (.addImage (.text "m") "i-1"), .cloud none (.addImage (.text "n") "i-2"),
    .cloud none (.addImage (.text "m") ""), .reconcile (Trial.id "m"), .requestDeletion (Trial.id "m"),
    .reconcile (Trial.id "m")]

end Trial

theorem deleted_images_bear_name_of_twice :
    permits addsFresh Trial.first Trial.twice = true ∧
      (∀ name, ((given name (Trial.first.past [] Trial.twice)).map (·.imageId)).Nodup) ∧
      (∃ before, (before, .reconcile (Trial.id "m")) ∈ Trial.first.past [] Trial.twice ∧
        (before.workspace "w").images.map (·.imageId) = ["i-1", "i-2", "image-1"] ∧
        ((step (.reconcile (Trial.id "m")) before).state.workspace "w").images.map (·.imageId) = ["i-2", "image-1"] ∧
        ∃ image, before.stored? (Trial.id "m") = some image ∧ image.deletionRequested = true ∧
          Loses image.name (before.workspace "w").images
            ((step (.reconcile (Trial.id "m")) before).state.workspace "w").images) := by
  have permitted : permits addsFresh Trial.first Trial.twice = true := rfl
  have ran : Run addsFresh (start Trial.settings) (Trial.first.past [] Trial.twice) (Trial.first.after Trial.twice) :=
    Run.rest.after permitted
  have distinct (name : String) : ((given name (Trial.first.past [] Trial.twice)).map (·.imageId)).Nodup := by
    by_cases home : "w" = name
    · subst home
      have ids : (given "w" (Trial.first.past [] Trial.twice)).map (·.imageId) = ["image-1", "i-2", "i-1"] := rfl
      rw [ids]
      decide
    · have none_there : given name (Trial.first.past [] Trial.twice) = [] := by
        refine List.filterMap_eq_nil_iff.mpr ?_
        refine List.forall_mem_cons.mpr ⟨rfl, List.forall_mem_cons.mpr ⟨rfl, List.forall_mem_cons.mpr ⟨rfl, ?_⟩⟩⟩
        refine List.forall_mem_cons.mpr ⟨if_neg home, List.forall_mem_cons.mpr ⟨if_neg home, ?_⟩⟩
        exact List.forall_mem_cons.mpr ⟨if_neg home, List.forall_mem_cons.mpr ⟨rfl, List.forall_mem_nil _⟩⟩
      rw [none_there]
      exact List.nodup_nil
  obtain ⟨-, deletes⟩ := deleted_images_bear_name ran distinct
  have given : (Trial.first.after (Trial.twice.take 6), .reconcile (Trial.id "m")) ∈ Trial.first.past [] Trial.twice :=
    List.mem_cons_self
  have before : ((Trial.first.after (Trial.twice.take 6)).workspace "w").images.map (·.imageId) =
      ["i-1", "i-2", "image-1"] := rfl
  have left : ((step (.reconcile (Trial.id "m")) (Trial.first.after (Trial.twice.take 6))).state.workspace
      "w").images.map (·.imageId) = ["i-2", "image-1"] := by
    decide +kernel
  refine ⟨permitted, distinct, _, given, before, left, ?_⟩
  rcases deletes _ _ given "w" with kept | ⟨image, stored, requested, -, loses⟩
  · rw [kept, before] at left
    exact absurd left (by decide)
  · exact ⟨image, stored, requested, loses⟩

end Session

end ImageOperator
