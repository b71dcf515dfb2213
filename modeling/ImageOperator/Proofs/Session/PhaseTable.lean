import ImageOperator.Proofs.Cloud.Named
import ImageOperator.Proofs.Scope.Faults
import ImageOperator.Proofs.Session.Run
import ImageOperator.Proofs.Session.Trial

set_option autoImplicit false

namespace ImageOperator

open Workspace (Named)

namespace Image

/-- What a phase says of the rest of a status. -/
def Status.Fits (status : Status) : Prop :=
  match status.phase with
  | .unknown => status.ready = false ∧ status.imageId = "" ∧ status.jobId = ""
  | .importing | .failed => status.ready = false ∧ status.imageId = "" ∧ status.jobId ≠ ""
  | .available => status.ready = true ∧ status.imageId ≠ ""

theorem Status.Fits.consistent {status : Status} (fits : status.Fits) : status.isConsistent = true := by
  unfold Status.Fits at fits
  unfold Status.isConsistent
  split at fits
  · simp [fits.1, fits.2.1]
  · simp [fits.1, fits.2.1]
  · simp [fits.1, fits.2.1]
  · simp [fits.1, fits.2]

theorem Status.fits_fresh : Status.fresh.Fits := ⟨rfl, rfl, rfl⟩

theorem Status.fits_available (status : Status) {imageId : String} (named : imageId ≠ "") :
    (status.available imageId).Fits := ⟨rfl, named⟩

theorem Status.fits_importing (status : Status) {jobId : String} (named : jobId ≠ "") :
    (status.importing jobId).Fits := ⟨rfl, rfl, named⟩

theorem fits_failed {image : Image} (fits : image.status.Fits) (tracks : Pass.tracks image = true) :
    image.status.failed.Fits := by
  simp only [Pass.tracks, Bool.and_eq_true, decide_eq_true_eq] at tracks
  simp only [Status.Fits, tracks.2] at fits
  exact ⟨rfl, fits.2.1, fits.2.2⟩

/-- The status is consistent, and unless the image is to be deleted its phase fits it. -/
structure Phased (image : Image) : Prop where
  consistent : image.status.isConsistent = true
  fits : image.deletionRequested = false → image.status.Fits

theorem phased_of_fits {image : Image} (fits : image.status.Fits) : image.Phased :=
  ⟨fits.consistent, fun _ => fits⟩

end Image

namespace Pass

open Bench (Ensures)

theorem Looks.named {bench : Bench} {outcome : Outcome Bench (Option Job)} (looked : Looks bench outcome)
    (named : Named bench.workspace) : Named outcome.state.workspace := by
  cases looked with
  | untracked idle => exact named
  | unasked failed => exact named.written _
  | unfailed tracked other => exact named.written _
  | failed tracked latest own state => exact named.written _

theorem ensures_named {bench : Bench} {outcome : Outcome Bench Ensured} (ensured : Ensures bench outcome)
    (named : Named bench.workspace) : Named outcome.state.workspace := by
  cases ensured with
  | unlisted failed | found calm first => exact named.written _
  | unasked absent failed | pending absent latest running => exact (named.written _).written _
  | unrequested absent free failed => exact ((named.written _).written _).written _
  | created absent free calm => exact (((named.written _).written _).written _).withJob _

theorem latest?_ne {bench : Bench} {job : Job} (named : Named bench.workspace) (latest : bench.latest? = some job) :
    job.jobId ≠ "" := by
  unfold Bench.latest? at latest
  split at latest
  · exact named.latest latest
  · cases latest

/-- What a pass over an image that is to be kept makes of its status fits again. -/
theorem Normal.fits {config : Config} {bench : Bench} {outcome : Outcome Bench Requeue}
    (normal : Normal config bench outcome) (named : Named bench.workspace) (fits : bench.image.status.Fits) :
    outcome.state.image.status.Fits ∧ Named outcome.state.workspace := by
  have guarded : bench.image.guarded.status.Fits := bench.image.guarded_status.symm ▸ fits
  cases normal with
  | unasked looked => exact ⟨guarded, looked.named named⟩
  | failed looked =>
    refine ⟨?_, looked.named named⟩
    cases looked with
    | failed tracked latest own state => exact Image.fits_failed guarded tracked
  | unsettled looked ensured => exact ⟨guarded, ensures_named ensured (looked.named named)⟩
  | found looked ensured =>
    have middle := looked.named named
    refine ⟨?_, ensures_named ensured middle⟩
    cases ensured with
    | found calm first => exact Image.Status.fits_available _ (middle.images _ (List.mem_of_find?_eq_some first))
  | created looked ensured =>
    refine ⟨?_, ensures_named ensured (looked.named named)⟩
    cases ensured with
    | created absent free calm => exact Image.Status.fits_importing bench.image.status (Workspace.jobIdOf_ne _)
  | pending looked ensured =>
    have middle := looked.named named
    refine ⟨?_, ensures_named ensured middle⟩
    cases ensured with
    | pending absent latest running =>
      exact Image.Status.fits_importing bench.image.status (Image.Status.tracked_ne (latest?_ne middle latest))

theorem ClearsImage.consistent {bench : Bench} {outcome : Outcome Bench Unit} (clears : ClearsImage bench outcome)
    (named : Named bench.workspace) (consistent : bench.image.status.isConsistent = true) :
    outcome.state.image.status.isConsistent = true ∧ Named outcome.state.workspace := by
  have turns := Workspace.deleteImage_turns bench.image.status.imageId bench.workspace
  cases clears with
  | blank unnamed => exact ⟨consistent, named⟩
  | refused given called failed =>
    rw [called] at turns
    exact ⟨consistent, named.turns turns⟩
  | cleared given called done =>
    rw [called] at turns
    exact ⟨rfl, named.turns turns⟩

theorem ClearsJob.consistent {bench : Bench} {outcome : Outcome Bench Unit} (clears : ClearsJob bench outcome)
    (named : Named bench.workspace) (consistent : bench.image.status.isConsistent = true) :
    outcome.state.image.status.isConsistent = true ∧ Named outcome.state.workspace := by
  have turns := Workspace.deleteJob_turns bench.image.status.jobId bench.workspace
  cases clears with
  | blank unnamed => exact ⟨consistent, named⟩
  | refused given called failed | cleared given called done =>
    rw [called] at turns
    exact ⟨consistent, named.turns turns⟩

theorem Deletes.consistent {bench : Bench} {outcome : Outcome Bench Requeue} (deletes : Deletes bench outcome)
    (named : Named bench.workspace) (consistent : bench.image.status.isConsistent = true) :
    outcome.state.image.status.isConsistent = true ∧ Named outcome.state.workspace := by
  cases deletes with
  | imageRefused image => exact image.consistent named consistent
  | jobRefused image job | cleared image job =>
    obtain ⟨middle_consistent, middle_named⟩ := image.consistent named consistent
    exact job.consistent middle_named middle_consistent

theorem Works.phased {config : Config} {bench : Bench} {outcome : Outcome Bench Requeue}
    (works : Works config bench outcome) (named : Named bench.workspace) (phased : bench.image.Phased) :
    outcome.state.image.Phased ∧ Named outcome.state.workspace := by
  cases works with
  | kept kept normal =>
    obtain ⟨fits, after_named⟩ := normal.fits named (phased.fits kept)
    exact ⟨Image.phased_of_fits fits, after_named⟩
  | requested requested deletes =>
    obtain ⟨consistent, after_named⟩ := deletes.consistent named phased.consistent
    refine ⟨⟨consistent, fun kept => ?_⟩, after_named⟩
    rw [deletes.akin.deletionRequested, requested] at kept
    cases kept

end Pass

/-- All objects are phased, and nothing in the cloud is without an identifier. -/
structure Scene.Phased (scene : Scene) : Prop where
  objects : ∀ entry ∈ scene.objects, entry.2.Phased
  workspaces : ∀ name, (scene.workspaces name).Named

theorem Image.Phased.marked {image : Image} (phased : image.Phased) (now : String) : (image.marked now).Phased := by
  refine ⟨image.marked_status now ▸ phased.consistent, fun kept => ?_⟩
  rw [Image.marked_deletionRequested] at kept
  cases kept

namespace Session

theorem Reconciles.phased {scene after : Scene} {id : ObjectId} {result : Except Fault Pass.Requeue}
    {notes : List Note} (reconciles : Reconciles scene id result after notes) (phased : scene.Phased) :
    after.Phased ∧ ∀ fault, result = .error fault → fault.isInconsistent = false := by
  cases reconciles with
  | idle other => exact ⟨phased, other⟩
  | @refused key image name result bench notes known stored client works broken =>
    have held := phased.objects _ (Catalog.mem_of_get? stored)
    obtain ⟨worked, named⟩ := works.phased (phased.workspaces name) held
    rw [worked.consistent] at broken
    cases broken
  | @handed key image name result bench notes ending objects known stored client works sound persists =>
    have held := phased.objects _ (Catalog.mem_of_get? stored)
    obtain ⟨worked, named⟩ := works.phased (phased.workspaces name) held
    refine ⟨⟨persists.forall phased.objects fun _ _ => worked, Scene.forall_withWorkspace phased.workspaces named⟩, ?_⟩
    intro fault failed
    cases ending with
    | error refusal =>
      cases failed
      cases persists with
      | refused store => exact Fault.isInconsistent_of_isStore store
    | ok =>
      cases failed
      exact Fault.isInconsistent_of_isOfCall works.isOfCall

/-- Routine commands under which images are added as they are before anything was done about them. -/
def addsFresh (session : Session) (command : Command) : Bool :=
  command.isRoutine && (session.brings command).all fun image => image.status = Image.Status.fresh

theorem step_phased {session : Session} {command : Command} (permitted : addsFresh session command = true)
    (phased : session.scene.Phased) : (step command session).state.scene.Phased := by
  simp only [addsFresh, Bool.and_eq_true] at permitted
  obtain ⟨routine, fresh⟩ := permitted
  obtain ⟨after, notes, reached, noted, moves⟩ := step_moves routine session
  rw [reached]
  cases moves with
  | rests => exact phased
  | adds brought adds =>
    rw [brought] at fresh
    refine ⟨adds.forall phased.objects fun _ _ => Image.phased_of_fits ?_, phased.workspaces⟩
    rw [of_decide_eq_true fresh]
    exact Image.Status.fits_fresh
  | marks marks =>
    refine ⟨?_, phased.workspaces⟩
    cases marks with
    | unknown unknown => exact phased.objects
    | absent known absent => exact phased.objects
    | handed known stored persists =>
      have held := phased.objects _ (Catalog.mem_of_get? stored)
      exact persists.forall phased.objects fun _ _ => held.marked _
  | turns turns =>
    exact ⟨phased.objects, Scene.forall_withWorkspace phased.workspaces ((phased.workspaces _).turns turns)⟩
  | reconciles told deeds reconciles => exact (reconciles.phased phased).1

theorem start_phased (settings : Settings) : (start settings).scene.Phased where
  objects := by
    intro entry member
    cases member
  workspaces := by
    intro name
    rw [scene_workspaces, workspace_start]
    exact Workspace.named_empty name

/-- In every run in which images are added as they are before anything was done about them, whatever happens in the
cloud, all statuses in the store are consistent, and the phase of an image that is not to be deleted fits its status. No
pass is refused at its end. -/
theorem phase_table {settings : Settings} {history : List (Session × Command)} {session : Session}
    (ran : Run addsFresh (start settings) history session) :
    (∀ image ∈ session.view.objects,
      (image.status.ready = true ↔ image.status.imageId ≠ "") ∧
        (image.deletionRequested = false → image.status.Fits)) ∧
      ∀ before id, (before, .reconcile id) ∈ history →
        ∀ path ready imageId, (reconcile id before).result ≠ .error (.inconsistent path ready imageId) := by
  have kept (session : Session) (command : Command) (permitted : addsFresh session command = true)
      (phased : session.scene.Phased) : (step command session).state.scene.Phased :=
    step_phased permitted phased
  refine ⟨fun image shown => ?_, fun before id given path ready imageId refused => ?_⟩
  · have phased := ran.holds (start_phased settings) kept
    obtain ⟨entry, held, rfl⟩ := List.mem_map.mp shown
    obtain ⟨consistent, fits⟩ := phased.objects entry held
    refine ⟨?_, fits⟩
    simp only [Image.Status.isConsistent, beq_iff_eq] at consistent
    simp [consistent]
  · obtain ⟨permitted, phased⟩ := ran.held (start_phased settings) kept before _ given
    obtain ⟨after_phased, other⟩ := (reconcile_passesOver id before).phased phased
    have sound := other _ refused
    cases sound

/-- An import that fails and is asked for again, found in the end, and marked for deletion while the cloud is down. -/
def retrying : List Command :=
  [Trial.add "m", .reconcile (Trial.id "m"), .cloud none (.failJob "job-1" "no such object"), .reconcile (Trial.id "m"),
    .reconcile (Trial.id "m"), .cloud none (.completeJob "job-2"), .reconcile (Trial.id "m"),
    .requestDeletion (Trial.id "m"), Trial.failing .deleteJob, .reconcile (Trial.id "m")]

theorem phase_table_of_retrying :
    permits addsFresh Trial.first retrying = true ∧
      (Trial.first.after retrying).view.objects.map (fun image => (image.status, image.deletionRequested)) =
        [(⟨false, "", .available, "job-2"⟩, true)] ∧
      (∀ image ∈ (Trial.first.after retrying).view.objects,
        (image.status.ready = true ↔ image.status.imageId ≠ "") ∧
          (image.deletionRequested = false → image.status.Fits)) ∧
      ∀ before id, (before, .reconcile id) ∈ Trial.first.past [] retrying →
        ∀ path ready imageId, (reconcile id before).result ≠ .error (.inconsistent path ready imageId) := by
  have permitted : permits addsFresh Trial.first retrying = true := by decide +kernel
  have ran : Run addsFresh (start Trial.settings) (Trial.first.past [] retrying) (Trial.first.after retrying) :=
    Run.rest.after permitted
  exact ⟨permitted, by decide +kernel, phase_table ran⟩

end Session

end ImageOperator
