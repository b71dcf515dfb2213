import ImageOperator.Proofs.Cloud.Orderly
import ImageOperator.Proofs.Session.Run
import ImageOperator.Proofs.Session.Trial

set_option autoImplicit false

namespace ImageOperator

open Workspace (Orderly Fit)

namespace Pass

open Bench (Ensures)

theorem Looks.orderly {name : String} {bench : Bench} {outcome : Outcome Bench (Option Job)}
    (looked : Looks bench outcome) (orderly : Orderly name bench.workspace) :
    Orderly name outcome.state.workspace ∧ Fit name outcome.notes := by
  cases looked with
  | untracked idle => exact ⟨orderly, Workspace.fit_nil name⟩
  | unasked failed => exact ⟨orderly.written _, Fit.cons orderly nofun (Workspace.fit_nil name)⟩
  | unfailed tracked other => exact ⟨orderly.written _, Fit.cons orderly nofun (Workspace.fit_nil name)⟩
  | failed tracked latest own state => exact ⟨orderly.written _, Fit.cons orderly nofun (Workspace.fit_nil name)⟩

/-- A job is asked for only when the client of the image's own workspace has told that the latest one has ended. -/
theorem ensures_orderly {name : String} {bench : Bench} {outcome : Outcome Bench Ensured}
    (ensured : Ensures bench outcome) (orderly : Orderly name bench.workspace)
    (own : bench.image.spec.workspace = name) :
    Orderly name outcome.state.workspace ∧ Fit name outcome.notes := by
  have listed : Orderly name bench.listed := orderly.written _
  have asked : Orderly name bench.asked := listed.written _
  have latest : bench.latest? = bench.asked.latest? := by
    have told : bench.image.spec.workspace = bench.workspace.instanceId := own.trans orderly.instanceId.symm
    simp only [Bench.latest?, told, ↓reduceIte]
    rfl
  have called : Fit name [.called bench.workspace .listImages,
      .called bench.listed (.latestJob bench.image.spec.workspace)] :=
    Fit.cons orderly nofun (Fit.cons listed nofun (Workspace.fit_nil name))
  have vacant (absent : bench.match? = none) (free : ∀ job, bench.latest? = some job → job.state.isTerminal = true) :
      ∀ request, Call.createJob (Bench.importRequest bench.image) = .createJob request →
        Workspace.Vacant request bench.asked := by
    rintro request ⟨⟩
    refine ⟨asked.ended (latest ▸ free), fun image listed => ?_⟩
    have other := List.find?_eq_none.mp absent image listed
    change image.name.same bench.image.name = false
    simpa using other
  cases ensured with
  | unlisted failed => exact ⟨listed, Fit.cons orderly nofun (Workspace.fit_nil name)⟩
  | found calm first => exact ⟨listed, Fit.cons orderly nofun (Workspace.fit_nil name)⟩
  | unasked absent failed => exact ⟨asked, called⟩
  | pending absent latest running => exact ⟨asked, called⟩
  | unrequested absent free failed =>
    exact ⟨asked.written _, called.append (Fit.cons asked (vacant absent free) (Workspace.fit_nil name))⟩
  | created absent free calm =>
    have created : Orderly name (bench.requested.withJob (Bench.importRequest bench.image)) :=
      (asked.written _).withJob (latest ▸ free) _
    exact ⟨created, called.append (Fit.cons asked (vacant absent free) (Workspace.fit_nil name))⟩

theorem Normal.orderly {name : String} {config : Config} {bench : Bench} {outcome : Outcome Bench Requeue}
    (normal : Normal config bench outcome) (orderly : Orderly name bench.workspace)
    (own : bench.image.spec.workspace = name) :
    Orderly name outcome.state.workspace ∧ Fit name outcome.notes := by
  have guarded : bench.image.guarded.spec.workspace = name := by rw [Image.guarded_spec, own]
  cases normal with
  | unasked looked => exact looked.orderly orderly
  | failed looked => exact looked.orderly orderly
  | unsettled looked ensured | found looked ensured | created looked ensured | pending looked ensured =>
    obtain ⟨middle, first⟩ := looked.orderly orderly
    obtain ⟨after, second⟩ := ensures_orderly ensured middle guarded
    exact ⟨after, first.append second⟩

theorem ClearsImage.orderly {name : String} {bench : Bench} {outcome : Outcome Bench Unit}
    (clears : ClearsImage bench outcome) (orderly : Orderly name bench.workspace) :
    Orderly name outcome.state.workspace ∧ Fit name outcome.notes := by
  have turns := Workspace.deleteImage_turns bench.image.status.imageId bench.workspace
  cases clears with
  | blank unnamed => exact ⟨orderly, Workspace.fit_nil name⟩
  | refused named called failed =>
    rw [called] at turns
    exact orderly.turns rfl turns
  | cleared named called done =>
    rw [called] at turns
    exact orderly.turns rfl turns

theorem ClearsJob.orderly {name : String} {bench : Bench} {outcome : Outcome Bench Unit}
    (clears : ClearsJob bench outcome) (orderly : Orderly name bench.workspace) :
    Orderly name outcome.state.workspace ∧ Fit name outcome.notes := by
  have turns := Workspace.deleteJob_turns bench.image.status.jobId bench.workspace
  cases clears with
  | blank unnamed => exact ⟨orderly, Workspace.fit_nil name⟩
  | refused named called failed =>
    rw [called] at turns
    exact orderly.turns rfl turns
  | cleared named called done =>
    rw [called] at turns
    exact orderly.turns rfl turns

theorem Deletes.orderly {name : String} {bench : Bench} {outcome : Outcome Bench Requeue}
    (deletes : Deletes bench outcome) (orderly : Orderly name bench.workspace) :
    Orderly name outcome.state.workspace ∧ Fit name outcome.notes := by
  cases deletes with
  | imageRefused image => exact image.orderly orderly
  | jobRefused image job | cleared image job =>
    obtain ⟨middle, first⟩ := image.orderly orderly
    obtain ⟨after, second⟩ := job.orderly middle
    exact ⟨after, first.append second⟩

theorem Works.orderly {name : String} {config : Config} {bench : Bench} {outcome : Outcome Bench Requeue}
    (works : Works config bench outcome) (orderly : Orderly name bench.workspace)
    (own : bench.image.spec.workspace = name) :
    Orderly name outcome.state.workspace ∧ Fit name outcome.notes := by
  cases works with
  | kept kept normal => exact normal.orderly orderly own
  | requested requested deletes => exact deletes.orderly orderly

end Pass

/-- Every workspace is orderly, and a client of its own serves each. -/
structure Scene.Orderly (scene : Scene) : Prop where
  own : scene.factory = .perWorkspace
  workspaces : ∀ name, (scene.workspaces name).Orderly name

namespace Session

theorem Reconciles.orderly {scene after : Scene} {id : ObjectId} {result : Except Fault Pass.Requeue}
    {notes : List Note} (reconciles : Reconciles scene id result after notes) (orderly : scene.Orderly) :
    after.Orderly ∧ ∃ name, Fit name notes := by
  have served {image : Image} {name : String} (served : scene.clientOf image = some name) :
      image.spec.workspace = name := by
    simpa [Scene.clientOf, orderly.own] using served
  cases reconciles with
  | idle other => exact ⟨orderly, "", Workspace.fit_nil ""⟩
  | @refused key image name _ bench _ known stored client works broken =>
    obtain ⟨worked, fit⟩ := works.orderly (orderly.workspaces name) (served client)
    exact ⟨⟨orderly.own, Scene.forall_withWorkspace orderly.workspaces worked⟩, name, fit⟩
  | @handed key image name _ bench _ _ _ known stored client works sound persists =>
    obtain ⟨worked, fit⟩ := works.orderly (orderly.workspaces name) (served client)
    refine ⟨⟨orderly.own, Scene.forall_withWorkspace orderly.workspaces worked⟩, name, fit.append ?_⟩
    exact Workspace.fit_submitted name bench.image

/-- Routine commands under which jobs are created by passes only and jobs that have ended stay as they are. -/
def jobsByPasses (session : Session) : Command → Bool
  | .cloud place order => (session.workspace (place.getD session.home)).fair order
  | command => command.isRoutine

theorem routine_of_jobsByPasses {session : Session} {command : Command}
    (permitted : jobsByPasses session command = true) : command.isRoutine = true := by
  cases command <;> first | rfl | exact permitted

theorem step_orderly {session : Session} {command : Command} (permitted : jobsByPasses session command = true)
    (orderly : session.scene.Orderly) :
    (step command session).state.scene.Orderly ∧
      ∃ name, Fit name ((step command).bare session).notes := by
  obtain ⟨after, notes, reached, noted, moves⟩ := step_moves (routine_of_jobsByPasses permitted) session
  rw [reached, noted]
  cases moves with
  | rests => exact ⟨orderly, "", Workspace.fit_nil ""⟩
  | adds brought adds => exact ⟨⟨orderly.own, orderly.workspaces⟩, "", Workspace.fit_nil ""⟩
  | marks marks =>
    refine ⟨⟨orderly.own, orderly.workspaces⟩, "", ?_⟩
    cases marks with
    | unknown unknown => exact Workspace.fit_nil ""
    | absent known absent => exact Workspace.fit_nil ""
    | handed known stored persists => exact Workspace.fit_submitted "" _
  | turns turns =>
    obtain ⟨turned, fit⟩ := (orderly.workspaces _).turns permitted turns
    exact ⟨⟨orderly.own, Scene.forall_withWorkspace orderly.workspaces turned⟩, _, fit⟩
  | reconciles told deeds reconciles => exact reconciles.orderly orderly

theorem start_orderly {settings : Settings} (own : settings.factory = .perWorkspace) :
    (start settings).scene.Orderly where
  own := own
  workspaces := by
    intro name
    rw [scene_workspaces, workspace_start]
    exact Workspace.orderly_empty name

/-- Runs of commands that leave jobs to passes stay orderly. -/
theorem Run.orderly_of {permitted : Session → Command → Bool} {first : Session}
    (implies : ∀ session command, permitted session command = true → jobsByPasses session command = true)
    (orderly : first.scene.Orderly) {history : List (Session × Command)} {session : Session}
    (ran : Run permitted first history session) :
    session.scene.Orderly ∧ ∀ before command, (before, command) ∈ history →
      permitted before command = true ∧ before.scene.Orderly := by
  have kept (session : Session) (command : Command) (allowed : permitted session command = true)
      (orderly : session.scene.Orderly) : (Session.step command session).state.scene.Orderly :=
    (step_orderly (implies session command allowed) orderly).1
  exact ⟨ran.holds orderly kept, ran.held orderly kept⟩

/-- In every run in which jobs are created by passes only, each workspace has at most one job on its way, which is the
one that its client tells of. That holds between commands and at every call, and a job is asked for only of a vacant
workspace. -/
theorem one_running_import {settings : Settings} (own : settings.factory = .perWorkspace)
    {history : List (Session × Command)} {session : Session}
    (ran : Run jobsByPasses (start settings) history session) :
    (∀ name, (session.workspace name).OneRunning name) ∧
      ∀ before command, (before, command) ∈ history →
        ∀ workspace call, .called workspace call ∈ (step command before).notes →
          workspace.OneRunning workspace.instanceId ∧
            ∀ request, call = .createJob request → workspace.Vacant request := by
  obtain ⟨last, held⟩ := ran.orderly_of (fun _ _ permitted => permitted) (start_orderly own)
  refine ⟨fun name => (last.workspaces name).oneRunning, fun before command given workspace call noted => ?_⟩
  obtain ⟨permitted, orderly⟩ := held before command given
  obtain ⟨name, fit⟩ := (step_orderly permitted orderly).2
  obtain ⟨found, vacant⟩ := fit workspace call (mem_notes_of_deed rfl noted)
  exact ⟨found.instanceId ▸ found.oneRunning, vacant⟩

/-- Two images in one workspace: the second waits for the job of the first, then asks for its own while a call fails;
the first is deleted, and with it its job. -/
def sharing : List Command :=
  [Trial.add "m", Trial.add "n", .reconcile (Trial.id "m"), .reconcile (Trial.id "n"),
    .cloud none (.completeJob "job-1"), Trial.failing .latestJob, .reconcile (Trial.id "n"), .cloud none .clear,
    .reconcile (Trial.id "n"), .requestDeletion (Trial.id "m"), .reconcile (Trial.id "m"),
    .cloud none (.startJob "job-3")]

theorem one_running_import_of_sharing :
    Trial.settings.factory = .perWorkspace ∧ permits jobsByPasses Trial.first sharing = true ∧
      ((Trial.first.after sharing).workspace "w").jobs.map (fun record => (record.job.jobId, record.job.state)) =
        [("job-3", .running)] ∧
      (∀ name, ((Trial.first.after sharing).workspace name).OneRunning name) ∧
      ∀ before command, (before, command) ∈ Trial.first.past [] sharing →
        ∀ workspace call, .called workspace call ∈ (step command before).notes →
          workspace.OneRunning workspace.instanceId ∧
            ∀ request, call = .createJob request → workspace.Vacant request := by
  have permitted : permits jobsByPasses Trial.first sharing = true := by decide +kernel
  have own : Trial.settings.factory = .perWorkspace := rfl
  have ran : Run jobsByPasses (start Trial.settings) (Trial.first.past [] sharing) (Trial.first.after sharing) :=
    Run.rest.after permitted
  exact ⟨own, permitted, by decide +kernel, one_running_import own ran⟩

end Session

end ImageOperator
