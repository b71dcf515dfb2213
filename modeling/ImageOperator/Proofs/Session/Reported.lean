import ImageOperator.Proofs.Session.Steady
import ImageOperator.Proofs.Session.Stored
import ImageOperator.Proofs.Session.Submitted
import ImageOperator.Proofs.Session.Trial

set_option autoImplicit false

/-!
Failed jobs and the passes that are to notice them. A pass asks for the latest job of the workspace, so it sees the
failure of its own job only while that one is the latest.
-/

namespace ImageOperator

namespace Workspace

variable {workspace : Workspace}

/-- No two jobs have the same identifier. -/
theorem Sorted.single (sorted : workspace.Sorted) {first second : JobRecord} (one : first ∈ workspace.jobs)
    (other : second ∈ workspace.jobs) (same : first.job.jobId = second.job.jobId) : first = second := by
  obtain ⟨serials, ids, increasing, -⟩ := sorted
  have apart : workspace.jobIds.Pairwise (· ≠ ·) := by
    rw [ids]
    exact increasing.map jobIdOf fun low high below same => Nat.ne_of_lt below (jobIdOf_injective same)
  have distinct : workspace.jobs.Pairwise fun early late => early.job.jobId ≠ late.job.jobId :=
    List.pairwise_map.mp apart
  obtain ⟨low, low_lt, rfl⟩ := List.getElem_of_mem one
  obtain ⟨high, high_lt, rfl⟩ := List.getElem_of_mem other
  rcases Nat.lt_trichotomy low high with below | equal | above
  · exact absurd same (List.pairwise_iff_getElem.mp distinct low high low_lt high_lt below)
  · simp only [equal]
  · exact absurd same.symm (List.pairwise_iff_getElem.mp distinct high low high_lt low_lt above)

end Workspace

/-- The failure of the job that is waited for is seen exactly while no other job is the latest. -/
theorem Bench.seesFailure_iff_latest {bench : Bench} (sorted : bench.workspace.Sorted)
    (own : bench.image.spec.workspace = bench.workspace.instanceId) (importing : bench.image.status.phase = .importing)
    {record : JobRecord} (held : record ∈ bench.workspace.jobs) (named : record.job.jobId = bench.image.status.jobId)
    (failed : record.job.state = .failed) :
    bench.seesFailure = true ↔ bench.workspace.jobIds.getLast? = some bench.image.status.jobId := by
  have listed : record.job.jobId ∈ bench.workspace.jobIds := List.mem_map_of_mem held
  have tracked : Pass.tracks bench.image = true := by
    simp [Pass.tracks, importing, ← named, sorted.named listed]
  rw [Bench.seesFailure_iff, Workspace.jobIds, List.getLast?_map]
  constructor
  · rintro ⟨-, job, latest, same, -⟩
    obtain ⟨last, at_end, rfl⟩ := Option.map_eq_some_iff.mp (Bench.latest?_eq_some.mp latest).2
    rw [at_end, Option.map_some, same]
  · intro latest
    obtain ⟨last, at_end, same⟩ := Option.map_eq_some_iff.mp latest
    obtain rfl := sorted.single held (List.mem_of_getLast? at_end) (named.trans same.symm)
    refine ⟨tracked, record.job, Bench.latest?_eq_some.mpr ⟨own, ?_⟩, named, failed⟩
    rw [Workspace.latest?, at_end, Option.map_some]

namespace Session

open Workspace (Imports Named)

variable {settings : Settings} {session : Session} {history : List (Session × Command)}

theorem Run.routine_workspace (ran : Run routinely (start settings) history session) (name : String) :
    (session.workspace name).Named ∧ (session.workspace name).Numbered ∧
      (session.workspace name).instanceId = name := by
  let property (workspace : Workspace) : Prop := workspace.Named ∧ workspace.Numbered ∧ workspace.instanceId = name
  have kept (before : Workspace) (command : CloudCommand) (after : Workspace) (notes : List Note)
      (turns : Workspace.Turns before command after notes) (held : property before) : property after :=
    ⟨held.1.turns turns, held.2.1.turns turns, turns.lasting.1.trans held.2.2⟩
  refine @Run.holds _ _ (fun session => property (session.workspace name)) ?_
    (fun before command routine held => step_holds routine kept held) _ _ ran
  rw [workspace_start]
  exact ⟨Workspace.named_empty name, fun _ held => (nomatch held), rfl⟩

theorem Run.routine_filed (ran : Run routinely (start settings) history session) : session.scene.objects.Filed := by
  refine @Run.holds _ _ (fun session => session.scene.objects.Filed) (fun entry stored => by cases stored)
    (fun before command routine filed => ?_) _ _ ran
  obtain ⟨after, notes, reached, noted, moves⟩ := step_moves routine before
  rw [reached]
  exact moves.filed filed

/-- In every run of passes over any objects, with jobs moved and other things done in between: where the job that an
object waits for has failed and nothing stands in the way of a pass over the object, the pass is done, and it has the
object fail, exactly if no job is left that came to the workspace after that one. A pass that has the object fail asks
for no job and for another pass after the interval for failures. -/
theorem failure_reported_iff (ran : Run routinely (start settings) history session) {id : ObjectId} {image : Image}
    (stored : session.stored? id = some image) (kept : image.deletionRequested = false)
    (waiting : image.status.phase = .importing ∧ image.status.ready = false ∧ image.status.imageId = "")
    (served : session.scene.clientOf image = some image.spec.workspace)
    (failed : ∃ record ∈ (session.workspace image.spec.workspace).jobs,
      record.job.jobId = image.status.jobId ∧ record.job.state = .failed)
    (unhindered : Unhindered id session) :
    ∃ requeue found, (reconcile id session).result = .ok requeue ∧
      (step (.reconcile id) session).state.stored? id = some found ∧
      (found.status.phase = .failed ↔
        ¬ Overtaken image.spec.workspace image.status.jobId history session) ∧
      (found.status.phase = .failed → requeue = some session.config.retryInterval ∧
        Imports 0 (session.workspace image.spec.workspace)
          ((step (.reconcile id) session).state.workspace image.spec.workspace)) := by
  obtain ⟨importing, unready, unnamed⟩ := waiting
  obtain ⟨record, held, own, state⟩ := failed
  obtain ⟨named, numbered, instanceId⟩ := ran.routine_workspace image.spec.workspace
  obtain ⟨key, known, there⟩ := Option.bind_eq_some_iff.mp stored
  have sound : image.status.Sound := by
    refine ⟨?_, fun _ => unready⟩
    simp [Image.Status.isConsistent, unready, unnamed]
  have tends : Tends session.scene key image.spec.workspace image :=
    ⟨ran.routine_filed _ (Catalog.mem_of_get? there), there, kept, sound, served, instanceId.symm, named, numbered⟩
  obtain ⟨requeue, bench, deeds, done, normal, put⟩ := (reconcile_attends known there).done tends unhindered
  obtain ⟨asked, advances⟩ := normal.advances
  obtain ⟨fails, nothing⟩ := advances.failed_iff
  have sorted := (ran.sorted image.spec.workspace).1
  have seen : (Bench.mk image (session.workspace image.spec.workspace)).seesFailure = true ↔
      ¬ Overtaken image.spec.workspace image.status.jobId history session :=
    (Bench.seesFailure_iff_latest sorted instanceId.symm importing held own state).trans
      (ran.latest_iff (own ▸ List.mem_map_of_mem held))
  have reached : (step (.reconcile id) session).state.scene =
      (session.scene.withWorkspace image.spec.workspace bench.workspace).withObjects
        (session.scene.objects.put key bench.image) := by
    rw [step_reconcile_state]
    exact put
  refine ⟨requeue, bench.image, done, ?_, fails.trans seen, fun failing => ?_⟩
  · rw [stored?, known, reached]
    exact Catalog.get?_put_self _ _ _
  · have sees := fails.mp failing
    obtain rfl := nothing sees
    refine ⟨normal.retries sees, ?_⟩
    rw [← scene_workspaces (step (.reconcile id) session).state, reached, Scene.withObjects_workspaces,
      Scene.withWorkspace_self]
    exact advances.imports

/-- The import of the first image fails; the second image is imported meanwhile, and deleted with its job. -/
def outlasting : List Command :=
  [Trial.add "m", Trial.add "n", .reconcile (Trial.id "m"), .cloud none (.failJob "job-1" "no such object"),
    .reconcile (Trial.id "n"), .requestDeletion (Trial.id "n"), .reconcile (Trial.id "n")]

theorem failure_reported_iff_of_outlasting :
    permits routinely Trial.first outlasting = true ∧
      ∃ image requeue found, (Trial.first.after outlasting).stored? (Trial.id "m") = some image ∧
        image.deletionRequested = false ∧ image.status = ⟨false, "", .importing, "job-1"⟩ ∧
        ((Trial.first.after outlasting).workspace "w").jobs.map (fun record => (record.job.jobId, record.job.state)) =
          [("job-1", .failed)] ∧
        (reconcile (Trial.id "m") (Trial.first.after outlasting)).result = .ok requeue ∧
        (step (.reconcile (Trial.id "m")) (Trial.first.after outlasting)).state.stored? (Trial.id "m") = some found ∧
        found.status.phase = .failed ∧ requeue = some Trial.settings.config.retryInterval ∧
        Imports 0 ((Trial.first.after outlasting).workspace "w")
          ((step (.reconcile (Trial.id "m")) (Trial.first.after outlasting)).state.workspace "w") := by
  have permitted : permits routinely Trial.first outlasting = true := by decide +kernel
  have ran : Run routinely (start Trial.settings) (Trial.first.past [] outlasting) (Trial.first.after outlasting) :=
    Run.rest.after permitted
  have jobs : ((Trial.first.after outlasting).workspace "w").jobs.map
      (fun record => (record.job.jobId, record.job.state)) = [("job-1", .failed)] := by decide +kernel
  have held : ∃ image record, (Trial.first.after outlasting).stored? (Trial.id "m") = some image ∧
      image.deletionRequested = false ∧ image.status = ⟨false, "", .importing, "job-1"⟩ ∧ image.spec.workspace = "w" ∧
      ((Trial.first.after outlasting).workspace "w").jobs = [record] ∧ record.job.jobId = "job-1" ∧
      record.job.state = .failed := ⟨_, _, rfl, rfl, rfl, rfl, rfl, rfl, rfl⟩
  obtain ⟨image, record, stored, kept, status, workspace, only, own, state⟩ := held
  have served : (Trial.first.after outlasting).scene.clientOf image = some image.spec.workspace := by
    rw [workspace]
    exact congrArg some workspace
  have unhindered : Unhindered (Trial.id "m") (Trial.first.after outlasting) :=
    unhindered_of_isOk (by decide +kernel)
  have alone : ¬ Overtaken "w" "job-1" (Trial.first.past [] outlasting) (Trial.first.after outlasting) := by
    rintro ⟨later, left, before, command, -, there, fresh, -⟩
    rw [Workspace.jobIds, only, List.map_singleton, own, List.mem_singleton] at left
    exact fresh (left ▸ there)
  obtain ⟨requeue, found, done, written, fails, nothing⟩ := failure_reported_iff ran stored kept
    (by rw [status]; exact ⟨rfl, rfl, rfl⟩) served
    ⟨record, by rw [workspace, only]; exact List.mem_cons_self, by rw [own, status], state⟩ unhindered
  rw [workspace, status] at fails
  rw [workspace] at nothing
  obtain ⟨again, imports⟩ := nothing (fails.mpr alone)
  exact ⟨permitted, image, requeue, found, stored, kept, status, jobs, done, written, fails.mpr alone, again, imports⟩

/-- The job of the second image comes after that of the first has failed, and the pass over the first sees only the
later one. -/
theorem failure_missed_of_later_job :
    let commands := outlasting.take 5
    let session := Trial.first.after commands
    permits routinely Trial.first commands = true ∧
      (session.stored? (Trial.id "m")).map (fun image => (image.deletionRequested, image.status)) =
        some (false, ⟨false, "", .importing, "job-1"⟩) ∧
      (session.workspace "w").jobs.map (fun record => (record.job.jobId, record.job.state)) =
        [("job-1", .failed), ("job-2", .queued)] ∧
      (reconcile (Trial.id "m") session).result = .ok (some Trial.settings.config.pollInterval) ∧
      ((step (.reconcile (Trial.id "m")) session).state.stored? (Trial.id "m")).map (·.status) =
        some ⟨false, "", .importing, "job-1"⟩ ∧
      Trial.settings.config.pollInterval ≠ Trial.settings.config.retryInterval := by
  refine ⟨by decide +kernel, by decide +kernel, by decide +kernel, rfl, by decide +kernel, by decide +kernel⟩

end Session

end ImageOperator
