import ImageOperator.Proofs.Session.Attached
import ImageOperator.Proofs.Session.Trial

set_option autoImplicit false

/-!
Jobs that are submitted and given up: by a scope that is never closed, or by a pass whose image the store does not take.
A later pass takes such a job up only if the stored status names none that is on its way.
-/

namespace ImageOperator

namespace Workspace

/-- The job that is on its way is the only one. -/
theorem Orderly.running {name : String} {workspace : Workspace} {record : JobRecord} (orderly : Orderly name workspace)
    (last : workspace.jobs.getLast? = some record) (running : record.job.state.isTerminal = false) :
    workspace.jobs.filter (fun record => !record.job.state.isTerminal) = [record] := by
  have none_early : workspace.jobs.dropLast.filter (fun record => !record.job.state.isTerminal) = [] := by
    refine List.filter_eq_nil_iff.mpr fun record member => ?_
    simp [orderly.settled record member]
  obtain ⟨early, same⟩ := List.getLast?_eq_some_iff.mp last
  rw [same, List.dropLast_concat] at none_early
  rw [same, List.filter_append, none_early, List.nil_append]
  simp [running]

end Workspace

namespace Session

open Pass (tracks)
open Workspace (jobIdOf)

variable {id : ObjectId} {name jobId : String} {session : Session} {command : Command}
  {history : List (Session × Command)}

/-- A job that the stored status does not name came while the status waited for the job that it waits for still. -/
def GivenUp (id : ObjectId) (name jobId : String) (history : List (Session × Command)) (session : Session) : Prop :=
  ∃ image, session.stored? id = some image ∧ tracks image = true ∧
    ∃ before command old, (before, command) ∈ history ∧ before.stored? id = some old ∧ tracks old = true ∧
      old.status.jobId = image.status.jobId ∧ Submits name jobId before command

/-- Where the status waits for a job that is not the latest, the latest one was given up. -/
def Behind (id : ObjectId) (name : String) (history : List (Session × Command)) (session : Session) : Prop :=
  ∀ image last, session.stored? id = some image → tracks image = true →
    (session.workspace name).jobIds.getLast? = some last → last ≠ image.status.jobId →
      GivenUp id name last history session

theorem Behind.next (behind : Behind id name history session) (attached : Attached id name session)
    (carries : Carries id name session (step command session).state) :
    Behind id name ((session, command) :: history) (step command session).state := by
  obtain ⟨image, found, stored, written, akin, leads⟩ := carries.leads
  intro other last there tracked latest apart
  obtain rfl := Option.some.inj (written.symm.trans there)
  -- As long as the same job is waited for, what was given up before is given up still.
  have still (before_tracked : tracks image = true) (same : found.status.jobId = image.status.jobId)
      (ids : ((step command session).state.workspace name).jobIds = (session.workspace name).jobIds) :
      GivenUp id name last ((session, command) :: history) (step command session).state := by
    rw [ids] at latest
    obtain ⟨held, known, -, before, order, old, given, then_stored, then_tracked, own, submits⟩ :=
      behind image last stored before_tracked latest (same ▸ apart)
    obtain rfl := Option.some.inj (stored.symm.trans known)
    exact ⟨found, written, tracked, before, order, old, List.mem_cons_of_mem _ given, then_stored, then_tracked,
      own.trans same.symm, submits⟩
  cases leads with
  | rests same grows =>
    have before_tracked : tracks image = true := by
      rw [tracks, ← same]
      exact tracked
    have job : found.status.jobId = image.status.jobId := congrArg Image.Status.jobId same
    cases grows with
    | keeps ids serial => exact still before_tracked job ids
    | adds ids serial =>
      rw [ids, List.getLast?_concat, Option.some.injEq] at latest
      subst latest
      refine ⟨found, written, tracked, session, command, image, List.mem_cons_self, stored, before_tracked, job.symm,
        attached.sorted.fresh, ?_⟩
      rw [ids]
      exact List.mem_append_right _ List.mem_cons_self
  | settles idle ids =>
    rw [idle] at tracked
    cases tracked
  | waits before_tracked same ids => exact still before_tracked same ids
  | adopts last_before ids =>
    rw [ids, last_before, Option.some.injEq] at latest
    exact absurd latest.symm apart
  | submits own ids =>
    rw [ids, List.getLast?_concat, Option.some.injEq] at latest
    exact absurd (latest.symm.trans own.symm) apart

variable {start : Session}

theorem Run.attached (ran : Run (importsOnly id name) start history session) (first : Attached id name start) :
    Attached id name session ∧ ∀ before command, (before, command) ∈ history →
      importsOnly id name before command = true ∧ Attached id name before := by
  have kept (session : Session) (command : Command) (permitted : importsOnly id name session command = true)
      (attached : Attached id name session) : Attached id name (Session.step command session).state :=
    (step_attached permitted attached).1
  exact ⟨ran.holds first kept, ran.held first kept⟩

theorem Run.behind (ran : Run (importsOnly id name) start history session) (first : Attached id name start)
    (settled : Behind id name [] start) : Behind id name history session := by
  induction ran with
  | rest => exact settled
  | step ran permitted ih =>
    have attached := (ran.attached first).1
    exact ih.next attached (step_attached permitted attached).2

/-- Jobs that came in a run are there at its end. -/
theorem Run.lasting (ran : Run (importsOnly id name) start history session) (first : Attached id name start)
    {before : Session} (given : (before, command) ∈ history) (submits : Submits name jobId before command) :
    jobId ∈ (session.workspace name).jobIds := by
  induction ran with
  | rest => cases given
  | @step history session latest ran permitted ih =>
    rcases List.mem_cons.mp given with same | earlier
    · obtain ⟨rfl, rfl⟩ := Prod.mk.inj same
      exact submits.2
    · exact (step_attached permitted (ran.attached first).1).2.grows.lasting (ih earlier)

/-- A store that holds something after the first command has had it added. -/
theorem step_first {settings : Settings} {image : Image} (routine : command.isRoutine = true)
    (stored : (step command (Session.start settings)).state.stored? id = some image) :
    ∃ key, id.key? = some key ∧ image.id.key? = some key ∧ (step command (Session.start settings)).state.scene =
      (Session.start settings).scene.withObjects [(key, image)] := by
  obtain ⟨key, known, there⟩ := Option.bind_eq_some_iff.mp stored
  obtain ⟨scene, notes, reached, noted, moves⟩ := step_moves routine (Session.start settings)
  rw [reached] at there ⊢
  refine ⟨key, known, ?_⟩
  cases moves with
  | rests | turns turns => cases there
  | marks marks =>
    cases marks with
    | unknown unknown | absent same absent => cases there
    | handed same held persists => cases held
  | reconciles told deeds reconciles =>
    cases reconciles with
    | idle other => cases there
    | refused same held served works broken | handed same held served works sound persists => cases held
  | adds brought adds =>
    cases adds with
    | refused store => cases there
    | @put own added =>
      obtain ⟨rfl, rfl⟩ := Catalog.eq_of_get?_single there
      exact ⟨added, rfl⟩

theorem first_attached {settings : Settings} {image : Image} (routine : command.isRoutine = true)
    (stored : (step command (Session.start settings)).state.stored? id = some image)
    (fresh : image.status = Image.Status.fresh) (kept : image.deletionRequested = false)
    (served : (Session.start settings).scene.clientOf image = some image.spec.workspace) :
    Attached id image.spec.workspace (step command (Session.start settings)).state ∧
      Behind id image.spec.workspace [] (step command (Session.start settings)).state := by
  obtain ⟨key, known, own, reached⟩ := step_first routine stored
  have idle : tracks image = false := by simp [tracks, fresh, Image.Status.fresh]
  have workspace : (step command (Session.start settings)).state.workspace image.spec.workspace =
      Workspace.empty image.spec.workspace :=
    (congrFun (congrArg Scene.workspaces reached) _).trans (workspace_start settings _)
  have single {entry : ObjectKey × Image}
      (member : entry ∈ (step command (Session.start settings)).state.scene.objects) : entry = (key, image) := by
    rw [reached] at member
    exact List.mem_singleton.mp member
  have scopes : (step command (Session.start settings)).state.scopes = [] :=
    step_preserves routine (Session.start settings)
  refine ⟨⟨?_, ⟨image, stored, kept, rfl, ?_, ?_⟩, ?_, ?_, ?_, ?_⟩, ?_⟩
  · intro entry member
    rw [single member]
    exact own
  · rw [reached]
    exact served
  · intro tracked
    rw [idle] at tracked
    cases tracked
  · intro entry member _
    rw [single member]
    exact own.trans known.symm
  · intro scope member
    rw [scopes] at member
    cases member
  · rw [workspace]
    exact Workspace.orderly_empty _
  · rw [workspace]
    exact Workspace.sorted_empty _
  · intro other last there tracked
    obtain rfl := Option.some.inj (stored.symm.trans there)
    rw [idle] at tracked
    cases tracked

/-- A pass that returns and leaves its object importing has waited for the latest job or created one. -/
theorem Attached.returns {image found : Image} {requeue : Pass.Requeue} (attached : Attached id name session)
    (stored : session.stored? id = some image) (returned : (reconcile id session).result = .ok requeue)
    (written : (step (.reconcile id) session).state.stored? id = some found)
    (importing : found.status.phase = .importing) :
    ∃ record, ((step (.reconcile id) session).state.workspace name).jobs.getLast? = some record ∧
      record.job.state.isTerminal = false ∧
      ((found.status.jobId = image.status.tracked record.job ∧
          (session.workspace name).jobIds.getLast? = some record.job.jobId) ∨
        found.status.jobId = record.job.jobId ∧ record.job.jobId ∉ (session.workspace name).jobIds) := by
  obtain ⟨held, same_stored, kept, place, serves, -⟩ := attached.object
  obtain rfl := Option.some.inj (stored.symm.trans same_stored)
  obtain ⟨key, known, there⟩ := Option.bind_eq_some_iff.mp stored
  have own : image.id.key? = some key := attached.filed _ (Catalog.mem_of_get? there)
  have attends := reconcile_attends known there
  rw [← Attempt.bare_result] at returned
  rw [AttendsTo, returned, ← step_reconcile_state] at attends
  have workspaces (name : String) : (step (.reconcile id) session).state.workspace name =
      (step (.reconcile id) session).state.scene.workspaces name := rfl
  rw [stored?, known, Option.bind_some] at written
  rw [workspaces]
  generalize (step (.reconcile id) session).state.scene = scene at attends written
  generalize ((reconcile id).bare session).notes = notes at attends
  obtain ⟨bench, made, objects, works, -, persists, rfl⟩ := attends.sound serves
  have bench_key : bench.image.id.key? = some key := (congrArg ObjectId.key? works.akin.id).trans own
  obtain ⟨asked, advances⟩ := (works.normal kept).advances
  rw [Scene.withObjects_objects] at written
  rcases persists.get?_own bench_key with ⟨-, fault, refused, -⟩ | ⟨gone, -⟩ | ⟨new, -⟩
  · cases refused
  · rw [gone] at written
    cases written
  · obtain rfl := Option.some.inj (new.symm.trans written)
    rw [Scene.withObjects_workspaces, Scene.withWorkspace_self]
    cases advances with
    | failed seen alike asks | found unseen first alike asks => cases importing
    | @pending job _ unseen absent latest running alike asks =>
      obtain ⟨record, last, rfl⟩ := Option.map_eq_some_iff.mp (Bench.latest?_eq_some.mp latest).2
      refine ⟨record, alike.jobs ▸ last, running, .inl ⟨?_, Workspace.getLast?_jobIds last⟩⟩
      exact congrArg (Image.Status.tracked · record.job) image.guarded_status
    | created unseen absent free alike asks =>
      refine ⟨⟨⟨jobIdOf ((session.scene.workspaces name).serial + 1), .queued, none⟩, Bench.importRequest image⟩,
        ?_, rfl, .inr ⟨rfl, attached.sorted.fresh⟩⟩
      rw [alike.jobs]
      simp [Bench.imported, Workspace.withJob]

/-- In every run of passes over the only object of a workspace, any of which may be given up between its calls and its
writing, with jobs that move on and images that are deleted by others in between: a pass that returns and leaves the
object importing leaves one job on its way, and the status names that one exactly if it did not come, and was given up,
while the status waited for the job that it waits for still. -/
theorem running_job_tracked_iff {settings : Settings} {image found : Image} {requeue : Pass.Requeue}
    (routine : command.isRoutine = true)
    (stored : (step command (Session.start settings)).state.stored? id = some image)
    (fresh : image.status = Image.Status.fresh) (kept : image.deletionRequested = false)
    (served : (Session.start settings).scene.clientOf image = some image.spec.workspace)
    (ran : Run (importsOnly id image.spec.workspace) (step command (Session.start settings)).state history session)
    (returned : (reconcile id session).result = .ok requeue)
    (written : (step (.reconcile id) session).state.stored? id = some found)
    (importing : found.status.phase = .importing) :
    ∃ record, ((step (.reconcile id) session).state.workspace image.spec.workspace).jobs.filter
        (fun record => !record.job.state.isTerminal) = [record] ∧
      (found.status.jobId = record.job.jobId ↔
        ¬ GivenUp id image.spec.workspace record.job.jobId history session) := by
  obtain ⟨first, settled⟩ := first_attached routine stored fresh kept served
  obtain ⟨attached, held⟩ := ran.attached first
  have behind := ran.behind first settled
  obtain ⟨current, there, -⟩ := attached.object
  obtain ⟨record, last, running, follows⟩ := attached.returns there returned written importing
  have permitted : importsOnly id image.spec.workspace session (.reconcile id) = true := rfl
  have orderly := (step_attached permitted attached).1.orderly
  refine ⟨record, orderly.running last running, ?_⟩
  rcases follows with ⟨tracked, latest⟩ | ⟨own, new⟩
  · cases waits : tracks current with
    | false =>
      rw [tracked, Pass.tracked_of_idle waits]
      refine ⟨?_, fun _ => rfl⟩
      rintro - ⟨other, same, waiting, -⟩
      obtain rfl := Option.some.inj (there.symm.trans same)
      rw [waits] at waiting
      cases waiting
    | true =>
      rw [tracked, Pass.tracked_of_tracks waits]
      constructor
      · rintro same ⟨other, known, -, before, order, old, given, then_stored, then_tracked, then_own, submits⟩
        obtain rfl := Option.some.inj (there.symm.trans known)
        obtain ⟨-, attached_before⟩ := held before order given
        obtain ⟨known_old, then_known, -, -, -, listed⟩ := attached_before.object
        obtain rfl := Option.some.inj (then_stored.symm.trans then_known)
        exact submits.1 (same ▸ then_own ▸ listed then_tracked)
      · intro taken
        exact Classical.byContradiction fun apart =>
          taken (behind current record.job.jobId there waits latest fun same => apart same.symm)
  · refine ⟨?_, fun _ => own⟩
    rintro - ⟨_, -, -, before, order, old, given, -, -, -, submits⟩
    exact new (ran.lasting first given submits)

/-- A scope on the image submits a job and is never closed. -/
def givesUp : List Command :=
  [.open ⟨"s", .stored (Trial.id "m"), true, false, none, none⟩, .scope "s" .ensureImage]

/-- The job is taken up by a pass, since the status waits for none. -/
theorem running_job_tracked_iff_of_giving_up :
    permits (importsOnly (Trial.id "m") "w") Trial.lone givesUp = true ∧
      ∃ image found requeue record, Trial.lone.stored? (Trial.id "m") = some image ∧
        image.status = Image.Status.fresh ∧ image.deletionRequested = false ∧
        (reconcile (Trial.id "m") (Trial.lone.after givesUp)).result = .ok requeue ∧
        (step (.reconcile (Trial.id "m")) (Trial.lone.after givesUp)).state.stored? (Trial.id "m") = some found ∧
        found.status.phase = .importing ∧
        ((step (.reconcile (Trial.id "m")) (Trial.lone.after givesUp)).state.workspace "w").jobs.filter
          (fun record => !record.job.state.isTerminal) = [record] ∧
        found.status.jobId = record.job.jobId := by
  have permitted : permits (importsOnly (Trial.id "m") "w") Trial.lone givesUp = true := by decide +kernel
  have held : ∃ image, Trial.lone.stored? (Trial.id "m") = some image ∧ image.status = Image.Status.fresh ∧
      image.deletionRequested = false ∧ image.spec.workspace = "w" := ⟨_, rfl, rfl, rfl, rfl⟩
  obtain ⟨image, stored, fresh, kept, workspace⟩ := held
  have idle : ∃ image, (Trial.lone.after givesUp).stored? (Trial.id "m") = some image ∧ tracks image = false :=
    ⟨_, rfl, rfl⟩
  obtain ⟨waiting, there, untracked⟩ := idle
  have passed : ∃ requeue found, (reconcile (Trial.id "m") (Trial.lone.after givesUp)).result = .ok requeue ∧
      (step (.reconcile (Trial.id "m")) (Trial.lone.after givesUp)).state.stored? (Trial.id "m") = some found ∧
      found.status.phase = .importing := ⟨_, _, rfl, rfl, rfl⟩
  obtain ⟨requeue, found, returned, written, importing⟩ := passed
  have served : (Session.start Trial.settings).scene.clientOf image = some image.spec.workspace := rfl
  have ran : Run (importsOnly (Trial.id "m") image.spec.workspace)
      (step (Trial.add "m") (Session.start Trial.settings)).state (Trial.lone.past [] givesUp)
      (Trial.lone.after givesUp) :=
    Run.rest.after (workspace.symm ▸ permitted)
  obtain ⟨record, only, names⟩ := running_job_tracked_iff rfl stored fresh kept served ran returned written importing
  rw [workspace] at only
  refine ⟨permitted, image, found, requeue, record, stored, fresh, kept, returned, written, importing, only,
    names.mpr ?_⟩
  rintro ⟨other, same, tracked, -⟩
  obtain rfl := Option.some.inj (there.symm.trans same)
  rw [untracked] at tracked
  cases tracked

/-- The job that the status waits for has ended and its image is deleted by others, when a scope submits the next job
and is never closed; a pass then has the status wait for the job that has ended. -/
theorem running_job_missed_of_giving_up :
    let commands := [.reconcile (Trial.id "m"), .cloud none (.completeJob "job-1"),
      .cloud none (.deleteImage "image-2")] ++ givesUp
    let after := (step (.reconcile (Trial.id "m")) (Trial.lone.after commands)).state
    permits (importsOnly (Trial.id "m") "w") Trial.lone commands = true ∧
      (Trial.lone.stored? (Trial.id "m")).map (·.status) = some Image.Status.fresh ∧
      (reconcile (Trial.id "m") (Trial.lone.after commands)).result = .ok (some Trial.settings.config.pollInterval) ∧
      (after.stored? (Trial.id "m")).map (·.status) = some ⟨false, "", .importing, "job-1"⟩ ∧
      (after.workspace "w").jobs.map (fun record => (record.job.jobId, record.job.state)) =
        [("job-1", .completed), ("job-3", .queued)] :=
  ⟨by decide +kernel, by decide +kernel, rfl, by decide +kernel, by decide +kernel⟩

end Session

end ImageOperator
