import ImageOperator.Proofs.Cloud.Queue
import ImageOperator.Proofs.Scope.Follow

set_option autoImplicit false

/-!
Passes as turns of the workspace that they are done in.
-/

namespace ImageOperator.Pass

open Bench (Ensures)
open Workspace (Alike Grows Queues Turns jobIdOf)

variable {config : Config} {bench : Bench}

theorem turns_of_alike {before after : Workspace} (alike : Alike before after) :
    ∃ command notes, Turns before command after notes :=
  ⟨.listImages, [], .rests alike (Workspace.noted_nil _ _)⟩

/-- A pass over an image that is to be kept takes one turn. -/
theorem Normal.turns {outcome : Outcome Bench Requeue} (normal : Normal config bench outcome) :
    ∃ command notes, Turns bench.workspace command outcome.state.workspace notes := by
  rcases outcome with ⟨fault | requeue, after, notes⟩
  · cases normal with
    | unasked looked => exact turns_of_alike looked.alike
    | unsettled looked ensured => exact turns_of_alike (looked.alike.trans (ensures_alike ensured nofun))
  · obtain ⟨asked, advances⟩ := normal.advances
    exact advances.turns

theorem ClearsImage.turns {outcome : Outcome Bench Unit} (clears : ClearsImage bench outcome) :
    ∃ notes, Turns bench.workspace (.deleteImage bench.image.status.imageId) outcome.state.workspace notes := by
  have turns := Workspace.deleteImage_turns bench.image.status.imageId bench.workspace
  cases clears with
  | blank unnamed => exact ⟨[], .rests (.refl _) (Workspace.noted_nil _ _)⟩
  | refused named called failed | cleared named called done =>
    rw [called] at turns
    exact ⟨_, turns⟩

theorem ClearsJob.turns {outcome : Outcome Bench Unit} (clears : ClearsJob bench outcome) :
    ∃ notes, Turns bench.workspace (.deleteJob bench.image.status.jobId) outcome.state.workspace notes := by
  have turns := Workspace.deleteJob_turns bench.image.status.jobId bench.workspace
  cases clears with
  | blank unnamed => exact ⟨[], .rests (.refl _) (Workspace.noted_nil _ _)⟩
  | refused named called failed | cleared named called done =>
    rw [called] at turns
    exact ⟨_, turns⟩

/-- What every turn of a workspace keeps is kept by a pass. -/
theorem Works.holds {property : Workspace → Prop} {outcome : Outcome Bench Requeue} (works : Works config bench outcome)
    (kept : ∀ before command after notes, Turns before command after notes → property before → property after)
    (held : property bench.workspace) : property outcome.state.workspace := by
  cases works with
  | kept _ normal =>
    obtain ⟨command, notes, turns⟩ := normal.turns
    exact kept _ _ _ _ turns held
  | requested _ deletes =>
    cases deletes with
    | imageRefused image =>
      obtain ⟨notes, turns⟩ := image.turns
      exact kept _ _ _ _ turns held
    | jobRefused image job | cleared image job =>
      obtain ⟨notes, turns⟩ := image.turns
      obtain ⟨more, later⟩ := job.turns
      exact kept _ _ _ _ later (kept _ _ _ _ turns held)

theorem ClearsImage.queued {outcome : Outcome Bench Unit} (clears : ClearsImage bench outcome) :
    outcome.state.workspace.jobs = bench.workspace.jobs ∧ outcome.state.workspace.serial = bench.workspace.serial := by
  refine ⟨?_, (clears.spares "").2.serial⟩
  cases clears with
  | blank unnamed => rfl
  | refused named called failed | cleared named called done => exact (Workspace.deleteImage_cases called).2.1

/-- A pass brings at most one job to the queue. -/
theorem Works.queues {outcome : Outcome Bench Requeue} (works : Works config bench outcome) :
    Queues bench.workspace outcome.state.workspace := by
  cases works with
  | kept _ normal =>
    obtain ⟨command, notes, turns⟩ := normal.turns
    exact turns.queues
  | requested _ deletes =>
    cases deletes with
    | imageRefused image =>
      obtain ⟨notes, turns⟩ := image.turns
      exact turns.queues
    | jobRefused image job | cleared image job =>
      obtain ⟨jobs, serial⟩ := image.queued
      obtain ⟨notes, turns⟩ := job.turns
      exact turns.queues.of_same jobs serial

variable {image found : Image} {before after : Workspace}

/-- What a pass comes to for the job that a status waits for and the queue of the workspace. -/
inductive Leads (image : Image) (before : Workspace) (found : Image) (after : Workspace) : Prop
  | rests (same : found.status = image.status) (grows : Grows before after)
  | settles (idle : tracks found = false) (ids : after.jobIds = before.jobIds)
  | waits (tracked : tracks image = true) (same : found.status.jobId = image.status.jobId)
      (ids : after.jobIds = before.jobIds)
  | adopts (last : before.jobIds.getLast? = some found.status.jobId) (ids : after.jobIds = before.jobIds)
  | submits (own : found.status.jobId = jobIdOf (before.serial + 1))
      (ids : after.jobIds = before.jobIds ++ [jobIdOf (before.serial + 1)])

theorem Normal.grows {config : Config} {bench : Bench} {outcome : Outcome Bench Requeue}
    (normal : Normal config bench outcome) : Grows bench.workspace outcome.state.workspace := by
  rcases outcome with ⟨fault | requeue, after, notes⟩
  · cases normal with
    | unasked looked => exact looked.alike.grows
    | unsettled looked ensured => exact (looked.alike.trans (ensures_alike ensured nofun)).grows
  · obtain ⟨asked, advances⟩ := normal.advances
    cases advances with
    | failed seen alike asks | found unseen first alike asks | pending unseen absent latest running alike asks =>
      exact alike.grows
    | created unseen absent free alike asks => exact Workspace.grows_withJob alike

theorem Normal.leads {config : Config} {bench : Bench} {outcome : Outcome Bench Requeue}
    (normal : Normal config bench outcome) :
    Leads bench.image bench.workspace outcome.state.image outcome.state.workspace := by
  have grows := normal.grows
  have guarded := bench.image.guarded_status
  rcases outcome with ⟨fault | requeue, after, notes⟩
  · cases normal <;> exact .rests guarded grows
  · obtain ⟨asked, advances⟩ := normal.advances
    cases advances with
    | failed seen alike asks | found unseen first alike asks =>
      refine .settles ?_ (Workspace.jobIds_of_jobs alike.jobs)
      simp [tracks, Image.withStatus, Image.Status.failed, Image.Status.available]
    | @pending job workspace unseen absent latest running alike asks =>
      have ids := Workspace.jobIds_of_jobs alike.jobs
      have named : (bench.image.guarded.withStatus fun status => status.importing (status.tracked job)).status.jobId =
          bench.image.status.tracked job := congrArg (Image.Status.tracked · job) guarded
      cases tracked : tracks bench.image with
      | true => exact .waits tracked (named.trans (tracked_of_tracks tracked job)) ids
      | false =>
        refine .adopts ?_ ids
        obtain ⟨record, last, rfl⟩ := Option.map_eq_some_iff.mp (Bench.latest?_eq_some.mp latest).2
        rw [named, tracked_of_idle tracked]
        exact Workspace.getLast?_jobIds last
    | created unseen absent free alike asks =>
      refine .submits rfl ?_
      rw [Workspace.jobIds_of_jobs alike.jobs]
      simp [Bench.imported, Workspace.jobIds, Workspace.withJob]

theorem Leads.there (leads : Leads image before found after)
    (there : tracks image = true → image.status.jobId ∈ before.jobIds) (tracked : tracks found = true) :
    found.status.jobId ∈ after.jobIds := by
  cases leads with
  | rests same grows =>
    rw [same]
    refine grows.lasting (there ?_)
    rw [tracks, ← same]
    exact tracked
  | settles idle ids =>
    rw [idle] at tracked
    cases tracked
  | waits tracked_before same ids => exact ids ▸ same ▸ there tracked_before
  | adopts last ids => exact ids ▸ List.mem_of_getLast? last
  | submits own ids =>
    rw [ids, own]
    exact List.mem_append_right _ List.mem_cons_self

theorem ensures_grows {bench : Bench} {outcome : Outcome Bench Ensured} (ensured : Bench.Ensures bench outcome) :
    Grows bench.workspace outcome.state.workspace := by
  cases ensured with
  | unlisted failed | found calm first | unasked absent failed | pending absent latest running
  | unrequested absent free failed => exact Workspace.Alike.grows ⟨rfl, rfl, rfl, rfl⟩
  | created absent free calm => exact Workspace.grows_withJob ⟨rfl, rfl, rfl, rfl⟩

end ImageOperator.Pass
