import ImageOperator.Proofs.Cloud.Reachable

set_option autoImplicit false

namespace ImageOperator.Workspace

/-- The identifiers of the jobs that are left, in the order of their creation. -/
def jobIds (workspace : Workspace) : List String :=
  workspace.jobs.map (·.job.jobId)

/-- Jobs stand in the order of their numbers. -/
def Sorted (workspace : Workspace) : Prop :=
  ∃ serials : List Nat, workspace.jobIds = serials.map jobIdOf ∧ serials.Pairwise (· < ·) ∧
    ∀ serial ∈ serials, serial ≤ workspace.serial

/-- What becomes of the queue of jobs in a step: some are taken from it, or one comes to its end under the next
number. -/
inductive Queues (before after : Workspace) : Prop
  | keeps (left : after.jobIds.Sublist before.jobIds) (serial : before.serial ≤ after.serial)
  | adds (ids : after.jobIds = before.jobIds ++ [jobIdOf (before.serial + 1)])
      (serial : after.serial = before.serial + 1)

/-- What becomes of a queue that nothing is taken from. -/
inductive Grows (before after : Workspace) : Prop
  | keeps (ids : after.jobIds = before.jobIds) (serial : before.serial ≤ after.serial)
  | adds (ids : after.jobIds = before.jobIds ++ [jobIdOf (before.serial + 1)])
      (serial : after.serial = before.serial + 1)

variable {workspace before after : Workspace} {jobId : String}

theorem Grows.queues (grows : Grows before after) : Queues before after := by
  cases grows with
  | keeps ids serial => exact .keeps (ids ▸ List.Sublist.refl _) serial
  | adds ids serial => exact .adds ids serial

theorem Grows.lasting (grows : Grows before after) (there : jobId ∈ before.jobIds) : jobId ∈ after.jobIds := by
  cases grows with
  | keeps ids serial => exact ids ▸ there
  | adds ids serial => exact ids ▸ List.mem_append_left _ there

theorem jobIds_of_jobs (same : after.jobs = before.jobs) : after.jobIds = before.jobIds := by
  rw [jobIds, same, jobIds]

theorem getLast?_jobIds {record : JobRecord} (last : workspace.jobs.getLast? = some record) :
    workspace.jobIds.getLast? = some record.job.jobId := by
  rw [jobIds, List.getLast?_map, last, Option.map_some]

theorem jobIds_setJob (workspace : Workspace) (jobId : String) (state : JobState) (message : Option String) :
    (workspace.setJob jobId state message).jobIds = workspace.jobIds := by
  simp only [jobIds, setJob, List.map_map]
  refine List.map_congr_left fun record _ => ?_
  simp only [Function.comp_apply]
  split <;> rfl

theorem Queues.of_same {middle : Workspace} (queues : Queues middle after) (jobs : middle.jobs = before.jobs)
    (serial : middle.serial = before.serial) : Queues before after := by
  have ids := jobIds_of_jobs jobs
  cases queues with
  | keeps left grown => exact .keeps (ids ▸ left) (serial ▸ grown)
  | adds added grown => exact .adds (ids ▸ serial ▸ added) (serial ▸ grown)

theorem Alike.grows (alike : Alike before after) : Grows before after :=
  .keeps (jobIds_of_jobs alike.jobs) (Nat.le_of_eq alike.serial.symm)

theorem grows_withJob {request : ImportRequest} (alike : Alike (before.withJob request) after) :
    Grows before after := by
  refine .adds ?_ alike.serial
  rw [jobIds_of_jobs alike.jobs]
  simp [jobIds, withJob]

theorem queues_withoutJob (alike : Alike (before.withoutJob jobId) after) : Queues before after := by
  refine .keeps ?_ (Nat.le_of_eq alike.serial.symm)
  rw [jobIds_of_jobs alike.jobs]
  exact List.filter_sublist.map _

/-- A turn leaves the jobs in the queue unless it deletes one. -/
theorem Turns.grows {command : CloudCommand} {notes : List Note} (turns : Turns before command after notes)
    (spares : ∀ jobId, command ≠ .deleteJob jobId) : Grows before after := by
  have serial := turns.lasting.2
  cases turns with
  | rests alike noted => exact alike.grows
  | imageAdded => exact .keeps (jobIds_of_jobs (addImage_jobs _ _ _)) serial
  | imageDeleted alike => exact .keeps (jobIds_of_jobs alike.jobs) serial
  | jobMoved progress known unfinished => exact .keeps (jobIds_setJob before _ _ _) serial
  | jobCompleted known =>
    exact .keeps ((jobIds_of_jobs (addImage_jobs _ _ _)).trans (jobIds_setJob before _ _ _)) serial
  | @jobDeleted jobId _ alike => exact absurd rfl (spares jobId)
  | jobCreated alike => exact grows_withJob alike

theorem Turns.queues {command : CloudCommand} {notes : List Note} (turns : Turns before command after notes) :
    Queues before after := by
  by_cases deletes : ∃ jobId, command = .deleteJob jobId
  · obtain ⟨jobId, rfl⟩ := deletes
    cases turns with
    | rests alike noted => exact alike.grows.queues
    | jobMoved progress known unfinished => cases progress
    | jobDeleted alike => exact queues_withoutJob alike
  · exact (turns.grows fun jobId same => deletes ⟨jobId, same⟩).queues

theorem Sorted.numbered (sorted : workspace.Sorted) (member : jobId ∈ workspace.jobIds) :
    ∃ serial ≤ workspace.serial, jobId = jobIdOf serial := by
  obtain ⟨serials, ids, -, given⟩ := sorted
  rw [ids] at member
  obtain ⟨serial, listed, rfl⟩ := List.mem_map.mp member
  exact ⟨serial, given serial listed, rfl⟩

/-- The next number has not been given to any job. -/
theorem Sorted.fresh (sorted : workspace.Sorted) : jobIdOf (workspace.serial + 1) ∉ workspace.jobIds := by
  intro member
  obtain ⟨serial, given, same⟩ := sorted.numbered member
  have equal := jobIdOf_injective same
  omega

theorem Sorted.named (sorted : workspace.Sorted) (member : jobId ∈ workspace.jobIds) : jobId ≠ "" := by
  obtain ⟨serial, -, rfl⟩ := sorted.numbered member
  exact jobIdOf_ne serial

/-- The last job has the highest number. -/
theorem Sorted.le_last (sorted : workspace.Sorted) {serial last : Nat}
    (latest : workspace.jobIds.getLast? = some (jobIdOf last)) (member : jobIdOf serial ∈ workspace.jobIds) :
    serial ≤ last := by
  obtain ⟨serials, ids, increasing, -⟩ := sorted
  rw [ids] at latest member
  obtain ⟨found, listed, same⟩ := List.mem_map.mp member
  obtain rfl := jobIdOf_injective same
  rw [List.getLast?_map] at latest
  obtain ⟨top, at_end, same⟩ := Option.map_eq_some_iff.mp latest
  obtain rfl := jobIdOf_injective same
  obtain ⟨early, rfl⟩ := List.getLast?_eq_some_iff.mp at_end
  rcases List.mem_append.mp listed with sooner | only
  · exact Nat.le_of_lt ((List.pairwise_append.mp increasing).2.2 _ sooner _ List.mem_cons_self)
  · exact Nat.le_of_eq (List.mem_singleton.mp only)

theorem sorted_empty (name : String) : (empty name).Sorted :=
  ⟨[], rfl, .nil, fun _ held => nomatch held⟩

theorem Sorted.queues (sorted : before.Sorted) (queues : Queues before after) : after.Sorted := by
  obtain ⟨serials, ids, increasing, given⟩ := sorted
  cases queues with
  | keeps left serial =>
    rw [ids] at left
    obtain ⟨kept, within, same⟩ := List.sublist_map_iff.mp left
    exact ⟨kept, same, increasing.sublist within, fun held member =>
      Nat.le_trans (given held (within.subset member)) serial⟩
  | adds grown serial =>
    refine ⟨serials ++ [before.serial + 1], by rw [grown, ids, List.map_append]; rfl, ?_, fun held member => ?_⟩
    · refine List.pairwise_append.mpr ⟨increasing, List.pairwise_singleton _ _, fun early member last only => ?_⟩
      obtain rfl := List.mem_singleton.mp only
      exact Nat.lt_succ_of_le (given early member)
    · rw [serial]
      rcases List.mem_append.mp member with early | last
      · exact Nat.le_succ_of_le (given held early)
      · exact Nat.le_of_eq (List.mem_singleton.mp last)

/-- In every state that a workspace can come to, jobs stand in the order of their numbers. -/
theorem Reachable.sorted {instanceId : String} (reached : Reachable instanceId workspace) : workspace.Sorted :=
  reached.holds (sorted_empty instanceId) fun _ _ _ _ turns sorted => sorted.queues turns.queues

end ImageOperator.Workspace
