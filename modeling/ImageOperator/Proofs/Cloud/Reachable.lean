import ImageOperator.Proofs.Cloud.Named

set_option autoImplicit false

namespace ImageOperator.Workspace

/-- The states that a workspace can come to: it starts empty, clients call it, images are put in and jobs are moved by
others, and calls are made to fail in whatever way. -/
inductive Reachable (instanceId : String) : Workspace → Prop
  | start : Reachable instanceId (empty instanceId)
  | listed {workspace : Workspace} (reached : Reachable instanceId workspace) :
      Reachable instanceId (listImages workspace).state
  | asked {workspace : Workspace} (reached : Reachable instanceId workspace) (client : String) :
      Reachable instanceId (latestJob client workspace).state
  | jobCreated {workspace : Workspace} (reached : Reachable instanceId workspace) (request : ImportRequest) :
      Reachable instanceId (createJob request workspace).state
  | imageDeleted {workspace : Workspace} (reached : Reachable instanceId workspace) (imageId : String) :
      Reachable instanceId (deleteImage imageId workspace).state
  | jobDeleted {workspace : Workspace} (reached : Reachable instanceId workspace) (jobId : String) :
      Reachable instanceId (deleteJob jobId workspace).state
  | imageAdded {workspace : Workspace} (reached : Reachable instanceId workspace) (name : Value) (imageId : String) :
      Reachable instanceId (workspace.addImage name imageId).2
  | jobStarted {workspace : Workspace} (reached : Reachable instanceId workspace) (jobId : String) :
      Reachable instanceId (startJob jobId workspace).state
  | jobCompleted {workspace : Workspace} (reached : Reachable instanceId workspace) (jobId : String) :
      Reachable instanceId (completeJob jobId workspace).state
  | jobFailed {workspace : Workspace} (reached : Reachable instanceId workspace) (jobId message : String) :
      Reachable instanceId (failJob jobId message workspace).state
  | upset {workspace : Workspace} (reached : Reachable instanceId workspace) (failures : List (Operation × String))
      (faults : List (Operation × Upset)) (due : List (Option Upset)) :
      Reachable instanceId { workspace with failures, faults, due }

/-- What holds of the empty workspace and is kept by every turn holds of every state. -/
theorem Reachable.holds {property : Workspace → Prop} {instanceId : String} {workspace : Workspace}
    (reached : Reachable instanceId workspace) (first : property (empty instanceId))
    (kept : ∀ before command after notes, Turns before command after notes → property before → property after) :
    property workspace := by
  have turned {command : CloudCommand} {α : Type} {before : Workspace} {attempt : Attempt Workspace α}
      (turns : TurnsTo command before (attempt.bare before)) (held : property before) :
      property (attempt before).state :=
    kept before command _ _ turns held
  induction reached with
  | start => exact first
  | listed reached ih => exact turned (listImages_turns _) ih
  | asked reached client ih => exact turned (latestJob_turns client _) ih
  | jobCreated reached request ih => exact turned (createJob_turns .null request _) ih
  | imageDeleted reached imageId ih => exact turned (deleteImage_turns imageId _) ih
  | jobDeleted reached jobId ih => exact turned (deleteJob_turns jobId _) ih
  | imageAdded reached name imageId ih => exact kept _ (.addImage name imageId) _ [] .imageAdded ih
  | jobStarted reached jobId ih => exact turned (startJob_turns jobId _) ih
  | jobCompleted reached jobId ih => exact turned (completeJob_turns jobId _) ih
  | jobFailed reached jobId message ih => exact turned (failJob_turns jobId message _) ih
  | @upset before reached failures faults due ih =>
    have alike : Alike before { before with failures, faults, due } := ⟨rfl, rfl, rfl, rfl⟩
    exact kept before .clear _ [] (.rests alike (noted_nil _ _)) ih

theorem jobIdOf_injective {first second : Nat} (same : jobIdOf first = jobIdOf second) : first = second := by
  have digits : Nat.toDigits 10 first = Nat.toDigits 10 second :=
    String.ofList_injective ((String.append_right_inj "job-").mp same)
  have ten : 1 < 10 := by decide
  rw [← Nat.ofDigitChars_toDigits ten (Nat.le_refl 10) (n := first), digits,
    Nat.ofDigitChars_toDigits ten (Nat.le_refl 10)]

/-- Every job has an identifier that was given out. -/
def Numbered (workspace : Workspace) : Prop :=
  ∀ record ∈ workspace.jobs, ∃ serial ≤ workspace.serial, record.job.jobId = jobIdOf serial

theorem addImage_jobs (workspace : Workspace) (name : Value) (imageId : String) :
    (workspace.addImage name imageId).2.jobs = workspace.jobs := by
  unfold addImage
  split <;> rfl

theorem serial_le_addImage (workspace : Workspace) (name : Value) (imageId : String) :
    workspace.serial ≤ (workspace.addImage name imageId).2.serial := by
  unfold addImage
  split
  · exact Nat.le_succ _
  · exact Nat.le_refl _

theorem addImage_instanceId (workspace : Workspace) (name : Value) (imageId : String) :
    (workspace.addImage name imageId).2.instanceId = workspace.instanceId := by
  unfold addImage
  split <;> rfl

/-- No turn changes which workspace it is, and none takes a given number back. -/
theorem Turns.lasting {before after : Workspace} {command : CloudCommand} {notes : List Note}
    (turns : Turns before command after notes) :
    after.instanceId = before.instanceId ∧ before.serial ≤ after.serial := by
  cases turns with
  | rests alike noted => exact ⟨alike.instanceId, Nat.le_of_eq alike.serial.symm⟩
  | imageAdded => exact ⟨addImage_instanceId _ _ _, serial_le_addImage _ _ _⟩
  | imageDeleted alike => exact ⟨alike.instanceId, Nat.le_of_eq alike.serial.symm⟩
  | jobMoved progress known unfinished => exact ⟨rfl, Nat.le_refl _⟩
  | jobCompleted known => exact ⟨addImage_instanceId _ _ _, serial_le_addImage (before.setJob _ .completed none) _ _⟩
  | jobDeleted alike => exact ⟨alike.instanceId, Nat.le_of_eq alike.serial.symm⟩
  | jobCreated alike => exact ⟨alike.instanceId, alike.serial.symm ▸ Nat.le_succ _⟩

/-- The jobs after a turn were there before under the same identifiers and for the same requests, or were created in the
turn. -/
theorem Turns.jobs {before after : Workspace} {command : CloudCommand} {notes : List Note}
    (turns : Turns before command after notes) {record : JobRecord} (held : record ∈ after.jobs) :
    (∃ old ∈ before.jobs, record.job.jobId = old.job.jobId ∧ record.request = old.request) ∨
      record.job.jobId = jobIdOf (before.serial + 1) ∧ after.serial = before.serial + 1 ∧
        ∃ value, command = .createJob value := by
  have kept (held : record ∈ before.jobs) :
      ∃ old ∈ before.jobs, record.job.jobId = old.job.jobId ∧ record.request = old.request :=
    ⟨record, held, rfl, rfl⟩
  cases turns with
  | rests alike noted => exact .inl (kept (alike.jobs ▸ held))
  | imageAdded => exact .inl (kept (addImage_jobs _ _ _ ▸ held))
  | imageDeleted alike => exact .inl (kept (alike.jobs ▸ held))
  | jobMoved progress known unfinished => exact .inl (mem_setJob held)
  | jobCompleted known =>
    rw [addImage_jobs] at held
    exact .inl (mem_setJob held)
  | jobDeleted alike =>
    rw [alike.jobs] at held
    exact .inl (kept (List.mem_filter.mp held).1)
  | jobCreated alike =>
    rw [alike.jobs] at held
    rcases List.mem_append.mp held with old | new
    · exact .inl (kept old)
    · obtain rfl := List.mem_singleton.mp new
      exact .inr ⟨rfl, alike.serial, _, rfl⟩

theorem Numbered.turns {before after : Workspace} {command : CloudCommand} {notes : List Note}
    (numbered : Numbered before) (turns : Turns before command after notes) : Numbered after := by
  intro record held
  obtain ⟨-, grows⟩ := turns.lasting
  rcases turns.jobs held with ⟨old, member, same, -⟩ | ⟨fresh, next, -⟩
  · obtain ⟨serial, given, numbered⟩ := numbered old member
    exact ⟨serial, Nat.le_trans given grows, same.trans numbered⟩
  · exact ⟨before.serial + 1, Nat.le_of_eq next.symm, fresh⟩

/-- A job is found under its new identifier, since no other has it. -/
theorem Numbered.record?_withJob {workspace : Workspace} (numbered : Numbered workspace) (request : ImportRequest) :
    (workspace.withJob request).record? (jobIdOf (workspace.serial + 1)) =
      some ⟨⟨jobIdOf (workspace.serial + 1), .queued, none⟩, request⟩ := by
  have none_earlier : workspace.jobs.find? (·.job.jobId = jobIdOf (workspace.serial + 1)) = none := by
    refine List.find?_eq_none.mpr fun record held => ?_
    obtain ⟨serial, given, own⟩ := numbered record held
    intro same
    have equal := jobIdOf_injective (own.symm.trans (of_decide_eq_true same))
    omega
  simp [record?, withJob, none_earlier]

theorem Reachable.named {instanceId : String} {workspace : Workspace} (reached : Reachable instanceId workspace) :
    Named workspace :=
  reached.holds (named_empty instanceId) fun _ _ _ _ turns named => named.turns turns

theorem Reachable.numbered {instanceId : String} {workspace : Workspace} (reached : Reachable instanceId workspace) :
    Numbered workspace :=
  reached.holds (fun _ held => nomatch held) fun _ _ _ _ turns numbered => numbered.turns turns

theorem Reachable.instanceId {instanceId : String} {workspace : Workspace} (reached : Reachable instanceId workspace) :
    workspace.instanceId = instanceId :=
  @Reachable.holds (fun state => state.instanceId = instanceId) _ _ reached rfl
    fun _ _ _ _ turns same => turns.lasting.1.trans same

end ImageOperator.Workspace
