import ImageOperator.Proofs.Cloud.Calls
import ImageOperator.Session.Step

set_option autoImplicit false

namespace ImageOperator

/-- What a command moves a job to, with the message that goes with it. -/
def CloudCommand.progress? : CloudCommand → Option (String × JobState × Option String)
  | .startJob jobId => some (jobId, .running, none)
  | .completeJob jobId => some (jobId, .completed, none)
  | .failJob jobId message => some (jobId, .failed, some message)
  | _ => none

namespace Workspace

/-- Workspaces with the same holdings: they differ at most in what is written down or foretold of calls. -/
structure Alike (before after : Workspace) : Prop where
  instanceId : after.instanceId = before.instanceId
  images : after.images = before.images
  jobs : after.jobs = before.jobs
  serial : after.serial = before.serial

theorem Alike.refl (workspace : Workspace) : Alike workspace workspace := ⟨rfl, rfl, rfl, rfl⟩

theorem alike_written (workspace : Workspace) (call : Call) : Alike workspace (workspace.written call) :=
  ⟨rfl, rfl, rfl, rfl⟩

theorem alike_written_withJob (workspace : Workspace) (call : Call) (request : ImportRequest) :
    Alike (workspace.withJob request) ((workspace.written call).withJob request) :=
  ⟨rfl, rfl, rfl, rfl⟩

/-- A workspace that holds at most what another one does: the same images, and of its jobs those that are left. -/
structure Within (before after : Workspace) : Prop where
  images : after.images = before.images
  jobs : ∀ record ∈ after.jobs, record ∈ before.jobs

theorem Within.refl (workspace : Workspace) : Within workspace workspace :=
  ⟨rfl, fun _ held => held⟩

theorem Within.trans {before middle after : Workspace} (first : Within before middle) (second : Within middle after) :
    Within before after :=
  ⟨second.images.trans first.images, fun record held => first.jobs record (second.jobs record held)⟩

theorem Alike.within {before after : Workspace} (alike : Alike before after) : Within before after := by
  refine ⟨alike.images, fun record held => ?_⟩
  rw [alike.jobs] at held
  exact held

/-- Calls are made on the workspace as it is, and a job is asked for only by the command that does so. -/
def Noted (before : Workspace) (command : CloudCommand) (notes : List Note) : Prop :=
  ∀ note ∈ notes, ∃ call, note = .called before call ∧
    ∀ request, call = .createJob request → ∃ value, command = .createJob value

theorem noted_nil (before : Workspace) (command : CloudCommand) : Noted before command [] := by
  intro note member
  cases member

theorem noted_call {before : Workspace} {command : CloudCommand} {call : Call}
    (asks : ∀ request, call = .createJob request → ∃ value, command = .createJob value) :
    Noted before command [.called before call] := by
  intro note member
  exact ⟨call, List.mem_singleton.mp member, asks⟩

/-- The turns that a command gives a workspace. -/
inductive Turns (before : Workspace) : CloudCommand → Workspace → List Note → Prop
  | rests {command : CloudCommand} {after : Workspace} {notes : List Note} (alike : Alike before after)
      (noted : Noted before command notes) : Turns before command after notes
  | imageAdded {name : Value} {imageId : String} :
      Turns before (.addImage name imageId) (before.addImage name imageId).2 []
  | imageDeleted {imageId : String} {after : Workspace} (alike : Alike (before.withoutImage imageId) after) :
      Turns before (.deleteImage imageId) after [.called before (.deleteImage imageId)]
  | jobMoved {command : CloudCommand} {jobId : String} {state : JobState} {message : Option String}
      {record : JobRecord} (progress : command.progress? = some (jobId, state, message))
      (known : before.record? jobId = some record) (unfinished : state ≠ .completed) :
      Turns before command (before.setJob jobId state message) []
  | jobCompleted {jobId : String} {record : JobRecord} (known : before.record? jobId = some record) :
      Turns before (.completeJob jobId)
        ((before.setJob jobId .completed none).addImage record.request.imageName "").2 []
  | jobDeleted {jobId : String} {after : Workspace} (alike : Alike (before.withoutJob jobId) after) :
      Turns before (.deleteJob jobId) after [.called before (.deleteJob jobId)]
  | jobCreated {value : Value} {request : ImportRequest} {after : Workspace}
      (alike : Alike (before.withJob request) after) :
      Turns before (.createJob value) after [.called before (.createJob request)]

theorem bare_moveJob_of {jobId : String} {record : JobRecord} {workspace : Workspace}
    (known : workspace.record? jobId = some record) (state : JobState) (message : Option String) :
    (moveJob jobId state message).bare workspace =
      ⟨.ok record, workspace.setJob jobId state message, []⟩ := by
  unfold moveJob
  rw [Attempt.bare_bind, Attempt.bare_read, Attempt.read_then, known]
  simp only [Attempt.bare_bind, Attempt.bare_log, pure_bind]
  rfl

theorem bare_moveJob_of_none {jobId : String} {workspace : Workspace} (unknown : workspace.record? jobId = none)
    (state : JobState) (message : Option String) :
    (moveJob jobId state message).bare workspace = ⟨.error (.jobUnknown jobId), workspace, []⟩ := by
  unfold moveJob
  rw [Attempt.bare_bind, Attempt.bare_read, Attempt.read_then, unknown]
  rfl

/-- Moving a job changes neither which jobs there are nor what they were asked for. -/
theorem mem_setJob {workspace : Workspace} {jobId : String} {state : JobState} {message : Option String}
    {record : JobRecord} (held : record ∈ (workspace.setJob jobId state message).jobs) :
    ∃ old ∈ workspace.jobs, record.job.jobId = old.job.jobId ∧ record.request = old.request := by
  obtain ⟨old, member, rfl⟩ := List.mem_map.mp held
  refine ⟨old, member, ?_⟩
  split <;> exact ⟨rfl, rfl⟩

theorem completeJob_of {workspace : Workspace} {jobId : String} {record : JobRecord}
    (known : workspace.record? jobId = some record) :
    (completeJob jobId workspace).result =
      .ok ((workspace.setJob jobId .completed none).addImage record.request.imageName "").1 := by
  rw [← Attempt.bare_result]
  unfold completeJob
  rw [Attempt.bare_bind, Attempt.bind_of_ok (bare_moveJob_of known _ _)]
  rfl

theorem addImage_fresh (workspace : Workspace) (name : Value) :
    workspace.addImage name "" =
      (⟨imageIdOf (workspace.serial + 1), name, some activeState⟩,
        { workspace with
          images := workspace.images ++ [⟨imageIdOf (workspace.serial + 1), name, some activeState⟩]
          serial := workspace.serial + 1 }) := rfl

/-- Outcomes that are a turn of a command. -/
def TurnsTo {α : Type} (command : CloudCommand) (before : Workspace) (outcome : Outcome Workspace α) : Prop :=
  Turns before command outcome.state outcome.notes

theorem startJob_turns (jobId : String) (before : Workspace) :
    TurnsTo (.startJob jobId) before ((startJob jobId).bare before) := by
  unfold startJob
  rw [Attempt.bare_bind]
  cases known : before.record? jobId with
  | none =>
    rw [Attempt.bind_of_error (bare_moveJob_of_none known _ _)]
    exact .rests (.refl before) (noted_nil _ _)
  | some record =>
    rw [Attempt.bind_of_ok (bare_moveJob_of known _ _)]
    exact .jobMoved rfl known (by decide)

theorem failJob_turns (jobId message : String) (before : Workspace) :
    TurnsTo (.failJob jobId message) before ((failJob jobId message).bare before) := by
  unfold failJob
  rw [Attempt.bare_bind]
  cases known : before.record? jobId with
  | none =>
    rw [Attempt.bind_of_error (bare_moveJob_of_none known _ _)]
    exact .rests (.refl before) (noted_nil _ _)
  | some record =>
    rw [Attempt.bind_of_ok (bare_moveJob_of known _ _)]
    exact .jobMoved rfl known (by decide)

theorem completeJob_turns (jobId : String) (before : Workspace) :
    TurnsTo (.completeJob jobId) before ((completeJob jobId).bare before) := by
  unfold completeJob
  rw [Attempt.bare_bind]
  cases known : before.record? jobId with
  | none =>
    rw [Attempt.bind_of_error (bare_moveJob_of_none known _ _)]
    exact .rests (.refl before) (noted_nil _ _)
  | some record =>
    rw [Attempt.bind_of_ok (bare_moveJob_of known _ _), List.nil_append, Attempt.bare_bind, Attempt.bare_read,
      Attempt.read_then]
    exact .jobCompleted known

/-- A delete that succeeds takes the image away; one that fails leaves everything as it is. -/
theorem deleteImage_cases {imageId : String} {workspace after : Workspace} {result : Except Fault Unit}
    {notes : List Note} (called : (deleteImage imageId).bare workspace = ⟨result, after, notes⟩) :
    notes = [.called workspace (.deleteImage imageId)] ∧ after.jobs = workspace.jobs ∧
      ((result = .ok () ∧ after.images = workspace.images.eraseP (·.imageId = imageId)) ∨
        ∃ fault, result = .error fault ∧ Within workspace after) := by
  cases made : workspace.fault? .deleteImage with
  | some fault =>
    rw [deleteImage_of_fault made, Outcome.mk.injEq] at called
    obtain ⟨rfl, rfl, rfl⟩ := called
    exact ⟨rfl, rfl, .inr ⟨fault, rfl, (alike_written _ _).within⟩⟩
  | none =>
    rw [deleteImage_of_calm made, Outcome.mk.injEq] at called
    obtain ⟨rfl, rfl, rfl⟩ := called
    refine ⟨rfl, rfl, ?_⟩
    cases present : workspace.images.any (·.imageId = imageId) with
    | true => exact .inl ⟨rfl, rfl⟩
    | false =>
      have kept : (workspace.written (.deleteImage imageId)).withoutImage imageId =
          workspace.written (.deleteImage imageId) := withoutImage_of_absent present
      rw [kept]
      exact .inr ⟨_, rfl, (alike_written _ _).within⟩

theorem deleteJob_within {jobId : String} {workspace after : Workspace} {result : Except Fault Unit}
    {notes : List Note} (called : (deleteJob jobId).bare workspace = ⟨result, after, notes⟩) :
    notes = [.called workspace (.deleteJob jobId)] ∧ Within workspace after := by
  cases made : workspace.fault? .deleteJob with
  | some fault =>
    rw [deleteJob_of_fault made, Outcome.mk.injEq] at called
    obtain ⟨-, rfl, rfl⟩ := called
    exact ⟨rfl, (alike_written _ _).within⟩
  | none =>
    rw [deleteJob_of_calm made, Outcome.mk.injEq] at called
    obtain ⟨-, rfl, rfl⟩ := called
    exact ⟨rfl, rfl, fun record held => (List.mem_filter.mp held).1⟩

theorem deleteImage_turns (imageId : String) (before : Workspace) :
    TurnsTo (.deleteImage imageId) before ((deleteImage imageId).bare before) := by
  cases made : before.fault? .deleteImage with
  | some fault =>
    rw [deleteImage_of_fault made]
    exact .rests (alike_written _ _) (noted_call nofun)
  | none =>
    rw [deleteImage_of_calm made]
    exact .imageDeleted ⟨rfl, rfl, rfl, rfl⟩

theorem deleteJob_turns (jobId : String) (before : Workspace) :
    TurnsTo (.deleteJob jobId) before ((deleteJob jobId).bare before) := by
  cases made : before.fault? .deleteJob with
  | some fault =>
    rw [deleteJob_of_fault made]
    exact .rests (alike_written _ _) (noted_call nofun)
  | none =>
    rw [deleteJob_of_calm made]
    exact .jobDeleted ⟨rfl, rfl, rfl, rfl⟩

theorem listImages_turns (before : Workspace) : TurnsTo .listImages before (listImages.bare before) := by
  cases made : before.fault? .listImages with
  | some fault =>
    rw [listImages_of_fault made]
    exact .rests (alike_written _ _) (noted_call nofun)
  | none =>
    rw [listImages_of_calm made]
    exact .rests (alike_written _ _) (noted_call nofun)

theorem latestJob_turns (instanceId : String) (before : Workspace) :
    TurnsTo (.latestJob instanceId) before ((latestJob instanceId).bare before) := by
  cases made : before.fault? .latestJob with
  | some fault =>
    rw [latestJob_of_fault made]
    exact .rests (alike_written _ _) (noted_call nofun)
  | none =>
    rw [latestJob_of_calm made]
    exact .rests (alike_written _ _) (noted_call nofun)

theorem createJob_turns (value : Value) (request : ImportRequest) (before : Workspace) :
    TurnsTo (.createJob value) before ((createJob request).bare before) := by
  cases made : before.fault? .createJob with
  | some fault =>
    rw [createJob_of_fault made]
    exact .rests (alike_written _ _) (noted_call fun _ _ => ⟨value, rfl⟩)
  | none =>
    rw [createJob_of_calm made]
    exact .jobCreated (alike_written_withJob _ _ _)

theorem inject_alike (operation message : String) (kind : Option Category) (before : Workspace) :
    Alike before (Session.inject operation message kind before) := by
  unfold Session.inject
  cases Operation.ofText? operation with
  | none => exact .refl before
  | some known => cases kind <;> exact ⟨rfl, rfl, rfl, rfl⟩

end Workspace

end ImageOperator
