import ImageOperator.Proofs.Cloud.Turns

set_option autoImplicit false

namespace ImageOperator.Workspace

/-- Only the latest job can still be on its way. -/
structure Orderly (name : String) (workspace : Workspace) : Prop where
  instanceId : workspace.instanceId = name
  settled : ∀ record ∈ workspace.jobs.dropLast, record.job.state.isTerminal = true

/-- Commands of others than passes: none asks for a job, and none moves a job that has ended. -/
def fair (workspace : Workspace) (command : CloudCommand) : Bool :=
  match command, command.progress? with
  | .createJob _, _ => false
  | _, some (jobId, _, _) => (workspace.record? jobId).all fun record => !record.job.state.isTerminal
  | _, none => true

theorem running_of_fair {workspace : Workspace} {command : CloudCommand} {jobId : String} {state : JobState}
    {message : Option String} (fair : workspace.fair command = true)
    (progress : command.progress? = some (jobId, state, message)) :
    ∀ record, workspace.record? jobId = some record → record.job.state.isTerminal = false := by
  intro record known
  cases command <;> cases progress <;> simpa [Workspace.fair, CloudCommand.progress?, known] using fair

/-- No job is on its way and no image of the requested name is listed. -/
structure Vacant (request : ImportRequest) (workspace : Workspace) : Prop where
  ended : ∀ record ∈ workspace.jobs, record.job.state.isTerminal = true
  unlisted : ∀ image ∈ workspace.images, image.name.same request.imageName = false

/-- Every call found the workspace orderly, and vacant where it asked for a job. -/
def Fit (name : String) (notes : List Note) : Prop :=
  ∀ workspace call, .called workspace call ∈ notes →
    Orderly name workspace ∧ ∀ request, call = .createJob request → Vacant request workspace

theorem fit_nil (name : String) : Fit name [] := by
  intro workspace call noted
  cases noted

theorem Fit.append {name : String} {first second : List Note} (before : Fit name first) (after : Fit name second) :
    Fit name (first ++ second) := by
  intro workspace call noted
  rcases List.mem_append.mp noted with early | late
  · exact before workspace call early
  · exact after workspace call late

theorem Fit.cons {name : String} {workspace : Workspace} {call : Call} {rest : List Note}
    (orderly : Orderly name workspace) (vacant : ∀ request, call = .createJob request → Vacant request workspace)
    (fit : Fit name rest) : Fit name (.called workspace call :: rest) := by
  intro other asked noted
  rcases List.mem_cons.mp noted with same | later
  · cases same
    exact ⟨orderly, vacant⟩
  · exact fit other asked later

theorem fit_submitted (name : String) (image : Image) : Fit name [.submitted image] := by
  intro workspace call noted
  cases List.mem_singleton.mp noted

theorem orderly_empty (name : String) : Orderly name (empty name) where
  instanceId := rfl
  settled := by
    intro record member
    cases member

theorem Orderly.of_same {name : String} {before after : Workspace} (orderly : Orderly name before)
    (instanceId : after.instanceId = before.instanceId) (jobs : after.jobs = before.jobs) : Orderly name after where
  instanceId := instanceId.trans orderly.instanceId
  settled := by
    rw [jobs]
    exact orderly.settled

theorem Orderly.written {name : String} {workspace : Workspace} (orderly : Orderly name workspace) (call : Call) :
    Orderly name (workspace.written call) :=
  orderly.of_same rfl rfl

/-- With the latest job ended, all have. -/
theorem Orderly.ended {name : String} {workspace : Workspace} (orderly : Orderly name workspace)
    (free : ∀ job, workspace.latest? = some job → job.state.isTerminal = true) :
    ∀ record ∈ workspace.jobs, record.job.state.isTerminal = true := by
  intro record member
  have inhabited : workspace.jobs ≠ [] := List.ne_nil_of_mem member
  rw [← List.dropLast_concat_getLast inhabited] at member
  rcases List.mem_append.mp member with early | last
  · exact orderly.settled record early
  · obtain rfl := List.mem_singleton.mp last
    refine free _ ?_
    rw [latest?, List.getLast?_eq_some_getLast inhabited]
    rfl

theorem Orderly.withJob {name : String} {workspace : Workspace} (orderly : Orderly name workspace)
    (free : ∀ job, workspace.latest? = some job → job.state.isTerminal = true) (request : ImportRequest) :
    Orderly name (workspace.withJob request) where
  instanceId := orderly.instanceId
  settled := by
    simp only [Workspace.withJob, List.dropLast_concat]
    exact orderly.ended free

/-- Filtering leaves nothing but the last place to a last entry. -/
theorem mem_dropLast_of_filter {α : Type} {keep : α → Bool} {entries : List α} {entry : α}
    (member : entry ∈ (entries.filter keep).dropLast) : entry ∈ entries.dropLast := by
  have inhabited : entries ≠ [] := by
    rintro rfl
    cases member
  rw [← List.dropLast_concat_getLast inhabited, List.filter_append] at member
  cases kept : keep (entries.getLast inhabited) with
  | true =>
    simp only [List.filter_cons, List.filter_nil, kept, ↓reduceIte, List.dropLast_concat] at member
    exact (List.mem_filter.mp member).1
  | false =>
    simp only [List.filter_cons, List.filter_nil, kept, Bool.false_eq_true, ↓reduceIte, List.append_nil] at member
    exact (List.mem_filter.mp (List.dropLast_subset _ member)).1

theorem Orderly.withoutJob {name : String} {workspace : Workspace} (orderly : Orderly name workspace)
    (jobId : String) : Orderly name (workspace.withoutJob jobId) where
  instanceId := orderly.instanceId
  settled := by
    intro record member
    exact orderly.settled record (mem_dropLast_of_filter member)

/-- Moving a job that is on its way moves the latest one. -/
theorem Orderly.setJob {name : String} {workspace : Workspace} (orderly : Orderly name workspace) {jobId : String}
    (moving : ∀ record, workspace.record? jobId = some record → record.job.state.isTerminal = false)
    (state : JobState) (message : Option String) : Orderly name (workspace.setJob jobId state message) where
  instanceId := orderly.instanceId
  settled := by
    have others : ∀ record ∈ workspace.jobs.dropLast, record.job.jobId ≠ jobId := by
      intro record member same
      have some : (workspace.jobs.dropLast.find? (·.job.jobId = jobId)).isSome = true :=
        List.find?_isSome.mpr ⟨record, member, by simpa using same⟩
      obtain ⟨first, found⟩ := Option.isSome_iff_exists.mp some
      have running := moving first ((List.dropLast_prefix workspace.jobs).find?_eq_some found)
      have ended := orderly.settled first (List.mem_of_find?_eq_some found)
      rw [running] at ended
      cases ended
    intro record member
    simp only [Workspace.setJob, ← List.map_dropLast, List.mem_map] at member
    obtain ⟨old, early, rfl⟩ := member
    simp only [others old early, ↓reduceIte]
    exact orderly.settled old early

def Ended (workspace : Workspace) : Prop :=
  ∀ record ∈ workspace.jobs, record.job.state.isTerminal = true

theorem Ended.within {before after : Workspace} (ended : Ended before) (within : Within before after) :
    Ended after := by
  intro record held
  exact ended record (within.jobs record held)

/-- When the job on its way completes, all have ended. -/
theorem Orderly.completed {name : String} {workspace : Workspace} (orderly : Orderly name workspace) {jobId : String}
    {record : JobRecord} (known : workspace.record? jobId = some record)
    (running : record.job.state.isTerminal = false) : Ended (workspace.setJob jobId .completed none) := by
  have inhabited : workspace.jobs ≠ [] := List.ne_nil_of_mem (List.mem_of_find?_eq_some known)
  have own : record.job.jobId = jobId := by simpa using List.find?_some known
  have latest : record = workspace.jobs.getLast inhabited := by
    have held := List.mem_of_find?_eq_some known
    rw [← List.dropLast_concat_getLast inhabited] at held
    rcases List.mem_append.mp held with early | last
    · rw [orderly.settled record early] at running
      cases running
    · exact List.mem_singleton.mp last
  intro moved held
  obtain ⟨old, member, rfl⟩ := List.mem_map.mp held
  by_cases same : old.job.jobId = jobId
  · simp only [same, ↓reduceIte]
    rfl
  · simp only [same, ↓reduceIte]
    rw [← List.dropLast_concat_getLast inhabited] at member
    rcases List.mem_append.mp member with early | last
    · exact orderly.settled old early
    · rw [List.mem_singleton.mp last, ← latest] at same
      exact absurd own same

theorem Orderly.turns {name : String} {before after : Workspace} {command : CloudCommand} {notes : List Note}
    (orderly : Orderly name before) (fair : before.fair command = true) (turns : Turns before command after notes) :
    Orderly name after ∧ Fit name notes := by
  cases turns with
  | rests alike noted =>
    refine ⟨orderly.of_same alike.instanceId alike.jobs, ?_⟩
    intro workspace call given
    obtain ⟨made, same, asks⟩ := noted _ given
    cases same
    refine ⟨orderly, fun request asked => ?_⟩
    obtain ⟨value, rfl⟩ := asks request asked
    cases fair
  | imageAdded =>
    refine ⟨orderly.of_same ?_ ?_, fit_nil name⟩ <;>
    · unfold addImage
      split <;> rfl
  | imageDeleted alike =>
    exact ⟨orderly.of_same alike.instanceId alike.jobs, Fit.cons orderly nofun (fit_nil name)⟩
  | jobMoved progress known unfinished => exact ⟨orderly.setJob (running_of_fair fair progress) _ _, fit_nil name⟩
  | jobCompleted known =>
    refine ⟨(orderly.setJob (running_of_fair fair rfl) .completed none).of_same ?_ ?_, fit_nil name⟩ <;>
    · unfold addImage
      split <;> rfl
  | jobDeleted alike =>
    exact ⟨(orderly.withoutJob _).of_same alike.instanceId alike.jobs, Fit.cons orderly nofun (fit_nil name)⟩
  | jobCreated alike => cases fair

/-- At most one job is on its way, and a client of the workspace that asks for the latest job is told of that one. -/
structure OneRunning (name : String) (workspace : Workspace) : Prop where
  atMostOne : (workspace.jobs.filter fun record => !record.job.state.isTerminal).length ≤ 1
  told : ∀ record ∈ workspace.jobs, record.job.state.isTerminal = false → workspace.fault? .latestJob = none →
    (latestJob name workspace).result = .ok (some record.job)

theorem Orderly.oneRunning {name : String} {workspace : Workspace} (orderly : Orderly name workspace) :
    OneRunning name workspace := by
  cases inhabited : workspace.jobs with
  | nil =>
    constructor
    · simp [inhabited]
    · intro record member
      rw [inhabited] at member
      cases member
  | cons oldest younger =>
    have nonempty : workspace.jobs ≠ [] := by simp [inhabited]
    have split := List.dropLast_concat_getLast nonempty
    have none_early : workspace.jobs.dropLast.filter (fun record => !record.job.state.isTerminal) = [] := by
      refine List.filter_eq_nil_iff.mpr fun record member => ?_
      simp [orderly.settled record member]
    constructor
    · rw [← split, List.filter_append, none_early, List.nil_append]
      exact List.length_filter_le _ _
    · intro record member running calm
      have last : record = workspace.jobs.getLast nonempty := by
        rw [← split] at member
        rcases List.mem_append.mp member with early | last
        · rw [orderly.settled record early] at running
          cases running
        · exact List.mem_singleton.mp last
      have latest : workspace.latest? = some record.job := by
        rw [latest?, List.getLast?_eq_some_getLast nonempty, ← last]
        rfl
      rw [← Attempt.bare_result, latestJob_of_calm calm, latest]
      simp [orderly.instanceId]

end ImageOperator.Workspace
