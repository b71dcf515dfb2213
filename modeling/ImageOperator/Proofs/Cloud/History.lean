import ImageOperator.Proofs.Cloud.Reachable
import Mathlib.Data.List.Nodup

set_option autoImplicit false

/-!
A workspace is a faithful history of its jobs. From the answers that were given to all that was done with it, and from
nothing else, one can tell which jobs it has, in which order and in which states, and which requests it has seen.
-/

namespace ImageOperator.Workspace

/-- What can be done with a workspace: clients call it, others put images in, move jobs on and ask for a job, and calls
are made to fail. -/
inductive Action
  | call (call : Call)
  | addImage (name : Value) (imageId : String)
  | startJob (jobId : String)
  | completeJob (jobId : String)
  | failJob (jobId message : String)
  | getJob (jobId : String)
  | injectFailure (operation : Operation) (message : String)
  | injectFault (operation : Operation) (upset : Upset)
  | schedule (due : List (Option Upset))
  | clearFailures

/-- What a history says of one action. -/
inductive Entry
  /-- A job was created for a request, and its identifier given. -/
  | created (jobId : String) (request : ImportRequest)
  | moved (jobId : String) (state : JobState) (message : Option String)
  | deleted (jobId : String)
  /-- An image was put in without an identifier, and given this one. -/
  | generated (imageId : String)

abbrev History := List Entry

namespace Action

/-- Makes a call. What there is to say of it goes by its answer. -/
def serve : Call → Attempt Workspace History
  | .listImages => do
    let _ ← listImages
    return []
  | .createJob request => do
    let jobId ← createJob request
    return [.created jobId request]
  | .latestJob instanceId => do
    let _ ← latestJob instanceId
    return []
  | .deleteImage imageId => do
    deleteImage imageId
    return []
  | .deleteJob jobId => do
    deleteJob jobId
    return [.deleted jobId]

/-- Does an action. What there is to say of it goes by its answer; of an action that fails there is nothing to say. -/
def run : Action → Attempt Workspace History
  | .call asked => serve asked
  | .addImage name imageId => do
    let (image, workspace) := (← Attempt.state).addImage name imageId
    Attempt.update fun _ => workspace
    return if imageId.isEmpty then [.generated image.imageId] else []
  | .startJob jobId => do
    Workspace.startJob jobId
    return [.moved jobId .running none]
  | .completeJob jobId => do
    let image ← Workspace.completeJob jobId
    return [.moved jobId .completed none, .generated image.imageId]
  | .failJob jobId message => do
    Workspace.failJob jobId message
    return [.moved jobId .failed (some message)]
  | .getJob jobId => do
    let _ ← Attempt.of ((← Attempt.state).getJob jobId)
    return []
  | .injectFailure operation message => do
    Attempt.update (·.injectFailure operation message)
    return []
  | .injectFault operation upset => do
    Attempt.update (·.injectFault operation upset)
    return []
  | .schedule due => do
    Attempt.update (·.schedule due)
    return []
  | .clearFailures => do
    Attempt.update Workspace.clearFailures
    return []

end Action

/-- The workspace after actions. -/
def after (workspace : Workspace) (actions : List Action) : Workspace :=
  actions.foldl (fun workspace action => (action.run workspace).state) workspace

/-- What there is to say of actions, in their order. -/
def history (workspace : Workspace) : List Action → History
  | [] => []
  | action :: rest =>
    ((action.run workspace).result.toOption.getD []) ++ (action.run workspace).state.history rest

namespace Entry

def created? : Entry → Option (String × ImportRequest)
  | .created jobId request => some (jobId, request)
  | _ => none

def generated? : Entry → Option String
  | .generated imageId => some imageId
  | _ => none

/-- The state and message that a job was given. -/
def move? (jobId : String) : Entry → Option (JobState × Option String)
  | .moved other state message => if other = jobId then some (state, message) else none
  | _ => none

def deletes (jobId : String) : Entry → Bool
  | .deleted other => other = jobId
  | _ => false

/-- The entry is about the job or the image of a number. -/
def IsAbout (number : Nat) : Entry → Prop
  | .created jobId _ | .moved jobId _ _ | .deleted jobId => jobId = jobIdOf number
  | .generated imageId => imageId = imageIdOf number

end Entry

namespace History

/-- The identifiers of all jobs ever created. -/
def created (history : History) : List String :=
  history.filterMap fun entry => entry.created?.map (·.1)

/-- The requests of all jobs ever created. -/
def requests (history : History) : List ImportRequest :=
  history.filterMap fun entry => entry.created?.map (·.2)

def generated (history : History) : List String :=
  history.filterMap Entry.generated?

/-- The jobs that were created and not deleted. -/
def survivors (history : History) : List String :=
  (created history).filter fun jobId => !history.any (Entry.deletes jobId)

/-- The state and message that a job was given last; at first it is queued. -/
def standing (history : History) (jobId : String) : JobState × Option String :=
  ((history.filterMap (Entry.move? jobId)).getLast?).getD (.queued, none)

def job (history : History) (jobId : String) : Job :=
  ⟨jobId, (standing history jobId).1, (standing history jobId).2⟩

/-- The surviving job that was created last. -/
def latest? (history : History) : Option Job :=
  (survivors history).getLast?.map (job history)

end History

open History

variable {history : History} {workspace : Workspace}

/-! ### One more entry -/

theorem standing_concat (history : History) (entry : Entry) (jobId : String) :
    standing (history ++ [entry]) jobId = (entry.move? jobId).getD (standing history jobId) := by
  unfold standing
  rw [List.filterMap_append]
  cases moves : entry.move? jobId <;> simp [moves]

theorem job_concat_of_not_moved {entry : Entry} {jobId : String} (other : entry.move? jobId = none) :
    job (history ++ [entry]) jobId = job history jobId := by
  unfold job
  rw [standing_concat, other, Option.getD_none]

theorem created_concat_of_none {entry : Entry} (uncreated : entry.created? = none) :
    created (history ++ [entry]) = created history := by
  simp [created, uncreated]

theorem requests_concat_of_none {entry : Entry} (uncreated : entry.created? = none) :
    History.requests (history ++ [entry]) = History.requests history := by
  simp [History.requests, uncreated]

theorem generated_concat_of_none {entry : Entry} (ungenerated : entry.generated? = none) :
    generated (history ++ [entry]) = generated history := by
  simp [generated, ungenerated]

theorem survivors_created (jobId : String) (request : ImportRequest)
    (fresh : history.any (Entry.deletes jobId) = false) :
    survivors (history ++ [.created jobId request]) = survivors history ++ [jobId] := by
  simp [survivors, created, Entry.created?, Entry.deletes, fresh]

theorem survivors_deleted (jobId : String) :
    survivors (history ++ [.deleted jobId]) = (survivors history).filter (· ≠ jobId) := by
  unfold survivors
  rw [created_concat_of_none rfl, List.filter_filter]
  apply List.filter_congr
  intro other given
  by_cases own : jobId = other <;> simp [Entry.deletes, own, eq_comm]

theorem survivors_other {entry : Entry} (uncreated : entry.created? = none)
    (undeleted : ∀ jobId, entry.deletes jobId = false) :
    survivors (history ++ [entry]) = survivors history := by
  simp [survivors, created_concat_of_none uncreated, undeleted]

/-! ### What a history says of a workspace -/

theorem imageIdOf_injective {first second : Nat} (same : imageIdOf first = imageIdOf second) : first = second := by
  have digits : toString first = toString second := (String.append_right_inj "image-").mp same
  exact jobIdOf_injective (congrArg ("job-" ++ ·) digits)

/-- A workspace is as its history says: its jobs are the survivors as they stand, its requests those of all jobs. The
history speaks of numbers that were given out, and no number was given twice. -/
structure Recorded (name : String) (history : History) (workspace : Workspace) : Prop where
  instanceId : workspace.instanceId = name
  jobs : workspace.jobs.map (·.job) = (survivors history).map (job history)
  requests : workspace.requests = History.requests history
  numbered : ∀ entry ∈ history, ∃ number ≤ workspace.serial, entry.IsAbout number
  created : (History.created history).Nodup
  generated : (History.generated history).Nodup

theorem recorded_empty (name : String) : Recorded name [] (empty name) where
  instanceId := rfl
  jobs := rfl
  requests := rfl
  numbered := nofun
  created := List.nodup_nil
  generated := List.nodup_nil

theorem mem_created {jobId : String} (given : jobId ∈ created history) :
    ∃ request, .created jobId request ∈ history := by
  obtain ⟨entry, held, same⟩ := List.mem_filterMap.mp given
  cases entry with
  | created other request =>
    obtain rfl : other = jobId := by simpa [Entry.created?] using same
    exact ⟨request, held⟩
  | moved | deleted | generated => cases same

namespace Recorded

variable {name : String} {after : Workspace}

/-- Of the number that is given out next the history says nothing yet. -/
theorem unheard (recorded : Recorded name history workspace) {entry : Entry} (held : entry ∈ history) :
    ¬ entry.IsAbout (workspace.serial + 1) := by
  intro next
  obtain ⟨number, given, about⟩ := recorded.numbered entry held
  have same : number = workspace.serial + 1 := by
    cases entry with
    | created | moved | deleted => exact jobIdOf_injective (about.symm.trans next)
    | generated => exact imageIdOf_injective (about.symm.trans next)
  omega

theorem unmoved (recorded : Recorded name history workspace) :
    standing history (jobIdOf (workspace.serial + 1)) = (.queued, none) := by
  have none_moves : history.filterMap (Entry.move? (jobIdOf (workspace.serial + 1))) = [] := by
    rw [List.filterMap_eq_nil_iff]
    intro entry held
    have other := recorded.unheard held
    cases entry with
    | moved jobId state message => exact if_neg other
    | created | deleted | generated => rfl
  unfold standing
  rw [none_moves]
  rfl

theorem undeleted (recorded : Recorded name history workspace) :
    history.any (Entry.deletes (jobIdOf (workspace.serial + 1))) = false := by
  rw [List.any_eq_false]
  intro entry held
  have other := recorded.unheard held
  cases entry with
  | deleted jobId => simpa [Entry.deletes, Entry.IsAbout] using other
  | created | moved | generated => exact nofun

/-- The jobs that are left have numbers that were given out. -/
theorem numbered_of_mem (recorded : Recorded name history workspace) {record : JobRecord}
    (held : record ∈ workspace.jobs) : ∃ number ≤ workspace.serial, record.job.jobId = jobIdOf number := by
  have listed : record.job ∈ workspace.jobs.map (·.job) := List.mem_map_of_mem held
  rw [recorded.jobs] at listed
  obtain ⟨jobId, survives, same⟩ := List.mem_map.mp listed
  obtain ⟨request, entered⟩ := mem_created (List.mem_filter.mp survives).1
  rw [← same]
  exact recorded.numbered _ entered

/-- An entry that is about a number given out, or about the next one. -/
theorem numbered_concat (recorded : Recorded name history workspace) {entry : Entry} {number : Nat}
    (grows : workspace.serial ≤ after.serial) (given : number ≤ after.serial) (about : entry.IsAbout number) :
    ∀ other ∈ history ++ [entry], ∃ number ≤ after.serial, other.IsAbout number := by
  intro other held
  rcases List.mem_append.mp held with old | new
  · obtain ⟨earlier, within, same⟩ := recorded.numbered other old
    exact ⟨earlier, by omega, same⟩
  · rw [List.mem_singleton.mp new]
    exact ⟨number, given, about⟩

/-! ### One lemma for each kind of change -/

theorem rests (recorded : Recorded name history workspace) (instanceId : after.instanceId = workspace.instanceId)
    (jobs : after.jobs = workspace.jobs) (requests : after.requests = workspace.requests)
    (serial : after.serial = workspace.serial) : Recorded name history after where
  instanceId := instanceId.trans recorded.instanceId
  jobs := jobs ▸ recorded.jobs
  requests := requests.trans recorded.requests
  numbered := serial ▸ recorded.numbered
  created := recorded.created
  generated := recorded.generated

theorem written (recorded : Recorded name history workspace) (call : Call) : Recorded name history (workspace.written call) :=
  recorded.rests rfl rfl rfl rfl

theorem withJob (recorded : Recorded name history workspace) (request : ImportRequest) :
    Recorded name (history ++ [.created (jobIdOf (workspace.serial + 1)) request]) (workspace.withJob request) where
  instanceId := recorded.instanceId
  jobs := by
    have standing : job history (jobIdOf (workspace.serial + 1)) =
        ⟨jobIdOf (workspace.serial + 1), .queued, none⟩ := by
      rw [job, recorded.unmoved]
    have same : job (history ++ [.created (jobIdOf (workspace.serial + 1)) request]) = job history :=
      funext fun _ => job_concat_of_not_moved rfl
    rw [survivors_created _ _ recorded.undeleted, List.map_append, same, ← recorded.jobs, List.map_singleton, standing]
    exact List.map_append
  requests := by
    have more : History.requests (history ++ [.created (jobIdOf (workspace.serial + 1)) request]) =
        History.requests history ++ [request] := by
      simp [History.requests, Entry.created?]
    rw [more, ← recorded.requests]
    rfl
  numbered := recorded.numbered_concat (Nat.le_succ _) (Nat.le_refl _) rfl
  created := by
    have fresh : jobIdOf (workspace.serial + 1) ∉ History.created history := by
      intro given
      obtain ⟨other, held⟩ := mem_created given
      exact recorded.unheard held rfl
    have more : History.created (history ++ [.created (jobIdOf (workspace.serial + 1)) request]) =
        History.created history ++ [jobIdOf (workspace.serial + 1)] := by
      simp [History.created, Entry.created?]
    rw [more, ← List.concat_eq_append]
    exact recorded.created.concat fresh
  generated := by
    rw [generated_concat_of_none rfl]
    exact recorded.generated

theorem setJob (recorded : Recorded name history workspace) {jobId : String} {record : JobRecord}
    (known : workspace.record? jobId = some record) (state : JobState) (message : Option String) :
    Recorded name (history ++ [.moved jobId state message]) (workspace.setJob jobId state message) where
  instanceId := recorded.instanceId
  jobs := by
    have moved : (workspace.setJob jobId state message).jobs.map (·.job) =
        (workspace.jobs.map (·.job)).map fun job =>
          if job.jobId = jobId then { job with state, message } else job := by
      rw [Workspace.setJob, List.map_map, List.map_map]
      apply List.map_congr_left
      intro other held
      by_cases own : other.job.jobId = jobId <;> simp [own]
    rw [moved, recorded.jobs, List.map_map, survivors_other rfl fun _ => rfl]
    apply List.map_congr_left
    intro other survives
    by_cases own : jobId = other
    · simp [job, standing_concat, Entry.move?, own]
    · simp [job, standing_concat, Entry.move?, own, Ne.symm own]
  requests := by
    rw [requests_concat_of_none rfl]
    exact recorded.requests
  numbered := by
    have own : record.job.jobId = jobId := by simpa using List.find?_some known
    obtain ⟨number, given, about⟩ := recorded.numbered_of_mem (List.mem_of_find?_eq_some known)
    exact recorded.numbered_concat (Nat.le_refl _) given (own.symm.trans about)
  created := by
    rw [created_concat_of_none rfl]
    exact recorded.created
  generated := by
    rw [generated_concat_of_none rfl]
    exact recorded.generated

theorem withoutJob (recorded : Recorded name history workspace) {jobId : String}
    (present : workspace.jobs.any (·.job.jobId = jobId) = true) :
    Recorded name (history ++ [.deleted jobId]) (workspace.withoutJob jobId) where
  instanceId := recorded.instanceId
  jobs := by
    have left : (workspace.withoutJob jobId).jobs.map (·.job) =
        (workspace.jobs.map (·.job)).filter (·.jobId ≠ jobId) := by
      rw [List.filter_map]
      rfl
    have same : job (history ++ [.deleted jobId]) = job history := funext fun _ => job_concat_of_not_moved rfl
    rw [left, recorded.jobs, survivors_deleted, same, List.filter_map]
    rfl
  requests := by
    rw [requests_concat_of_none rfl]
    exact recorded.requests
  numbered := by
    obtain ⟨record, held, own⟩ := List.any_eq_true.mp present
    obtain ⟨number, given, about⟩ := recorded.numbered_of_mem held
    exact recorded.numbered_concat (Nat.le_refl _) given ((of_decide_eq_true own).symm.trans about)
  created := by
    rw [created_concat_of_none rfl]
    exact recorded.created
  generated := by
    rw [generated_concat_of_none rfl]
    exact recorded.generated

theorem addImage (recorded : Recorded name history workspace) (title : Value) :
    Recorded name (history ++ [.generated (imageIdOf (workspace.serial + 1))]) (workspace.addImage title "").2 where
  instanceId := (addImage_instanceId _ _ _).trans recorded.instanceId
  jobs := by
    have same : job (history ++ [.generated (imageIdOf (workspace.serial + 1))]) = job history :=
      funext fun _ => job_concat_of_not_moved rfl
    rw [addImage_jobs, same, survivors_other rfl fun _ => rfl]
    exact recorded.jobs
  requests := by
    rw [requests_concat_of_none rfl]
    exact recorded.requests
  numbered := recorded.numbered_concat (Nat.le_succ _) (Nat.le_refl _) rfl
  created := by
    rw [created_concat_of_none rfl]
    exact recorded.created
  generated := by
    have fresh : imageIdOf (workspace.serial + 1) ∉ History.generated history := by
      intro given
      obtain ⟨entry, held, same⟩ := List.mem_filterMap.mp given
      cases entry with
      | generated other => exact recorded.unheard held (Option.some.inj same)
      | created | moved | deleted => cases same
    have more : History.generated (history ++ [.generated (imageIdOf (workspace.serial + 1))]) =
        History.generated history ++ [imageIdOf (workspace.serial + 1)] := by
      simp [History.generated, Entry.generated?]
    rw [more, ← List.concat_eq_append]
    exact recorded.generated.concat fresh

/-- Nothing more is said. -/
theorem unsaid (recorded : Recorded name history workspace) : Recorded name (history ++ []) workspace := by
  rw [List.append_nil]
  exact recorded

end Recorded

/-! ### What calls and other actions come to -/

section

variable {α : Type} {attempt : Attempt Workspace α} {say : α → History} {after : Workspace} {notes : List Note}

theorem said_of_error {fault : Fault} (failed : attempt.bare workspace = ⟨.error fault, after, notes⟩) :
    (attempt >>= fun value => pure (say value)).bare workspace = ⟨.error fault, after, notes⟩ := by
  rw [Attempt.bare_bind]
  exact Attempt.bind_of_error failed _

theorem said_of_ok {value : α} (done : attempt.bare workspace = ⟨.ok value, after, notes⟩) :
    (attempt >>= fun value => pure (say value)).bare workspace = ⟨.ok (say value), after, notes⟩ := by
  rw [Attempt.bare_bind, Attempt.bind_of_ok done, Attempt.bare_pure, Attempt.pure_apply, List.append_nil]

end

/-- What a call can come to: a call that fails, for whatever reason, is written down and changes nothing more. -/
inductive Serves (workspace : Workspace) : Call → Outcome Workspace History → Prop
  | refused {call : Call} {fault : Fault} {notes : List Note} :
      Serves workspace call ⟨.error fault, workspace.written call, notes⟩
  | answered {call : Call} {notes : List Note} : Serves workspace call ⟨.ok [], workspace.written call, notes⟩
  | created {request : ImportRequest} {notes : List Note} :
      Serves workspace (.createJob request)
        ⟨.ok [.created (jobIdOf (workspace.serial + 1)) request],
          (workspace.written (.createJob request)).withJob request, notes⟩
  | imageDeleted {imageId : String} {notes : List Note} :
      Serves workspace (.deleteImage imageId)
        ⟨.ok [], (workspace.written (.deleteImage imageId)).withoutImage imageId, notes⟩
  | jobDeleted {jobId : String} {notes : List Note} (present : workspace.jobs.any (·.job.jobId = jobId) = true) :
      Serves workspace (.deleteJob jobId)
        ⟨.ok [.deleted jobId], (workspace.written (.deleteJob jobId)).withoutJob jobId, notes⟩

/-- A call that is made to fail. -/
theorem serve_of_fault {call : Call} {fault : Fault} (made : workspace.fault? call.operation = some fault) :
    (Action.serve call).bare workspace = ⟨.error fault, workspace.written call, [.called workspace call]⟩ := by
  cases call with
  | listImages => exact said_of_error (listImages_of_fault made)
  | createJob request => exact said_of_error (createJob_of_fault made)
  | latestJob instanceId => exact said_of_error (latestJob_of_fault made)
  | deleteImage imageId => exact said_of_error (deleteImage_of_fault made)
  | deleteJob jobId => exact said_of_error (deleteJob_of_fault made)

theorem serve_serves (workspace : Workspace) (call : Call) :
    Serves workspace call ((Action.serve call).bare workspace) := by
  cases made : workspace.fault? call.operation with
  | some fault =>
    rw [serve_of_fault made]
    exact .refused
  | none =>
    cases call with
    | listImages =>
      have done : (Action.serve .listImages).bare workspace = _ := said_of_ok (listImages_of_calm made)
      rw [done]
      exact .answered
    | createJob request =>
      have done : (Action.serve (.createJob request)).bare workspace = _ := said_of_ok (createJob_of_calm made)
      rw [done]
      exact .created
    | latestJob instanceId =>
      have done : (Action.serve (.latestJob instanceId)).bare workspace = _ := said_of_ok (latestJob_of_calm made)
      rw [done]
      exact .answered
    | deleteImage imageId =>
      have called := @deleteImage_of_calm workspace imageId made
      cases present : workspace.images.any (·.imageId = imageId) with
      | true =>
        rw [present] at called
        have done : (Action.serve (.deleteImage imageId)).bare workspace = _ := said_of_ok called
        rw [done]
        exact .imageDeleted
      | false =>
        rw [present, withoutImage_of_absent (by exact present)] at called
        have failed : (Action.serve (.deleteImage imageId)).bare workspace = _ := said_of_error called
        rw [failed]
        exact .refused
    | deleteJob jobId =>
      have called := @deleteJob_of_calm workspace jobId made
      cases present : workspace.jobs.any (·.job.jobId = jobId) with
      | true =>
        rw [present] at called
        have done : (Action.serve (.deleteJob jobId)).bare workspace = _ := said_of_ok called
        rw [done]
        exact .jobDeleted present
      | false =>
        rw [present, withoutJob_of_absent (by exact present)] at called
        have failed : (Action.serve (.deleteJob jobId)).bare workspace = _ := said_of_error called
        rw [failed]
        exact .refused

/-- A call that fails changes nothing but that it is written down. -/
theorem serve_of_error {call : Call} {fault : Fault} (failed : (Action.serve call workspace).result = .error fault) :
    (Action.serve call workspace).state = workspace.written call := by
  have serves := serve_serves workspace call
  rw [← Attempt.bare_result] at failed
  rw [← Attempt.bare_state]
  generalize (Action.serve call).bare workspace = outcome at serves failed
  cases serves with
  | refused => rfl
  | answered | created | imageDeleted | jobDeleted => cases failed

theorem completeJob_of_known {jobId : String} {record : JobRecord} (known : workspace.record? jobId = some record) :
    (completeJob jobId).bare workspace =
      ⟨.ok ((workspace.setJob jobId .completed none).addImage record.request.imageName "").1,
        ((workspace.setJob jobId .completed none).addImage record.request.imageName "").2, []⟩ := by
  unfold completeJob
  rw [Attempt.bare_bind, Attempt.bind_of_ok (bare_moveJob_of known _ _)]
  rfl

theorem completeJob_of_unknown {jobId : String} (unknown : workspace.record? jobId = none) :
    (completeJob jobId).bare workspace = ⟨.error (.jobUnknown jobId), workspace, []⟩ := by
  unfold completeJob
  rw [Attempt.bare_bind, Attempt.bind_of_error (bare_moveJob_of_none unknown _ _)]

/-- An image that is put in with an identifier takes no number. -/
theorem addImage_of_given (workspace : Workspace) (name : Value) {imageId : String} (given : imageId.isEmpty = false) :
    (workspace.addImage name imageId).2 =
      { workspace with images := workspace.images ++ [⟨imageId, name, some activeState⟩] } := by
  unfold addImage
  rw [given]
  rfl

namespace Recorded

variable {name : String}

/-- The history is carried on by what there is to say of an outcome. -/
def Continues (name : String) (history : History) (outcome : Outcome Workspace History) : Prop :=
  Recorded name (history ++ outcome.result.toOption.getD []) outcome.state

theorem serve (recorded : Recorded name history workspace) (call : Call) :
    Continues name history ((Action.serve call).bare workspace) := by
  have serves := serve_serves workspace call
  generalize (Action.serve call).bare workspace = outcome at serves
  cases serves with
  | refused | answered => exact (recorded.written _).unsaid
  | created => exact (recorded.written _).withJob _
  | imageDeleted =>
    apply Recorded.unsaid
    exact recorded.rests rfl rfl rfl rfl
  | jobDeleted present => exact (recorded.written _).withoutJob present

/-- A job is moved, or it is unknown and nothing happens. -/
theorem moveJob (recorded : Recorded name history workspace) (jobId : String) (state : JobState)
    (message : Option String) :
    Continues name history (((Workspace.moveJob jobId state message >>= fun _ => pure ()) >>= fun _ =>
      pure [.moved jobId state message]).bare workspace) := by
  cases known : workspace.record? jobId with
  | none =>
    have failed : (Workspace.moveJob jobId state message >>= fun _ => pure ()).bare workspace =
        ⟨.error (.jobUnknown jobId), workspace, []⟩ := by
      rw [Attempt.bare_bind]
      exact Attempt.bind_of_error (bare_moveJob_of_none known state message) _
    rw [said_of_error failed]
    exact recorded.unsaid
  | some record =>
    have done : (Workspace.moveJob jobId state message >>= fun _ => pure ()).bare workspace =
        ⟨.ok (), workspace.setJob jobId state message, []⟩ := by
      rw [Attempt.bare_bind]
      exact Attempt.bind_of_ok (bare_moveJob_of known state message) _
    rw [said_of_ok done]
    exact recorded.setJob known state message

theorem completeJob (recorded : Recorded name history workspace) (jobId : String) :
    Continues name history ((Action.completeJob jobId).run.bare workspace) := by
  cases known : workspace.record? jobId with
  | none =>
    have failed : (Action.completeJob jobId).run.bare workspace = _ := said_of_error (completeJob_of_unknown known)
    rw [failed]
    exact recorded.unsaid
  | some record =>
    have done : (Action.completeJob jobId).run.bare workspace = _ := said_of_ok (completeJob_of_known known)
    have both := (recorded.setJob known .completed none).addImage record.request.imageName
    rw [List.append_assoc] at both
    rw [done]
    exact both

theorem putImage (recorded : Recorded name history workspace) (title : Value) (imageId : String) :
    Continues name history ((Action.addImage title imageId).run.bare workspace) := by
  have done : (Action.addImage title imageId).run.bare workspace =
      ⟨.ok (if imageId.isEmpty then [.generated (workspace.addImage title imageId).1.imageId] else []),
        (workspace.addImage title imageId).2, []⟩ := rfl
  rw [done]
  cases given : imageId.isEmpty with
  | true =>
    obtain rfl : imageId = "" := String.isEmpty_iff.mp given
    exact recorded.addImage title
  | false =>
    rw [addImage_of_given workspace title given]
    apply Recorded.unsaid
    exact recorded.rests rfl rfl rfl rfl

/-- Every action carries the history on. -/
theorem run (recorded : Recorded name history workspace) (action : Action) :
    Continues name history (action.run.bare workspace) := by
  cases action with
  | call asked => exact recorded.serve asked
  | addImage title imageId => exact recorded.putImage title imageId
  | startJob jobId => exact recorded.moveJob jobId .running none
  | completeJob jobId => exact recorded.completeJob jobId
  | failJob jobId message => exact recorded.moveJob jobId .failed (some message)
  | getJob jobId =>
    have seen : (Action.getJob jobId).run.bare workspace =
        (Attempt.of (workspace.getJob jobId) >>= fun _ => pure []).bare workspace := rfl
    rw [seen]
    cases known : workspace.getJob jobId with
    | error fault =>
      rw [said_of_error rfl]
      exact recorded.unsaid
    | ok job =>
      rw [said_of_ok rfl]
      exact recorded.unsaid
  | injectFailure | injectFault | schedule | clearFailures =>
    apply Recorded.unsaid
    exact recorded.rests rfl rfl rfl rfl

theorem after (recorded : Recorded name history workspace) (actions : List Action) :
    Recorded name (history ++ workspace.history actions) (workspace.after actions) := by
  induction actions generalizing history workspace with
  | nil => exact recorded.unsaid
  | cons action rest ih =>
    have later := ih (recorded.run action)
    rw [List.append_assoc] at later
    exact later

theorem latest?_eq (recorded : Recorded name history workspace) : workspace.latest? = history.latest? := by
  rw [Workspace.latest?, ← List.getLast?_map, recorded.jobs, List.getLast?_map]
  rfl

end Recorded

/-- Whatever is done with a workspace, it is a faithful history of its jobs. No job and no image is given an identifier
that another one has had. The latest job that a client is told of, if its call is not made to fail, is the surviving job
that was created last, as it stands, for a client of this workspace, and none if no job survives or for any other client.
The requests are those of all jobs that were created, in their order. A call that fails is written down and changes
nothing more. -/
theorem jobs_faithful (name : String) (actions : List Action) :
    ((empty name).history actions).created.Nodup ∧
      ((empty name).history actions).generated.Nodup ∧
      (∀ client, (latestJob client ((empty name).after actions)).result =
        match ((empty name).after actions).fault? .latestJob with
        | some fault => .error fault
        | none => .ok (if client = name then ((empty name).history actions).latest? else none)) ∧
      (((empty name).history actions).latest? = none ↔ ((empty name).history actions).survivors = []) ∧
      ((empty name).after actions).requests = ((empty name).history actions).requests ∧
      ∀ call fault, (Action.serve call ((empty name).after actions)).result = .error fault →
        (Action.serve call ((empty name).after actions)).state = ((empty name).after actions).written call := by
  have recorded := (recorded_empty name).after actions
  rw [List.nil_append] at recorded
  refine ⟨recorded.created, recorded.generated, ?_, ?_, recorded.requests, fun call fault failed => ?_⟩
  · intro client
    rw [← Attempt.bare_result]
    cases made : ((empty name).after actions).fault? .latestJob with
    | some fault => rw [latestJob_of_fault made]
    | none =>
      rw [latestJob_of_calm made, recorded.instanceId, recorded.latest?_eq]
  · simp [History.latest?]
  · exact serve_of_error failed

namespace Trial

def request (name : String) : ImportRequest :=
  ⟨.text name, "b", "us-south", "o", "tier1", ImportRequest.publicAccess⟩

/-- Two jobs are created. The second one completes and is deleted, a third one is refused, and the first one fails. -/
def eventful : List Action :=
  [.call (.createJob (request "a")), .call (.createJob (request "b")), .startJob "job-1", .completeJob "job-2",
    .call (.deleteJob "job-2"), .injectFailure .createJob "no room", .call (.createJob (request "c")), .clearFailures,
    .failJob "job-1" "broken off"]

end Trial

theorem jobs_faithful_of_eventful :
    ((empty "instance-1").history Trial.eventful).created = ["job-1", "job-2"] ∧
      ((empty "instance-1").history Trial.eventful).generated = ["image-3"] ∧
      (latestJob "instance-1" ((empty "instance-1").after Trial.eventful)).result =
        .ok (some ⟨"job-1", .failed, some "broken off"⟩) ∧
      (latestJob "instance-2" ((empty "instance-1").after Trial.eventful)).result = .ok none ∧
      ((empty "instance-1").after Trial.eventful).requests = [Trial.request "a", Trial.request "b"] ∧
      (Action.serve (.deleteJob "job-2") ((empty "instance-1").after Trial.eventful)).state =
        ((empty "instance-1").after Trial.eventful).written (.deleteJob "job-2") := by
  obtain ⟨-, -, latest, -, requests, failing⟩ := jobs_faithful "instance-1" Trial.eventful
  have gone : (Action.serve (.deleteJob "job-2") ((empty "instance-1").after Trial.eventful)).result =
      .error (.callTarget "delete_job" (some "job job-2 not found")) := rfl
  exact ⟨rfl, rfl, latest "instance-1", latest "instance-2", requests, failing _ _ gone⟩

end ImageOperator.Workspace
