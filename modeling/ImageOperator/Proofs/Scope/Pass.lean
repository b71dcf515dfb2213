import ImageOperator.Proofs.Image
import ImageOperator.Proofs.Scope.Ensure

set_option autoImplicit false

namespace ImageOperator

namespace Bench

theorem bare_addFinalizer (name : Value) (bench : Bench) :
    (addFinalizer name).bare bench = ⟨.ok (), ⟨bench.image.addFinalizer name, bench.workspace⟩, []⟩ := by
  unfold addFinalizer
  rw [Attempt.bare_bind, bare_current, current_then, ← Image.withFinalizer_image]
  simp only [Attempt.bare_bind, Attempt.bare_note _ (Image.withFinalizer_told _ _), pure_bind, bare_change]
  rfl

theorem bare_removeFinalizer (name : Value) (bench : Bench) :
    (removeFinalizer name).bare bench = ⟨.ok (), ⟨bench.image.removeFinalizer name, bench.workspace⟩, []⟩ := by
  unfold removeFinalizer
  rw [Attempt.bare_bind, bare_current, current_then, ← Image.withoutFinalizer_image]
  simp only [Attempt.bare_bind, Attempt.bare_note _ (Image.withoutFinalizer_told _ _), pure_bind, bare_change]
  rfl

/-- How a delete ends for the one who asked: a missing target is as good as a deleted one. -/
def settled : Except Fault Unit → Except Fault Unit
  | .ok () => .ok ()
  | .error fault => if fault.category = .cloudAbsent then .ok () else .error fault

theorem bare_deleteTarget (voice : Voice) (attempt : Attempt Workspace Unit)
    (gone failedReason failedText doneReason doneText : String) (bench : Bench) :
    (deleteTarget voice attempt gone failedReason failedText doneReason doneText).bare bench =
      ⟨settled (attempt.bare bench.workspace).result, ⟨bench.image, (attempt.bare bench.workspace).state⟩,
        (attempt.bare bench.workspace).notes⟩ := by
  unfold deleteTarget
  rw [Attempt.bare_bind, Attempt.bare_tried, bare_call]
  rcases ran : attempt.bare bench.workspace with ⟨fault | value, after, notes⟩
  · have tried : (call attempt.bare).tried bench = ⟨.ok (.error fault), ⟨bench.image, after⟩, notes⟩ := by
      simp [Attempt.tried, call_of ran]
    rw [Attempt.bind_of_ok tried]
    by_cases absent : fault.category = .cloudAbsent
    · simp only [absent, ↓reduceIte, Attempt.bare_bind, bare_say, bare_tell, pure_bind, settled]
      simp [Attempt.pure_apply]
    · cases cloud : fault.isCloud <;>
        simp [absent, cloud, settled, Attempt.fail]
  · have tried : (call attempt.bare).tried bench = ⟨.ok (.ok value), ⟨bench.image, after⟩, notes⟩ := by
      simp [Attempt.tried, call_of ran]
    rw [Attempt.bind_of_ok tried]
    simp [Attempt.pure_apply, settled]

theorem deleteImage_of (voice : Voice) {bench : Bench} {result : Except Fault Unit} {after : Workspace}
    {notes : List Note}
    (called : (Workspace.deleteImage bench.image.status.imageId).bare bench.workspace = ⟨result, after, notes⟩) :
    (deleteImage voice).bare bench = ⟨settled result, ⟨bench.image, after⟩, notes⟩ := by
  unfold deleteImage
  rw [Attempt.bare_bind, bare_current, current_then, bare_deleteTarget, called]

theorem deleteJob_of (voice : Voice) {bench : Bench} {result : Except Fault Unit} {after : Workspace}
    {notes : List Note}
    (called : (Workspace.deleteJob bench.image.status.jobId).bare bench.workspace = ⟨result, after, notes⟩) :
    (deleteJob voice).bare bench = ⟨settled result, ⟨bench.image, after⟩, notes⟩ := by
  unfold deleteJob
  rw [Attempt.bare_bind, bare_current, current_then, bare_deleteTarget, called]

end Bench

namespace Image.Status

/-- The status once its job was seen to have failed. -/
def failed (status : Status) : Status :=
  { status with ready := false, phase := .failed }

/-- The status once an image was found. -/
def available (status : Status) (imageId : String) : Status :=
  { status with ready := true, imageId, phase := .available }

/-- The status while a job is on its way. -/
def importing (_ : Status) (jobId : String) : Status :=
  ⟨false, "", .importing, jobId⟩

/-- The status once its image was deleted. -/
def withoutImage (status : Status) : Status :=
  { status with ready := false, imageId := "" }

/-- The status once its job was deleted. -/
def withoutJob (status : Status) : Status :=
  { status with jobId := "" }

/-- The job to track when the given one is running: the status keeps to its own while it says that this one runs. -/
def tracked (status : Status) (job : Job) : String :=
  if status.jobId = "" || status.phase ≠ .importing then job.jobId else status.jobId

theorem tracked_ne {status : Status} {job : Job} (named : job.jobId ≠ "") : status.tracked job ≠ "" := by
  unfold tracked
  split
  · exact named
  · rename_i own
    intro blank
    simp [blank] at own

end Image.Status

namespace Pass

open Bench (Ensures settled)

@[simp] theorem bare_say (level : Level) (message : String) : (say level message).bare = pure () :=
  Attempt.bare_log _ _ _

/-- Whether the status says that its job is on its way. -/
def tracks (image : Image) : Bool :=
  image.status.jobId ≠ "" && image.status.phase = .importing

/-- The ways of looking whether the tracked job has failed. -/
inductive Looks (bench : Bench) : Outcome Bench (Option Job) → Prop
  | untracked (idle : tracks bench.image = false) : Looks bench ⟨.ok none, bench, []⟩
  | unasked {fault : Fault} (failed : bench.workspace.fault? .latestJob = some fault) :
      Looks bench ⟨.error fault,
        ⟨bench.image, bench.workspace.written (.latestJob bench.image.spec.workspace)⟩,
        [.called bench.workspace (.latestJob bench.image.spec.workspace)]⟩
  | unfailed (tracked : tracks bench.image = true)
      (other : ∀ job, bench.latest? = some job → job.jobId = bench.image.status.jobId → job.state ≠ .failed) :
      Looks bench ⟨.ok none,
        ⟨bench.image, bench.workspace.written (.latestJob bench.image.spec.workspace)⟩,
        [.called bench.workspace (.latestJob bench.image.spec.workspace)]⟩
  | failed {job : Job} (tracked : tracks bench.image = true) (latest : bench.latest? = some job)
      (own : job.jobId = bench.image.status.jobId) (state : job.state = .failed) :
      Looks bench ⟨.ok (some job),
        ⟨bench.image, bench.workspace.written (.latestJob bench.image.spec.workspace)⟩,
        [.called bench.workspace (.latestJob bench.image.spec.workspace)]⟩

theorem failedJob_looks (voice : Voice) (bench : Bench) : Looks bench ((failedJob voice).bare bench) := by
  unfold failedJob
  rw [Attempt.bare_bind, Bench.bare_current, Bench.current_then]
  change Looks bench (Attempt.bare (if tracks bench.image = true then _ else _) bench)
  cases tracked : tracks bench.image with
  | false =>
    simp only [Bool.false_eq_true, ↓reduceIte]
    exact .untracked tracked
  | true =>
    simp only [↓reduceIte, Attempt.bare_bind]
    cases asking : bench.workspace.fault? .latestJob with
    | some fault =>
      rw [Attempt.bind_of_error (Bench.latestJob_of_fault asking)]
      exact .unasked asking
    | none =>
      rw [Attempt.bind_of_ok (Bench.latestJob_of_calm asking)]
      cases latest : bench.latest? with
      | none => exact .unfailed tracked (by simp [latest])
      | some job =>
        by_cases own : job.jobId = bench.image.status.jobId
        · by_cases state : job.state = .failed
          · simp only [own, state, decide_true, Bool.and_self, ↓reduceIte]
            exact .failed tracked latest own state
          · simp only [own, state, decide_true, decide_false, Bool.and_false, Bool.false_eq_true, ↓reduceIte]
            exact .unfailed tracked (by simp [latest, state])
        · simp only [own, decide_false, Bool.false_and, Bool.false_eq_true, ↓reduceIte]
          exact .unfailed tracked (by simp [latest, own])

theorem Looks.image {bench : Bench} {outcome : Outcome Bench (Option Job)} (looked : Looks bench outcome) :
    outcome.state.image = bench.image := by
  cases looked <;> rfl

/-- The ways of a pass over an image that is to be kept. -/
inductive Normal (config : Config) (bench : Bench) : Outcome Bench Requeue → Prop
  | unasked {fault : Fault} {after : Workspace} {notes : List Note}
      (looked : Looks ⟨bench.image.guarded, bench.workspace⟩
        ⟨.error fault, ⟨bench.image.guarded, after⟩, notes⟩) :
      Normal config bench ⟨.error fault, ⟨bench.image.guarded, after⟩, notes⟩
  | failed {job : Job} {after : Workspace} {notes : List Note}
      (looked : Looks ⟨bench.image.guarded, bench.workspace⟩
        ⟨.ok (some job), ⟨bench.image.guarded, after⟩, notes⟩) :
      Normal config bench
        ⟨.ok (some config.retryInterval), ⟨bench.image.guarded.withStatus (·.failed), after⟩, notes⟩
  | unsettled {fault : Fault} {middle after : Workspace} {first second : List Note}
      (looked : Looks ⟨bench.image.guarded, bench.workspace⟩
        ⟨.ok none, ⟨bench.image.guarded, middle⟩, first⟩)
      (ensured : Ensures ⟨bench.image.guarded, middle⟩ ⟨.error fault, ⟨bench.image.guarded, after⟩, second⟩) :
      Normal config bench ⟨.error fault, ⟨bench.image.guarded, after⟩, first ++ second⟩
  | found {image : CloudImage} {middle after : Workspace} {first second : List Note}
      (looked : Looks ⟨bench.image.guarded, bench.workspace⟩
        ⟨.ok none, ⟨bench.image.guarded, middle⟩, first⟩)
      (ensured : Ensures ⟨bench.image.guarded, middle⟩
        ⟨.ok (.found image), ⟨bench.image.guarded, after⟩, second⟩) :
      Normal config bench
        ⟨.ok none, ⟨bench.image.guarded.withStatus (·.available image.imageId), after⟩, first ++ second⟩
  | created {jobId : String} {middle after : Workspace} {first second : List Note}
      (looked : Looks ⟨bench.image.guarded, bench.workspace⟩
        ⟨.ok none, ⟨bench.image.guarded, middle⟩, first⟩)
      (ensured : Ensures ⟨bench.image.guarded, middle⟩
        ⟨.ok (.created jobId), ⟨bench.image.guarded, after⟩, second⟩) :
      Normal config bench
        ⟨.ok (some config.pollInterval), ⟨bench.image.guarded.withStatus (·.importing jobId), after⟩,
          first ++ second⟩
  | pending {job : Job} {middle after : Workspace} {first second : List Note}
      (looked : Looks ⟨bench.image.guarded, bench.workspace⟩
        ⟨.ok none, ⟨bench.image.guarded, middle⟩, first⟩)
      (ensured : Ensures ⟨bench.image.guarded, middle⟩
        ⟨.ok (.pending job), ⟨bench.image.guarded, after⟩, second⟩) :
      Normal config bench
        ⟨.ok (some config.pollInterval),
          ⟨bench.image.guarded.withStatus fun status => status.importing (status.tracked job), after⟩,
          first ++ second⟩

theorem bare_markFailed (config : Config) (job : Job) (bench : Bench) :
    (markFailed config job).bare bench =
      ⟨.ok (some config.retryInterval), ⟨bench.image.withStatus (·.failed), bench.workspace⟩, []⟩ := by
  unfold markFailed
  rw [Attempt.bare_bind, Bench.bare_current, Bench.current_then, Attempt.bare_bind, bare_say, pure_bind]
  rfl

theorem bare_markFound (found : CloudImage) (bench : Bench) :
    (markFound found).bare bench =
      ⟨.ok none, ⟨bench.image.withStatus (·.available found.imageId), bench.workspace⟩, []⟩ := rfl

theorem bare_dropImageId (bench : Bench) :
    dropImageId.bare bench =
      ⟨.ok (), ⟨bench.image.withStatus fun status => { status with imageId := "" }, bench.workspace⟩, []⟩ := by
  unfold dropImageId
  rw [Attempt.bare_bind, Bench.bare_current, Bench.current_then]
  by_cases named : bench.image.status.imageId ≠ ""
  · simp only [named, ne_eq, not_false_eq_true, ↓reduceIte, Attempt.bare_bind, bare_say, pure_bind]
    rfl
  · have blank : bench.image.withStatus (fun status => { status with imageId := "" }) = bench.image := by
      simp only [Image.withStatus, ← Decidable.not_not.mp named]
    simp only [named, ↓reduceIte, blank]
    rfl

theorem bare_trackPending (job : Job) (bench : Bench) :
    (trackPending job).bare bench =
      ⟨.ok (), ⟨bench.image.withStatus fun status => { status with jobId := status.tracked job },
        bench.workspace⟩, []⟩ := by
  unfold trackPending
  rw [Attempt.bare_bind, Bench.bare_current, Bench.current_then, Attempt.bare_bind, bare_say, pure_bind]
  cases adopts : (bench.image.status.jobId = "" || bench.image.status.phase ≠ .importing : Bool) with
  | true =>
    simp only [↓reduceIte, Image.withStatus, Image.Status.tracked, adopts]
    rfl
  | false =>
    simp only [Bool.false_eq_true, ↓reduceIte, Image.withStatus, Image.Status.tracked, adopts]
    rfl

/-- The status while a given job is on its way, set in steps. -/
theorem bare_created (config : Config) (jobId : String) (bench : Bench) :
    (dropImageId >>= fun _ => Bench.setJobId jobId >>= fun _ => markImporting config).bare bench =
      ⟨.ok (some config.pollInterval), ⟨bench.image.withStatus (·.importing jobId), bench.workspace⟩, []⟩ := by
  rw [Attempt.bare_bind, Attempt.bind_of_ok (bare_dropImageId bench)]
  rfl

theorem bare_pending (config : Config) (job : Job) (bench : Bench) :
    (dropImageId >>= fun _ => trackPending job >>= fun _ => markImporting config).bare bench =
      ⟨.ok (some config.pollInterval),
        ⟨bench.image.withStatus fun status => status.importing (status.tracked job), bench.workspace⟩, []⟩ := by
  rw [Attempt.bare_bind, Attempt.bind_of_ok (bare_dropImageId bench), Attempt.bare_bind,
    Attempt.bind_of_ok (bare_trackPending job _)]
  rfl

theorem normal_normal (config : Config) (voice : Voice) (bench : Bench) :
    Normal config bench ((normal config voice).bare bench) := by
  unfold normal
  rw [Attempt.bare_bind, Attempt.bind_of_ok (Bench.bare_addFinalizer _ bench), ← Image.guarded,
    List.nil_append, Attempt.bare_bind]
  have looked := failedJob_looks voice ⟨bench.image.guarded, bench.workspace⟩
  rcases looking : (failedJob voice).bare ⟨bench.image.guarded, bench.workspace⟩ with
    ⟨fault | job, ⟨image, middle⟩, first⟩
  · rw [looking] at looked
    obtain rfl : image = bench.image.guarded := looked.image
    rw [Attempt.bind_of_error looking]
    exact .unasked looked
  · rw [looking] at looked
    obtain rfl : image = bench.image.guarded := looked.image
    rw [Attempt.bind_of_ok looking]
    cases job with
    | some job =>
      simp only [bare_markFailed, List.append_nil]
      exact .failed looked
    | none =>
      simp only [Attempt.bare_bind]
      have ensured := Bench.ensureImage_ensures voice ⟨bench.image.guarded, middle⟩
      rcases ensuring : (Bench.ensureImage voice).bare ⟨bench.image.guarded, middle⟩ with
        ⟨fault | (found | job | jobId), ⟨image, after⟩, second⟩
      all_goals
        rw [ensuring] at ensured
        obtain rfl : image = bench.image.guarded := ensured.image
      · rw [Attempt.bind_of_error ensuring]
        exact .unsettled looked ensured
      · rw [Attempt.bind_of_ok ensuring]
        simp only [bare_markFound, List.append_nil]
        exact .found looked ensured
      · rw [Attempt.bind_of_ok ensuring]
        simp only [bare_pending, List.append_nil]
        exact .pending looked ensured
      · rw [Attempt.bind_of_ok ensuring]
        simp only [bare_created, List.append_nil]
        exact .created looked ensured

/-- The ways of deleting the image that the status names. -/
inductive ClearsImage (bench : Bench) : Outcome Bench Unit → Prop
  | blank (unnamed : bench.image.status.imageId = "") : ClearsImage bench ⟨.ok (), bench, []⟩
  | refused {fault : Fault} {after : Workspace} {notes : List Note} {result : Except Fault Unit}
      (named : bench.image.status.imageId ≠ "")
      (called : (Workspace.deleteImage bench.image.status.imageId).bare bench.workspace = ⟨result, after, notes⟩)
      (failed : settled result = .error fault) :
      ClearsImage bench ⟨.error fault, ⟨bench.image, after⟩, notes⟩
  | cleared {after : Workspace} {notes : List Note} {result : Except Fault Unit}
      (named : bench.image.status.imageId ≠ "")
      (called : (Workspace.deleteImage bench.image.status.imageId).bare bench.workspace = ⟨result, after, notes⟩)
      (done : settled result = .ok ()) :
      ClearsImage bench
        ⟨.ok (), ⟨bench.image.withStatus (·.withoutImage), after⟩, notes⟩

theorem clearImage_clears (voice : Voice) (bench : Bench) :
    ClearsImage bench ((clearImage voice).bare bench) := by
  unfold clearImage
  rw [Attempt.bare_bind, Bench.bare_current, Bench.current_then]
  by_cases named : bench.image.status.imageId ≠ ""
  · simp only [named, ne_eq, not_false_eq_true, ↓reduceIte, Attempt.bare_bind]
    rcases called : (Workspace.deleteImage bench.image.status.imageId).bare bench.workspace with
      ⟨result, after, notes⟩
    have deleting := Bench.deleteImage_of voice called
    cases done : settled result with
    | error fault =>
      rw [done] at deleting
      rw [Attempt.bind_of_error deleting]
      exact .refused named called done
    | ok =>
      rw [done] at deleting
      rw [Attempt.bind_of_ok deleting]
      change ClearsImage bench ⟨.ok (), ⟨bench.image.withStatus (·.withoutImage), after⟩, notes ++ []⟩
      rw [List.append_nil]
      exact .cleared named called done
  · simp only [named, ↓reduceIte]
    exact .blank (Decidable.not_not.mp named)

/-- The ways of deleting the job that the status names. -/
inductive ClearsJob (bench : Bench) : Outcome Bench Unit → Prop
  | blank (unnamed : bench.image.status.jobId = "") : ClearsJob bench ⟨.ok (), bench, []⟩
  | refused {fault : Fault} {after : Workspace} {notes : List Note} {result : Except Fault Unit}
      (named : bench.image.status.jobId ≠ "")
      (called : (Workspace.deleteJob bench.image.status.jobId).bare bench.workspace = ⟨result, after, notes⟩)
      (failed : settled result = .error fault) :
      ClearsJob bench ⟨.error fault, ⟨bench.image, after⟩, notes⟩
  | cleared {after : Workspace} {notes : List Note} {result : Except Fault Unit}
      (named : bench.image.status.jobId ≠ "")
      (called : (Workspace.deleteJob bench.image.status.jobId).bare bench.workspace = ⟨result, after, notes⟩)
      (done : settled result = .ok ()) :
      ClearsJob bench
        ⟨.ok (), ⟨bench.image.withStatus (·.withoutJob), after⟩, notes⟩

theorem clearJob_clears (voice : Voice) (bench : Bench) : ClearsJob bench ((clearJob voice).bare bench) := by
  unfold clearJob
  rw [Attempt.bare_bind, Bench.bare_current, Bench.current_then]
  by_cases named : bench.image.status.jobId ≠ ""
  · simp only [named, ne_eq, not_false_eq_true, ↓reduceIte, Attempt.bare_bind]
    rcases called : (Workspace.deleteJob bench.image.status.jobId).bare bench.workspace with
      ⟨result, after, notes⟩
    have deleting := Bench.deleteJob_of voice called
    cases done : settled result with
    | error fault =>
      rw [done] at deleting
      rw [Attempt.bind_of_error deleting]
      exact .refused named called done
    | ok =>
      rw [done] at deleting
      rw [Attempt.bind_of_ok deleting]
      change ClearsJob bench ⟨.ok (), ⟨bench.image.withStatus (·.withoutJob), after⟩, notes ++ []⟩
      rw [List.append_nil]
      exact .cleared named called done
  · simp only [named, ↓reduceIte]
    exact .blank (Decidable.not_not.mp named)

/-- The ways of a pass over an image that is to be deleted. -/
inductive Deletes (bench : Bench) : Outcome Bench Requeue → Prop
  | imageRefused {fault : Fault} {after : Bench} {notes : List Note}
      (image : ClearsImage bench ⟨.error fault, after, notes⟩) : Deletes bench ⟨.error fault, after, notes⟩
  | jobRefused {fault : Fault} {middle after : Bench} {first second : List Note}
      (image : ClearsImage bench ⟨.ok (), middle, first⟩) (job : ClearsJob middle ⟨.error fault, after, second⟩) :
      Deletes bench ⟨.error fault, after, first ++ second⟩
  | cleared {middle after : Bench} {first second : List Note}
      (image : ClearsImage bench ⟨.ok (), middle, first⟩) (job : ClearsJob middle ⟨.ok (), after, second⟩) :
      Deletes bench ⟨.ok none, ⟨after.image.released, after.workspace⟩, first ++ second⟩

theorem delete_deletes (voice : Voice) (bench : Bench) : Deletes bench ((delete voice).bare bench) := by
  unfold delete
  rw [Attempt.bare_bind, Bench.bare_current, Bench.current_then, Attempt.bare_bind, bare_say, pure_bind,
    Attempt.bare_bind]
  have image := clearImage_clears voice bench
  rcases clearing : (clearImage voice).bare bench with ⟨fault | done, middle, first⟩
  · rw [clearing] at image
    rw [Attempt.bind_of_error clearing]
    exact .imageRefused image
  · rw [clearing] at image
    rw [Attempt.bind_of_ok clearing, Attempt.bare_bind]
    have job := clearJob_clears voice middle
    rcases then_clearing : (clearJob voice).bare middle with ⟨fault | done, after, second⟩
    · rw [then_clearing] at job
      rw [Attempt.bind_of_error then_clearing]
      exact .jobRefused image job
    · rw [then_clearing] at job
      rw [Attempt.bind_of_ok then_clearing, Attempt.bare_bind,
        Attempt.bind_of_ok (Bench.bare_removeFinalizer _ after), ← Image.released]
      change Deletes bench ⟨.ok none, ⟨after.image.released, after.workspace⟩, first ++ (second ++ [])⟩
      rw [List.append_nil]
      exact .cleared image job

theorem body_of_kept {config : Config} {voice : Voice} {bench : Bench}
    (kept : bench.image.deletionRequested = false) : Normal config bench ((body config voice).bare bench) := by
  unfold body
  rw [Attempt.bare_bind, Bench.bare_current, Bench.current_then, kept]
  exact normal_normal config voice bench

theorem body_of_requested {config : Config} {voice : Voice} {bench : Bench}
    (requested : bench.image.deletionRequested = true) : Deletes bench ((body config voice).bare bench) := by
  unfold body
  rw [Attempt.bare_bind, Bench.bare_current, Bench.current_then, requested]
  exact delete_deletes voice bench

/-- The ways of a pass. -/
inductive Works (config : Config) (bench : Bench) : Outcome Bench Requeue → Prop
  | kept {outcome : Outcome Bench Requeue} (kept : bench.image.deletionRequested = false)
      (normal : Normal config bench outcome) : Works config bench outcome
  | requested {outcome : Outcome Bench Requeue} (requested : bench.image.deletionRequested = true)
      (deletes : Deletes bench outcome) : Works config bench outcome

theorem Works.normal {config : Config} {bench : Bench} {outcome : Outcome Bench Requeue}
    (works : Works config bench outcome) (kept : bench.image.deletionRequested = false) :
    Normal config bench outcome := by
  cases works with
  | kept kept normal => exact normal
  | requested requested deletes =>
    rw [kept] at requested
    cases requested

theorem Works.deletes {config : Config} {bench : Bench} {outcome : Outcome Bench Requeue}
    (works : Works config bench outcome) (requested : bench.image.deletionRequested = true) :
    Deletes bench outcome := by
  cases works with
  | kept kept normal =>
    rw [requested] at kept
    cases kept
  | requested requested deletes => exact deletes

theorem body_works (config : Config) (voice : Voice) (bench : Bench) :
    Works config bench ((body config voice).bare bench) := by
  cases requested : bench.image.deletionRequested with
  | true => exact .requested requested (body_of_requested requested)
  | false => exact .kept requested (body_of_kept requested)

end Pass

/-- The images are of one object, and the same is wanted of it. -/
structure Image.Akin (before after : Image) : Prop where
  id : after.id = before.id
  spec : after.spec = before.spec
  deletionRequested : after.deletionRequested = before.deletionRequested

namespace Pass

open Image (Akin)

theorem ClearsImage.akin {bench : Bench} {outcome : Outcome Bench Unit} (clears : ClearsImage bench outcome) :
    Akin bench.image outcome.state.image := by
  cases clears <;> exact ⟨rfl, rfl, rfl⟩

theorem ClearsJob.akin {bench : Bench} {outcome : Outcome Bench Unit} (clears : ClearsJob bench outcome) :
    Akin bench.image outcome.state.image := by
  cases clears <;> exact ⟨rfl, rfl, rfl⟩

theorem Deletes.akin {bench : Bench} {outcome : Outcome Bench Requeue} (deletes : Deletes bench outcome) :
    Akin bench.image outcome.state.image := by
  cases deletes with
  | imageRefused image => exact image.akin
  | jobRefused image job | cleared image job =>
    exact ⟨job.akin.id.trans image.akin.id, job.akin.spec.trans image.akin.spec,
      job.akin.deletionRequested.trans image.akin.deletionRequested⟩

theorem Normal.akin {config : Config} {bench : Bench} {outcome : Outcome Bench Requeue}
    (normal : Normal config bench outcome) : Akin bench.image outcome.state.image := by
  cases normal <;>
    exact ⟨bench.image.guarded_id, bench.image.guarded_spec, bench.image.guarded_deletionRequested⟩

theorem Normal.isGuarded {config : Config} {bench : Bench} {outcome : Outcome Bench Requeue}
    (normal : Normal config bench outcome) : outcome.state.image.isGuarded = true := by
  cases normal <;> exact bench.image.guarded_isGuarded

theorem Works.akin {config : Config} {bench : Bench} {outcome : Outcome Bench Requeue}
    (works : Works config bench outcome) : Akin bench.image outcome.state.image := by
  cases works with
  | kept kept normal => exact normal.akin
  | requested requested deletes => exact deletes.akin

end Pass

/-- The images are of one object, and deletion was asked for at the same time. -/
structure Image.Twin (before after : Image) : Prop where
  id : after.id = before.id
  deletion : after.deletion = before.deletion

namespace Pass

open Image (Twin)

theorem ClearsImage.twin {bench : Bench} {outcome : Outcome Bench Unit} (clears : ClearsImage bench outcome) :
    Twin bench.image outcome.state.image := by
  cases clears <;> exact ⟨rfl, rfl⟩

theorem ClearsJob.twin {bench : Bench} {outcome : Outcome Bench Unit} (clears : ClearsJob bench outcome) :
    Twin bench.image outcome.state.image := by
  cases clears <;> exact ⟨rfl, rfl⟩

/-- No pass touches the mark of an image that is to be deleted. -/
theorem Works.twin {config : Config} {bench : Bench} {outcome : Outcome Bench Requeue}
    (works : Works config bench outcome) : Twin bench.image outcome.state.image := by
  cases works with
  | kept kept normal => cases normal <;> exact ⟨bench.image.guarded_id, bench.image.guarded_deletion⟩
  | requested requested deletes =>
    cases deletes with
    | imageRefused image => exact image.twin
    | jobRefused image job | cleared image job =>
      exact ⟨job.twin.id.trans image.twin.id, job.twin.deletion.trans image.twin.deletion⟩

theorem ClearsImage.kin {bench : Bench} {outcome : Outcome Bench Unit} (clears : ClearsImage bench outcome) :
    Image.Kin bench.image outcome.state.image := by
  cases clears <;> exact ⟨rfl, rfl, rfl, rfl⟩

theorem ClearsJob.kin {bench : Bench} {outcome : Outcome Bench Unit} (clears : ClearsJob bench outcome) :
    Image.Kin bench.image outcome.state.image := by
  cases clears <;> exact ⟨rfl, rfl, rfl, rfl⟩

theorem Works.kin {config : Config} {bench : Bench} {outcome : Outcome Bench Requeue}
    (works : Works config bench outcome) : Image.Kin bench.image outcome.state.image := by
  cases works with
  | kept kept normal =>
    have guarded := bench.image.kin_guarded
    cases normal with
    | unasked looked | unsettled looked ensured => exact guarded
    | failed looked | found looked ensured | created looked ensured | pending looked ensured =>
      exact guarded.trans ⟨rfl, rfl, rfl, rfl⟩
  | requested requested deletes =>
    cases deletes with
    | imageRefused image => exact image.kin
    | jobRefused image job => exact image.kin.trans job.kin
    | cleared image job => exact (image.kin.trans job.kin).trans (Image.kin_released _)

end Pass

end ImageOperator
