import ImageOperator.Proofs.Cloud.Calls
import ImageOperator.Proofs.Journal.Recorder
import ImageOperator.Scope.Bench

set_option autoImplicit false

namespace ImageOperator

namespace Bench

open Attempt

variable {α : Type}

@[simp] theorem bare_call (attempt : Attempt Workspace α) : (call attempt).bare = call attempt.bare := rfl

theorem call_apply (attempt : Attempt Workspace α) (bench : Bench) :
    call attempt bench =
      ⟨(attempt bench.workspace).result, ⟨bench.image, (attempt bench.workspace).state⟩,
        (attempt bench.workspace).notes⟩ := rfl

theorem call_of {attempt : Attempt Workspace α} {bench : Bench} {result : Except Fault α} {after : Workspace}
    {notes : List Note} (ran : attempt bench.workspace = ⟨result, after, notes⟩) :
    call attempt bench = ⟨result, ⟨bench.image, after⟩, notes⟩ := by
  rw [call_apply, ran]

@[simp] theorem current_then (next : Image → Attempt Bench α) (bench : Bench) :
    (current >>= next) bench = next bench.image bench := rfl

@[simp] theorem bare_current : current.bare = current := rfl

@[simp] theorem bare_change (edit : Image → Image) : (change edit).bare = change edit := rfl

@[simp] theorem change_then (edit : Image → Image) (next : Unit → Attempt Bench α) (bench : Bench) :
    (change edit >>= next) bench = next () ⟨edit bench.image, bench.workspace⟩ := rfl

@[simp] theorem bare_say (voice : Voice) (level : Level) (message : String) :
    (say voice level message).bare = pure () :=
  bare_log _ _ _

@[simp] theorem bare_tell (voice : Voice) (severity : Severity) (reason message : String) :
    (tell voice severity reason message).bare = pure () := by
  unfold tell
  funext bench
  rw [bare_bind, bare_read, read_then, bare_note _ (Recorder.filter_isDeed_notes _ _ _)]

/-- Telling about a fault changes neither what an attempt does nor how it ends. -/
@[simp] theorem bare_warned (voice : Voice) (reason : String) (wording : Fault → String)
    (attempt : Attempt Bench α) : (warned voice reason wording attempt).bare = attempt.bare := by
  funext bench
  unfold warned
  rw [bare_bind, bare_tried]
  rcases ran : attempt.bare bench with ⟨fault | value, after, notes⟩
  · have tried : attempt.bare.tried bench = ⟨.ok (.error fault), after, notes⟩ := by simp [Attempt.tried, ran]
    rw [bind_of_ok tried]
    cases cloud : fault.isCloud <;> simp [cloud, Attempt.fail]
  · have tried : attempt.bare.tried bench = ⟨.ok (.ok value), after, notes⟩ := by simp [Attempt.tried, ran]
    rw [bind_of_ok tried]
    simp [pure_apply]

theorem bare_latestJob (voice : Voice) (bench : Bench) :
    (latestJob voice).bare bench = call (Workspace.latestJob bench.image.spec.workspace).bare bench := by
  unfold latestJob
  rw [Attempt.bare_bind, bare_current, current_then, bare_warned, bare_call]

theorem bare_createJob (voice : Voice) (bench : Bench) :
    (createJob voice).bare bench =
      (call (Workspace.createJob (importRequest bench.image)).bare >>= fun jobId => pure (.created jobId)) bench := by
  unfold createJob
  rw [Attempt.bare_bind, bare_current, current_then, Attempt.bare_bind, Attempt.bare_tried, bare_call]
  generalize (Workspace.createJob (importRequest bench.image)).bare = asked
  rcases ran : call asked bench with ⟨fault | jobId, after, notes⟩
  · have tried : (call asked).tried bench = ⟨.ok (.error fault), after, notes⟩ := by simp [Attempt.tried, ran]
    rw [Attempt.bind_of_ok tried, Attempt.bind_of_error ran]
    cases cloud : fault.isCloud <;> simp [cloud, Attempt.fail]
  · have tried : (call asked).tried bench = ⟨.ok (.ok jobId), after, notes⟩ := by simp [Attempt.tried, ran]
    rw [Attempt.bind_of_ok tried, Attempt.bind_of_ok ran]
    simp only [Attempt.bare_bind, bare_say, bare_tell, pure_bind, Attempt.bare_pure]

theorem createJob_of_fault {voice : Voice} {bench : Bench} {fault : Fault}
    (failed : bench.workspace.fault? .createJob = some fault) :
    (createJob voice).bare bench =
      ⟨.error fault, ⟨bench.image, bench.workspace.written (.createJob (importRequest bench.image))⟩,
        [.called bench.workspace (.createJob (importRequest bench.image))]⟩ := by
  rw [bare_createJob, Attempt.bind_of_error (call_of (Workspace.createJob_of_fault failed))]

theorem createJob_of_calm {voice : Voice} {bench : Bench} (calm : bench.workspace.fault? .createJob = none) :
    (createJob voice).bare bench =
      ⟨.ok (.created (Workspace.jobIdOf (bench.workspace.serial + 1))),
        ⟨bench.image, (bench.workspace.written (.createJob (importRequest bench.image))).withJob
          (importRequest bench.image)⟩,
        [.called bench.workspace (.createJob (importRequest bench.image))]⟩ := by
  rw [bare_createJob, Attempt.bind_of_ok (call_of (Workspace.createJob_of_calm calm))]
  rfl

/-- The image that counts as the bench's own: the first listed one of its name. -/
def match? (bench : Bench) : Option CloudImage :=
  bench.workspace.images.find? (·.name.same bench.image.name)

theorem bare_findImage (voice : Voice) (name : Value) :
    (findImage voice name).bare =
      call Workspace.listImages.bare >>= fun images => pure (images.find? (·.name.same name)) := by
  unfold findImage
  rw [Attempt.bare_bind, bare_call]
  congr 1
  funext images
  rw [← List.head?_filter]
  cases matching : images.filter (·.name.same name) with
  | nil => rfl
  | cons image others =>
    cases alone : others.isEmpty with
    | true => simp only [alone, Bool.not_true, Bool.false_eq_true, ↓reduceIte]; rfl
    | false =>
      simp only [alone, Bool.not_false, ↓reduceIte, Attempt.bare_bind, bare_say, pure_bind, Attempt.bare_pure]
      rfl

/-- What a client is told about the latest job when it asks for the image's workspace. -/
def latest? (bench : Bench) : Option Job :=
  if bench.image.spec.workspace = bench.workspace.instanceId then bench.workspace.latest? else none

/-- The workspace once its images were listed. -/
def listed (bench : Bench) : Workspace :=
  bench.workspace.written .listImages

/-- The workspace once the latest job was asked for as well. -/
def asked (bench : Bench) : Workspace :=
  bench.listed.written (.latestJob bench.image.spec.workspace)

/-- The workspace once a job was requested as well. -/
def requested (bench : Bench) : Workspace :=
  bench.asked.written (.createJob (importRequest bench.image))

/-- Every way of making sure that an image exists: the image is never touched, and each call is made on what the one
before it left. -/
inductive Ensures (bench : Bench) : Outcome Bench Ensured → Prop
  | unlisted {fault : Fault} (failed : bench.workspace.fault? .listImages = some fault) :
      Ensures bench ⟨.error fault, ⟨bench.image, bench.listed⟩, [.called bench.workspace .listImages]⟩
  | found {image : CloudImage} (calm : bench.workspace.fault? .listImages = none)
      (first : bench.match? = some image) :
      Ensures bench ⟨.ok (.found image), ⟨bench.image, bench.listed⟩, [.called bench.workspace .listImages]⟩
  | unasked {fault : Fault} (absent : bench.match? = none)
      (failed : bench.listed.fault? .latestJob = some fault) :
      Ensures bench ⟨.error fault, ⟨bench.image, bench.asked⟩,
        [.called bench.workspace .listImages, .called bench.listed (.latestJob bench.image.spec.workspace)]⟩
  | pending {job : Job} (absent : bench.match? = none) (latest : bench.latest? = some job)
      (running : job.state.isTerminal = false) :
      Ensures bench ⟨.ok (.pending job), ⟨bench.image, bench.asked⟩,
        [.called bench.workspace .listImages, .called bench.listed (.latestJob bench.image.spec.workspace)]⟩
  | unrequested {fault : Fault} (absent : bench.match? = none)
      (free : ∀ job, bench.latest? = some job → job.state.isTerminal = true)
      (failed : bench.asked.fault? .createJob = some fault) :
      Ensures bench ⟨.error fault, ⟨bench.image, bench.requested⟩,
        [.called bench.workspace .listImages, .called bench.listed (.latestJob bench.image.spec.workspace),
          .called bench.asked (.createJob (importRequest bench.image))]⟩
  | created (absent : bench.match? = none)
      (free : ∀ job, bench.latest? = some job → job.state.isTerminal = true)
      (calm : bench.asked.fault? .createJob = none) :
      Ensures bench ⟨.ok (.created (Workspace.jobIdOf (bench.workspace.serial + 1))),
        ⟨bench.image, bench.requested.withJob (importRequest bench.image)⟩,
        [.called bench.workspace .listImages, .called bench.listed (.latestJob bench.image.spec.workspace),
          .called bench.asked (.createJob (importRequest bench.image))]⟩

/-- What is done once it is known which job is the latest, as far as it is to be noted. -/
def proceed (voice : Voice) (latest : Option Job) : Attempt Bench Ensured :=
  match latest.filter (!·.state.isTerminal) with
  | some job => pure (.pending job)
  | none => (createJob voice).bare

section

variable {voice : Voice} {bench : Bench} {fault : Fault}

theorem proceed_of_running {job : Job} (running : job.state.isTerminal = false) :
    proceed voice (some job) = pure (.pending job) := by
  simp [proceed, Option.filter, running]

theorem proceed_of_free {latest : Option Job} (free : ∀ job, latest = some job → job.state.isTerminal = true) :
    proceed voice latest = (createJob voice).bare := by
  have none_running : latest.filter (!·.state.isTerminal) = none :=
    Option.filter_eq_none_iff.mpr fun job same => by simp [free job same]
  rw [proceed, none_running]

theorem bare_ensureImage (voice : Voice) (bench : Bench) :
    (ensureImage voice).bare bench =
      ((findImage voice bench.image.name).bare >>= fun listed =>
        match listed with
        | some found => pure (.found found)
        | none => (latestJob voice).bare >>= proceed voice) bench := by
  unfold ensureImage
  rw [Attempt.bare_bind, bare_current, current_then, Attempt.bare_bind, bare_warned]
  refine congrFun (congrArg _ (funext fun listed => ?_)) bench
  cases listed with
  | some found => simp only [Attempt.bare_bind, bare_say, bare_tell, pure_bind, Attempt.bare_pure]
  | none =>
    rw [Attempt.bare_bind]
    refine congrArg _ (funext fun latest => ?_)
    cases latest with
    | none => rfl
    | some job =>
      cases terminal : job.state.isTerminal with
      | true =>
        rw [proceed_of_free (by simp [terminal])]
        simp only [terminal, ↓reduceIte]
      | false =>
        rw [proceed_of_running terminal]
        simp only [terminal, Bool.false_eq_true, ↓reduceIte, Attempt.bare_bind, bare_say, pure_bind, Attempt.bare_pure]

theorem findImage_of_fault (failed : bench.workspace.fault? .listImages = some fault) (name : Value) :
    (findImage voice name).bare bench =
      ⟨.error fault, ⟨bench.image, bench.listed⟩, [.called bench.workspace .listImages]⟩ := by
  rw [bare_findImage, Attempt.bind_of_error (call_of (Workspace.listImages_of_fault failed))]
  rfl

theorem findImage_of_calm (calm : bench.workspace.fault? .listImages = none) :
    (findImage voice bench.image.name).bare bench =
      ⟨.ok bench.match?, ⟨bench.image, bench.listed⟩, [.called bench.workspace .listImages]⟩ := by
  rw [bare_findImage, Attempt.bind_of_ok (call_of (Workspace.listImages_of_calm calm))]
  rfl

theorem latestJob_of_fault (failed : bench.workspace.fault? .latestJob = some fault) :
    (latestJob voice).bare bench =
      ⟨.error fault, ⟨bench.image, bench.workspace.written (.latestJob bench.image.spec.workspace)⟩,
        [.called bench.workspace (.latestJob bench.image.spec.workspace)]⟩ :=
  (bare_latestJob voice _).trans (call_of (Workspace.latestJob_of_fault failed))

theorem latestJob_of_calm (calm : bench.workspace.fault? .latestJob = none) :
    (latestJob voice).bare bench =
      ⟨.ok bench.latest?, ⟨bench.image, bench.workspace.written (.latestJob bench.image.spec.workspace)⟩,
        [.called bench.workspace (.latestJob bench.image.spec.workspace)]⟩ :=
  (bare_latestJob voice _).trans (call_of (Workspace.latestJob_of_calm calm))

/-! What becomes of making sure that an image exists, by what is listed, by the latest job, and by the first call that
fails. -/

theorem ensureImage_of_unlisted (failed : bench.workspace.fault? .listImages = some fault) :
    (ensureImage voice).bare bench =
      ⟨.error fault, ⟨bench.image, bench.listed⟩, [.called bench.workspace .listImages]⟩ := by
  rw [bare_ensureImage, Attempt.bind_of_error (findImage_of_fault failed _)]

theorem ensureImage_of_found {image : CloudImage} (calm : bench.workspace.fault? .listImages = none)
    (first : bench.match? = some image) :
    (ensureImage voice).bare bench =
      ⟨.ok (.found image), ⟨bench.image, bench.listed⟩, [.called bench.workspace .listImages]⟩ := by
  rw [bare_ensureImage, Attempt.bind_of_ok (findImage_of_calm calm), first]
  rfl

theorem ensureImage_of_absent (calm : bench.workspace.fault? .listImages = none) (absent : bench.match? = none) :
    (ensureImage voice).bare bench =
      let rest := ((latestJob voice).bare >>= proceed voice) ⟨bench.image, bench.listed⟩
      ⟨rest.result, rest.state, .called bench.workspace .listImages :: rest.notes⟩ := by
  rw [bare_ensureImage, Attempt.bind_of_ok (findImage_of_calm calm), absent]
  rfl

theorem ensureImage_of_unasked (calm : bench.workspace.fault? .listImages = none) (absent : bench.match? = none)
    (failed : bench.listed.fault? .latestJob = some fault) :
    (ensureImage voice).bare bench =
      ⟨.error fault, ⟨bench.image, bench.asked⟩,
        [.called bench.workspace .listImages, .called bench.listed (.latestJob bench.image.spec.workspace)]⟩ := by
  have refused := @latestJob_of_fault voice ⟨bench.image, bench.listed⟩ fault failed
  rw [ensureImage_of_absent calm absent, Attempt.bind_of_error refused]
  rfl

theorem ensureImage_of_answered (calm : bench.workspace.fault? .listImages = none) (absent : bench.match? = none)
    (answered : bench.listed.fault? .latestJob = none) :
    (ensureImage voice).bare bench =
      let rest := proceed voice bench.latest? ⟨bench.image, bench.asked⟩
      ⟨rest.result, rest.state,
        .called bench.workspace .listImages :: .called bench.listed (.latestJob bench.image.spec.workspace) ::
          rest.notes⟩ := by
  have told := @latestJob_of_calm voice ⟨bench.image, bench.listed⟩ answered
  rw [ensureImage_of_absent calm absent, Attempt.bind_of_ok told]
  rfl

theorem ensureImage_of_pending {job : Job} (calm : bench.workspace.fault? .listImages = none)
    (absent : bench.match? = none) (answered : bench.listed.fault? .latestJob = none)
    (latest : bench.latest? = some job) (running : job.state.isTerminal = false) :
    (ensureImage voice).bare bench =
      ⟨.ok (.pending job), ⟨bench.image, bench.asked⟩,
        [.called bench.workspace .listImages, .called bench.listed (.latestJob bench.image.spec.workspace)]⟩ := by
  rw [ensureImage_of_answered calm absent answered, latest, proceed_of_running running]
  rfl

theorem ensureImage_of_unrequested (calm : bench.workspace.fault? .listImages = none) (absent : bench.match? = none)
    (answered : bench.listed.fault? .latestJob = none)
    (free : ∀ job, bench.latest? = some job → job.state.isTerminal = true)
    (failed : bench.asked.fault? .createJob = some fault) :
    (ensureImage voice).bare bench =
      ⟨.error fault, ⟨bench.image, bench.requested⟩,
        [.called bench.workspace .listImages, .called bench.listed (.latestJob bench.image.spec.workspace),
          .called bench.asked (.createJob (importRequest bench.image))]⟩ := by
  have refused := @createJob_of_fault voice ⟨bench.image, bench.asked⟩ fault failed
  rw [ensureImage_of_answered calm absent answered, proceed_of_free free, refused]
  rfl

theorem ensureImage_of_created (calm : bench.workspace.fault? .listImages = none) (absent : bench.match? = none)
    (answered : bench.listed.fault? .latestJob = none)
    (free : ∀ job, bench.latest? = some job → job.state.isTerminal = true)
    (granted : bench.asked.fault? .createJob = none) :
    (ensureImage voice).bare bench =
      ⟨.ok (.created (Workspace.jobIdOf (bench.workspace.serial + 1))),
        ⟨bench.image, bench.requested.withJob (importRequest bench.image)⟩,
        [.called bench.workspace .listImages, .called bench.listed (.latestJob bench.image.spec.workspace),
          .called bench.asked (.createJob (importRequest bench.image))]⟩ := by
  have created := @createJob_of_calm voice ⟨bench.image, bench.asked⟩ granted
  rw [ensureImage_of_answered calm absent answered, proceed_of_free free, created]
  rfl

end

theorem ensureImage_ensures (voice : Voice) (bench : Bench) : Ensures bench ((ensureImage voice).bare bench) := by
  cases listing : bench.workspace.fault? .listImages with
  | some fault => exact ensureImage_of_unlisted listing ▸ .unlisted listing
  | none =>
    cases first : bench.match? with
    | some image => exact ensureImage_of_found listing first ▸ .found listing first
    | none =>
      cases asking : bench.listed.fault? .latestJob with
      | some fault => exact ensureImage_of_unasked listing first asking ▸ .unasked first asking
      | none =>
        cases busy : bench.latest?.filter (!·.state.isTerminal) with
        | some job =>
          obtain ⟨latest, running⟩ := Option.filter_eq_some_iff.mp busy
          have running : job.state.isTerminal = false := by simpa using running
          exact ensureImage_of_pending listing first asking latest running ▸ .pending first latest running
        | none =>
          have free : ∀ job, bench.latest? = some job → job.state.isTerminal = true := by
            simpa using Option.filter_eq_none_iff.mp busy
          cases creating : bench.asked.fault? .createJob with
          | some fault =>
            exact ensureImage_of_unrequested listing first asking free creating ▸ .unrequested first free creating
          | none => exact ensureImage_of_created listing first asking free creating ▸ .created first free creating

theorem Ensures.image {bench : Bench} {outcome : Outcome Bench Ensured} (ensured : Ensures bench outcome) :
    outcome.state.image = bench.image := by
  cases ensured <;> rfl

end Bench

end ImageOperator
