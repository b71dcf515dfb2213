import ImageOperator.Proofs.Cloud.Reachable
import ImageOperator.Proofs.Scope.Sight

set_option autoImplicit false

namespace ImageOperator

def Call.asksForJob (call : Call) : Bool :=
  call.operation = .createJob

def Call.deletes (call : Call) : Bool :=
  call.operation = .deleteImage || call.operation = .deleteJob

namespace Workspace

/-- Between two states a client made calls of which none deletes anything and so many ask for a job. -/
def Asks (asked : Nat) (before after : Workspace) : Prop :=
  ∃ made, after.calls = before.calls ++ made ∧ made.countP Call.asksForJob = asked ∧ ∀ call ∈ made, call.deletes = false

theorem asks_nothing {before after : Workspace} (same : after.calls = before.calls) : Asks 0 before after :=
  ⟨[], by rw [same, List.append_nil], rfl, fun _ made => nomatch made⟩

theorem asks_written (workspace : Workspace) {call : Call} (harmless : call.deletes = false) :
    Asks (if call.asksForJob then 1 else 0) workspace (workspace.written call) := by
  refine ⟨[call], rfl, ?_, fun made member => List.mem_singleton.mp member ▸ harmless⟩
  rw [List.countP_cons, List.countP_nil, Nat.zero_add]

theorem Asks.trans {first second : Nat} {before middle after : Workspace} (asks : Asks first before middle)
    (more : Asks second middle after) : Asks (first + second) before after := by
  obtain ⟨made, calls, asked, harmless⟩ := asks
  obtain ⟨later, moreCalls, moreAsked, moreHarmless⟩ := more
  refine ⟨made ++ later, by rw [moreCalls, calls, List.append_assoc], by rw [List.countP_append, asked, moreAsked], ?_⟩
  intro call member
  rcases List.mem_append.mp member with early | late
  · exact harmless call early
  · exact moreHarmless call late

/-- From one state to the other a client took nothing away and asked for so many jobs, each of which came in. -/
structure Imports (asked : Nat) (before after : Workspace) : Prop where
  asks : Asks asked before after
  images : after.images = before.images
  jobs : ∃ new, after.jobs = before.jobs ++ new ∧ new.length = asked

theorem imports_of_alike {before after : Workspace} (alike : Alike before after) (asks : Asks 0 before after) :
    Imports 0 before after :=
  ⟨asks, alike.images, [], by rw [alike.jobs, List.append_nil], rfl⟩

theorem Imports.trans {first second : Nat} {before middle after : Workspace} (imports : Imports first before middle)
    (more : Imports second middle after) : Imports (first + second) before after := by
  obtain ⟨new, jobs, created⟩ := imports.jobs
  obtain ⟨later, moreJobs, moreCreated⟩ := more.jobs
  refine ⟨imports.asks.trans more.asks, more.images.trans imports.images, new ++ later, ?_, ?_⟩
  · rw [moreJobs, jobs, List.append_assoc]
  · rw [List.length_append, created, moreCreated]

theorem Alike.symm {before after : Workspace} (alike : Alike before after) : Alike after before :=
  ⟨alike.instanceId.symm, alike.images.symm, alike.jobs.symm, alike.serial.symm⟩

theorem Alike.trans {before middle after : Workspace} (first : Alike before middle) (second : Alike middle after) :
    Alike before after :=
  ⟨second.instanceId.trans first.instanceId, second.images.trans first.images, second.jobs.trans first.jobs,
    second.serial.trans first.serial⟩

theorem Alike.withJob {before after : Workspace} (alike : Alike before after) (request : ImportRequest) :
    Alike (before.withJob request) (after.withJob request) := by
  refine ⟨alike.instanceId, alike.images, ?_, ?_⟩
  · simp only [Workspace.withJob, alike.jobs, alike.serial]
  · simp only [Workspace.withJob, alike.serial]

theorem Alike.latest? {before after : Workspace} (alike : Alike before after) : after.latest? = before.latest? := by
  simp only [Workspace.latest?, alike.jobs]

theorem latest?_withJob (workspace : Workspace) (request : ImportRequest) :
    (workspace.withJob request).latest? = some ⟨jobIdOf (workspace.serial + 1), .queued, none⟩ := by
  simp [Workspace.latest?, Workspace.withJob]

end Workspace

namespace Image.Status

/-- Statuses that passes go on from: ready exactly if an image is named, and not while a job is on its way. -/
structure Sound (status : Status) : Prop where
  consistent : status.isConsistent = true
  waiting : status.phase = .importing → status.ready = false

theorem sound_available (status : Status) {imageId : String} (named : imageId ≠ "") :
    (status.available imageId).Sound :=
  ⟨by simp [isConsistent, available, named], nofun⟩

theorem sound_importing (status : Status) (jobId : String) : (status.importing jobId).Sound :=
  ⟨rfl, fun _ => rfl⟩

theorem Sound.failed {status : Status} (sound : status.Sound) (importing : status.phase = .importing) :
    status.failed.Sound := by
  have consistent := sound.consistent
  rw [isConsistent, sound.waiting importing] at consistent
  exact ⟨consistent, nofun⟩

end Image.Status

open Workspace (Alike Asks Imports Named)

namespace Bench

/-- Whether the job that the status says to be on its way is the latest one and has failed. -/
def seesFailure (bench : Bench) : Bool :=
  Pass.tracks bench.image &&
    bench.latest?.any fun job => job.jobId = bench.image.status.jobId && job.state = .failed

theorem latest?_eq_some {bench : Bench} {job : Job} :
    bench.latest? = some job ↔
      bench.image.spec.workspace = bench.workspace.instanceId ∧ bench.workspace.latest? = some job := by
  simp only [Bench.latest?, Option.ite_none_right_eq_some]

theorem match?_of_alike {before after : Bench} (name : after.image.name = before.image.name)
    (alike : Alike before.workspace after.workspace) : after.match? = before.match? := by
  simp only [match?, name, alike.images]

theorem latest?_of_alike {before after : Bench} (spec : after.image.spec = before.image.spec)
    (alike : Alike before.workspace after.workspace) : after.latest? = before.latest? := by
  simp only [Bench.latest?, spec, alike.instanceId, alike.latest?]

/-- The bench once a job was created for its image. -/
def imported (bench : Bench) : Bench :=
  ⟨bench.image, bench.workspace.withJob (importRequest bench.image)⟩

theorem imported_match? (bench : Bench) : bench.imported.match? = bench.match? := rfl

theorem latest?_of_imported {bench after : Bench} (own : bench.image.spec.workspace = bench.workspace.instanceId)
    (spec : after.image.spec = bench.image.spec) (alike : Alike bench.imported.workspace after.workspace) :
    after.latest? = some ⟨Workspace.jobIdOf (bench.workspace.serial + 1), .queued, none⟩ := by
  have told : after.image.spec.workspace = after.workspace.instanceId := by
    rw [spec, own]
    exact alike.instanceId.symm
  rw [latest?, if_pos told, alike.latest?]
  exact Workspace.latest?_withJob bench.workspace _

theorem seesFailure_iff {bench : Bench} :
    bench.seesFailure = true ↔ Pass.tracks bench.image = true ∧
      ∃ job, bench.latest? = some job ∧ job.jobId = bench.image.status.jobId ∧ job.state = .failed := by
  simp [seesFailure, Option.any_eq_true]

theorem seesFailure_of_idle {bench : Bench} (idle : Pass.tracks bench.image = false) : bench.seesFailure = false := by
  rw [seesFailure, idle, Bool.false_and]

/-- The finalizer makes no difference to what is seen. -/
theorem seesFailure_guarded (bench : Bench) :
    (Bench.mk bench.image.guarded bench.workspace).seesFailure = bench.seesFailure := by
  have told : (Bench.mk bench.image.guarded bench.workspace).latest? = bench.latest? :=
    latest?_of_alike bench.image.guarded_spec (.refl _)
  simp only [seesFailure, Pass.tracks, Image.guarded_status, told]

end Bench

namespace Pass

open Bench (Ensures)

theorem Looks.asks {bench : Bench} {outcome : Outcome Bench (Option Job)} (looked : Looks bench outcome) :
    Asks 0 bench.workspace outcome.state.workspace := by
  cases looked with
  | untracked idle => exact Workspace.asks_nothing rfl
  | unasked failed | unfailed tracked other | failed tracked latest own state =>
    exact Workspace.asks_written bench.workspace rfl

theorem Looks.seesFailure {bench after : Bench} {job : Option Job} {notes : List Note}
    (looked : Looks bench ⟨.ok job, after, notes⟩) : bench.seesFailure = job.isSome := by
  cases looked with
  | untracked idle => exact Bench.seesFailure_of_idle idle
  | unfailed tracked other =>
    rw [Bench.seesFailure, tracked, Bool.true_and]
    cases latest : bench.latest? with
    | none => rfl
    | some job =>
      have apart := other job latest
      simpa using apart
  | failed tracked latest own state => simp [Bench.seesFailure, tracked, latest, own, state]

theorem ensures_asks {bench : Bench} {outcome : Outcome Bench Ensured} (ensured : Ensures bench outcome)
    (other : ∀ jobId, outcome.result ≠ .ok (.created jobId)) (done : ∀ fault, outcome.result ≠ .error fault) :
    Asks 0 bench.workspace outcome.state.workspace := by
  have listed : Asks 0 bench.workspace bench.listed := Workspace.asks_written bench.workspace rfl
  cases ensured with
  | unlisted failed | unasked absent failed | unrequested absent free failed => exact absurd rfl (done _)
  | found calm first => exact listed
  | pending absent latest running => exact listed.trans (Workspace.asks_written bench.listed rfl)
  | created absent free calm => exact absurd rfl (other _)

/-- What a pass over an image that is to be kept comes to if nothing fails, with the number of jobs it asks for. -/
inductive Advances (bench : Bench) : Bench → Nat → Prop
  | failed {workspace : Workspace} (seen : bench.seesFailure = true) (alike : Alike bench.workspace workspace)
      (asks : Asks 0 bench.workspace workspace) :
      Advances bench ⟨bench.image.guarded.withStatus (·.failed), workspace⟩ 0
  | found {image : CloudImage} {workspace : Workspace} (unseen : bench.seesFailure = false)
      (first : bench.match? = some image) (alike : Alike bench.workspace workspace)
      (asks : Asks 0 bench.workspace workspace) :
      Advances bench ⟨bench.image.guarded.withStatus (·.available image.imageId), workspace⟩ 0
  | pending {job : Job} {workspace : Workspace} (unseen : bench.seesFailure = false) (absent : bench.match? = none)
      (latest : bench.latest? = some job) (running : job.state.isTerminal = false)
      (alike : Alike bench.workspace workspace) (asks : Asks 0 bench.workspace workspace) :
      Advances bench
        ⟨bench.image.guarded.withStatus fun status => status.importing (status.tracked job), workspace⟩ 0
  | created {workspace : Workspace} (unseen : bench.seesFailure = false) (absent : bench.match? = none)
      (free : ∀ job, bench.latest? = some job → job.state.isTerminal = true)
      (alike : Alike bench.imported.workspace workspace)
      (asks : Asks 1 bench.workspace workspace) :
      Advances bench
        ⟨bench.image.guarded.withStatus (·.importing (Workspace.jobIdOf (bench.workspace.serial + 1))), workspace⟩ 1

theorem Normal.advances {config : Config} {bench after : Bench} {requeue : Requeue} {notes : List Note}
    (normal : Normal config bench ⟨.ok requeue, after, notes⟩) : ∃ asked, Advances bench after asked := by
  have own (workspace : Workspace) (alike : Alike bench.workspace workspace) :
      (Bench.mk bench.image.guarded workspace).match? = bench.match? ∧
        (Bench.mk bench.image.guarded workspace).latest? = bench.latest? :=
    ⟨Bench.match?_of_alike bench.image.guarded_name alike, Bench.latest?_of_alike bench.image.guarded_spec alike⟩
  have seeing := bench.seesFailure_guarded
  cases normal with
  | failed looked => exact ⟨0, .failed (seeing.symm.trans looked.seesFailure) looked.alike looked.asks⟩
  | found looked ensured =>
    have asks := looked.asks.trans (ensures_asks ensured nofun nofun)
    have within := looked.alike
    cases ensured with
    | found calm first =>
      exact ⟨0, .found (seeing.symm.trans looked.seesFailure) ((own _ within).1 ▸ first)
        (within.trans (Workspace.alike_written _ _)) asks⟩
  | pending looked ensured =>
    have asks := looked.asks.trans (ensures_asks ensured nofun nofun)
    have within := looked.alike
    cases ensured with
    | pending absent latest running =>
      exact ⟨0, .pending (seeing.symm.trans looked.seesFailure) ((own _ within).1 ▸ absent)
        ((own _ within).2 ▸ latest) running
        ((within.trans (Workspace.alike_written _ _)).trans (Workspace.alike_written _ _)) asks⟩
  | @created jobId middle _ _ _ looked ensured =>
    have within := looked.alike
    cases ensured with
    | created absent free calm =>
      have request : Bench.importRequest bench.image.guarded = Bench.importRequest bench.image := by
        simp only [Bench.importRequest, Image.guarded_name, Image.guarded_spec]
      have serial : middle.serial = bench.workspace.serial := within.serial
      have listed : Asks 0 middle (Bench.listed ⟨bench.image.guarded, middle⟩) := Workspace.asks_written middle rfl
      have asked : Asks 0 middle (Bench.asked ⟨bench.image.guarded, middle⟩) :=
        listed.trans (Workspace.asks_written _ rfl)
      have requested : Asks 1 middle (Bench.requested ⟨bench.image.guarded, middle⟩) :=
        asked.trans (Workspace.asks_written _ rfl)
      have created : Alike bench.imported.workspace
          ((Bench.requested ⟨bench.image.guarded, middle⟩).withJob (Bench.importRequest bench.image.guarded)) := by
        rw [request, Bench.imported]
        exact (within.withJob _).trans ⟨rfl, rfl, rfl, rfl⟩
      have asks := (looked.asks.trans requested).trans (Workspace.asks_nothing rfl)
      rw [serial]
      exact ⟨1, .created (seeing.symm.trans looked.seesFailure) ((own _ within).1 ▸ absent)
        ((own _ within).2 ▸ free) created asks⟩

/-- A pass that sees a failure is to be followed by another after the interval for that. -/
theorem Normal.retries {config : Config} {bench after : Bench} {requeue : Requeue} {notes : List Note}
    (normal : Normal config bench ⟨.ok requeue, after, notes⟩) (seen : bench.seesFailure = true) :
    requeue = some config.retryInterval := by
  rw [← bench.seesFailure_guarded] at seen
  cases normal with
  | failed looked => rfl
  | found looked ensured | created looked ensured | pending looked ensured =>
    rw [looked.seesFailure] at seen
    cases seen

variable {bench after : Bench} {asked : Nat}

/-- A pass has the image fail exactly at the sight of a failure, and then asks for nothing. -/
theorem Advances.failed_iff (advances : Advances bench after asked) :
    (after.image.status.phase = .failed ↔ bench.seesFailure = true) ∧
      (bench.seesFailure = true → asked = 0) := by
  cases advances with
  | failed seen alike asks => exact ⟨⟨fun _ => seen, fun _ => rfl⟩, fun _ => rfl⟩
  | found unseen first alike asks | pending unseen absent latest running alike asks
  | created unseen absent free alike asks =>
    rw [unseen]
    exact ⟨⟨nofun, nofun⟩, nofun⟩

theorem Advances.imports (advances : Advances bench after asked) : Imports asked bench.workspace after.workspace := by
  cases advances with
  | failed seen alike asks | found unseen first alike asks | pending unseen absent latest running alike asks =>
    exact Workspace.imports_of_alike alike asks
  | created unseen absent free alike asks =>
    exact ⟨asks, alike.images, _, alike.jobs, rfl⟩

/-- A pass at most creates a job. -/
theorem Advances.turns (advances : Advances bench after asked) :
    ∃ command notes, Workspace.Turns bench.workspace command after.workspace notes := by
  cases advances with
  | failed seen alike asks | found unseen first alike asks | pending unseen absent latest running alike asks =>
    exact ⟨.listImages, [], .rests alike (Workspace.noted_nil _ _)⟩
  | created unseen absent free alike asks => exact ⟨.createJob .null, _, .jobCreated alike⟩

theorem Advances.akin (advances : Advances bench after asked) : Image.Akin bench.image after.image := by
  cases advances <;>
    exact ⟨bench.image.guarded_id, bench.image.guarded_spec, bench.image.guarded_deletionRequested⟩

/-- A pass over an image that is to be kept leaves a status to go on from, also where it breaks off. -/
theorem Normal.sound {config : Config} {outcome : Outcome Bench Requeue} (normal : Normal config bench outcome)
    (named : Named bench.workspace) (sound : bench.image.status.Sound) : outcome.state.image.status.Sound := by
  have guarded : bench.image.guarded.status.Sound := bench.image.guarded_status.symm ▸ sound
  cases normal with
  | unasked looked => exact guarded
  | unsettled looked ensured => exact guarded
  | failed looked =>
    cases looked with
    | failed tracked latest own state =>
      simp only [tracks, Bool.and_eq_true, decide_eq_true_eq] at tracked
      exact guarded.failed tracked.2
  | found looked ensured =>
    have images := looked.alike.images
    cases ensured with
    | found calm first =>
      have listed := List.mem_of_find?_eq_some first
      exact Image.Status.sound_available _ (named.images _ (images ▸ listed))
  | created looked ensured => exact Image.Status.sound_importing bench.image.guarded.status _
  | pending looked ensured => exact Image.Status.sound_importing bench.image.guarded.status _

/-- Nothing is left to do for a pass: the image is there and recorded, or a job is on its way and waited for. -/
inductive Settled (bench : Bench) : Prop
  | recorded {found : CloudImage} (first : bench.match? = some found)
      (guarded : bench.image.isGuarded = true)
      (status : bench.image.status = bench.image.status.available found.imageId)
  | waiting {job : Job} {jobId : String} (absent : bench.match? = none) (latest : bench.latest? = some job)
      (running : job.state.isTerminal = false) (guarded : bench.image.isGuarded = true) (named : jobId ≠ "")
      (status : bench.image.status = ⟨false, "", .importing, jobId⟩)

theorem Settled.unseen (settled : Settled bench) : bench.seesFailure = false := by
  cases settled with
  | recorded first guarded status =>
    refine Bench.seesFailure_of_idle ?_
    rw [tracks, status]
    simp [Image.Status.available]
  | @waiting job _ absent latest running guarded named status =>
    have state : job.state ≠ .failed := by
      intro failed
      rw [failed] at running
      cases running
    simp [Bench.seesFailure, latest, state]

/-- A failure that is seen once is not seen again. -/
theorem Advances.forgets (advances : Advances bench after asked) (seen : bench.seesFailure = true) :
    after.seesFailure = false ∧ asked = 0 := by
  cases advances with
  | failed _ alike asks =>
    refine ⟨Bench.seesFailure_of_idle ?_, rfl⟩
    simp [tracks, Image.withStatus, Image.Status.failed]
  | found unseen first alike asks | pending unseen absent latest running alike asks
  | created unseen absent free alike asks =>
    rw [seen] at unseen
    cases unseen

/-- A pass that sees no failure settles the matter. -/
theorem Advances.settles (advances : Advances bench after asked) (unseen : bench.seesFailure = false)
    (own : bench.image.spec.workspace = bench.workspace.instanceId) (named : Named bench.workspace) :
    Settled after ∧ asked ≤ 1 := by
  have name := bench.image.guarded_name
  have spec := bench.image.guarded_spec
  cases advances with
  | failed seen alike asks =>
    rw [seen] at unseen
    cases unseen
  | found _ first alike asks =>
    refine ⟨.recorded ?_ bench.image.guarded_isGuarded rfl, Nat.zero_le 1⟩
    exact (Bench.match?_of_alike name alike).trans first
  | @pending job _ _ absent latest running alike asks =>
    have waited : bench.image.guarded.status.tracked job ≠ "" :=
      Image.Status.tracked_ne (named.latest (Bench.latest?_eq_some.mp latest).2)
    refine ⟨.waiting ?_ ?_ running bench.image.guarded_isGuarded waited rfl, Nat.zero_le 1⟩
    · exact (Bench.match?_of_alike name alike).trans absent
    · exact (Bench.latest?_of_alike spec alike).trans latest
  | created _ absent free alike asks =>
    refine ⟨.waiting ?_ (Bench.latest?_of_imported own spec alike) rfl bench.image.guarded_isGuarded
      (Workspace.jobIdOf_ne _) rfl, Nat.le_refl 1⟩
    exact (Bench.match?_of_alike name alike).trans (bench.imported_match?.trans absent)

/-- Once the matter is settled passes change nothing more. -/
theorem Advances.rests (advances : Advances bench after asked) (settled : Settled bench) :
    after.image = bench.image ∧ Alike bench.workspace after.workspace ∧ asked = 0 := by
  have unseen := settled.unseen
  cases settled with
  | @recorded found first guarded status =>
    cases advances with
    | failed seen alike asks =>
      rw [unseen] at seen
      cases seen
    | found _ again alike asks =>
      obtain rfl := Option.some.inj (first.symm.trans again)
      refine ⟨?_, alike, rfl⟩
      change bench.image.guarded.withStatus (·.available found.imageId) = bench.image
      rw [Image.guarded_of_isGuarded guarded, Image.withStatus_of_eq status.symm]
    | pending _ absent latest running alike asks | created _ absent free alike asks =>
      rw [first] at absent
      cases absent
  | @waiting job jobId absent latest running guarded named status =>
    cases advances with
    | failed seen alike asks =>
      rw [unseen] at seen
      cases seen
    | found _ first alike asks =>
      rw [absent] at first
      cases first
    | @pending other _ _ _ again _ alike asks =>
      have kept : bench.image.status.importing (bench.image.status.tracked other) = bench.image.status := by
        simp [status, Image.Status.importing, Image.Status.tracked, named]
      refine ⟨?_, alike, rfl⟩
      change (bench.image.guarded.withStatus fun status => status.importing (status.tracked other)) = bench.image
      rw [Image.guarded_of_isGuarded guarded, Image.withStatus_of_eq kept]
    | created _ _ free alike asks =>
      rw [free job latest] at running
      cases running

end Pass

end ImageOperator
