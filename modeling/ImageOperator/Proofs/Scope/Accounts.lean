import ImageOperator.Proofs.Scope.Events

set_option autoImplicit false

/-!
What a pass tells of itself, over an image that is to be kept and over one that is to be deleted.
-/

namespace ImageOperator

open Attempt (bind_of_ok bind_of_error events_of_ok after_silent)

namespace Bench

variable {α : Type} {id : ObjectId} {voice : Voice}

theorem calm_addFinalizer (name : Value) : Calm id (addFinalizer name) := by
  intro bench attends
  have silent : (bench.image.withFinalizer name).2.filterMap Note.event? = [] := by
    unfold Image.withFinalizer
    split <;> rfl
  have same : (bench.image.withFinalizer name).1.id = bench.image.id := by
    rw [Image.withFinalizer_image]
    unfold Image.addFinalizer
    split <;> rfl
  exact ⟨(), ⟨(bench.image.withFinalizer name).1, bench.workspace⟩, _, rfl,
    ⟨same.trans attends.image, attends.workspace⟩, (congrArg _ (List.append_nil _)).trans silent⟩

theorem calm_removeFinalizer (name : Value) : Calm id (removeFinalizer name) := by
  intro bench attends
  have silent : (bench.image.withoutFinalizer name).2.filterMap Note.event? = [] := by
    unfold Image.withoutFinalizer
    split <;> rfl
  have same : (bench.image.withoutFinalizer name).1.id = bench.image.id := by
    rw [Image.withoutFinalizer_image]
    rfl
  exact ⟨(), ⟨(bench.image.withoutFinalizer name).1, bench.workspace⟩, _, rfl,
    ⟨same.trans attends.image, attends.workspace⟩, (congrArg _ (List.append_nil _)).trans silent⟩

end Bench

namespace Pass

open Bench (Attends Calm Tells Told Heard saidOf calm_pure calm_current calm_log calm_changeStatus)

variable {id : ObjectId} {voice : Voice}

theorem calm_markFailed (config : Config) (job : Job) : Calm id (markFailed config job) :=
  calm_current.bind fun _ => (calm_log _ _ _).bind fun _ => (calm_changeStatus _).bind fun _ =>
    (calm_changeStatus _).bind fun _ => calm_pure _

theorem calm_markFound (found : CloudImage) : Calm id (markFound found) :=
  (calm_changeStatus _).bind fun _ => (calm_changeStatus _).bind fun _ => (calm_changeStatus _).bind fun _ =>
    calm_current.bind fun _ => (calm_log _ _ _).bind fun _ => calm_pure _

theorem calm_dropImageId : Calm id dropImageId := by
  refine calm_current.bind fun image => ?_
  split
  · exact (calm_log _ _ _).bind fun _ => calm_changeStatus _
  · exact calm_pure _

theorem calm_trackPending (job : Job) : Calm id (trackPending job) := by
  refine calm_current.bind fun image => (calm_log _ _ _).bind fun _ => ?_
  split
  · exact calm_changeStatus _
  · exact calm_pure _

theorem calm_markImporting (config : Config) : Calm id (markImporting config) :=
  (calm_changeStatus _).bind fun _ => (calm_changeStatus _).bind fun _ => calm_pure _

theorem tells_failedJob (memory : voice.recorder = .memory) : Tells id (fun _ => []) (failedJob voice) := by
  refine calm_current.tells.bind fun image => ?_
  dsimp only
  split
  · refine (Bench.tells_latestJob memory).bind fun latest => ?_
    cases latest <;> exact (calm_pure _).tells
  · exact (calm_pure _).tells

/-- What a pass over an image that is to be kept came to, and what was told of it. -/
inductive Concludes (bench after : Bench) : List Event → Prop
  | found (phase : after.image.status.phase = .available)
      (spared : after.workspace.requests = bench.workspace.requests) :
      Concludes bench after
        [⟨bench.image.id, .normal, "SuccessfulRetrieveImage", "Retrieved image " ++ bench.image.name.literal⟩]
  | created (phase : after.image.status.phase = .importing)
      (requested : after.workspace.requests = bench.workspace.requests ++ [Bench.importRequest bench.image]) :
      Concludes bench after
        [⟨bench.image.id, .normal, "SuccessfulCreateImageImportJob",
          "Created image import job " ++ Text.literal after.image.status.jobId⟩]
  | pending (phase : after.image.status.phase = .importing)
      (spared : after.workspace.requests = bench.workspace.requests) : Concludes bench after []
  | failed (phase : after.image.status.phase = .failed)
      (spared : after.workspace.requests = bench.workspace.requests) : Concludes bench after []

/-- What is told of a pass over an image that is to be kept: what it came to, or a warning. -/
structure Accounts (bench : Bench) (outcome : Outcome Bench Requeue) : Prop where
  warned : ∀ fault, outcome.result = .error fault →
    ∃ reason text, outcome.events = [⟨bench.image.id, .warning, reason, text ++ fault.message⟩]
  concludes : ∀ requeue, outcome.result = .ok requeue → Concludes bench outcome.state outcome.events

section

variable {α : Type} {bench : Bench}

theorem Accounts.after {first : Attempt Bench α} {next : α → Attempt Bench Requeue} {start middle : Bench} {value : α}
    {notes : List Note} (ran : first start = ⟨.ok value, middle, notes⟩) (silent : notes.filterMap Note.event? = [])
    (accounts : Accounts bench (next value middle)) : Accounts bench ((first >>= next) start) := by
  obtain ⟨result, state, events⟩ := after_silent ran silent next
  refine ⟨fun fault failed => ?_, fun requeue done => ?_⟩
  · rw [events]
    exact accounts.warned fault (result ▸ failed)
  · rw [events, state]
    exact accounts.concludes requeue (result ▸ done)

theorem Accounts.of_error {first : Attempt Bench α} {next : α → Attempt Bench Requeue} {start middle : Bench}
    {said : α → List Event} {fault : Fault} {notes : List Note} (heard : Heard bench.image.id said (first start))
    (ran : first start = ⟨.error fault, middle, notes⟩) : Accounts bench ((first >>= next) start) := by
  have warned : Heard bench.image.id (fun _ => []) ((first >>= next) start) := heard.of_error ran
  have told := warned.told
  rw [bind_of_error ran] at told ⊢
  refine ⟨fun other failed => ?_, nofun⟩
  obtain rfl : fault = other := Except.error.inj failed
  exact told.warns

/-- What was said before it goes on calmly is what is told. -/
theorem Accounts.of_calm {first : Attempt Bench α} {next : α → Attempt Bench Requeue} {start middle after : Bench}
    {value : α} {requeue : Requeue} {notes : List Note} {told : List Event}
    (ran : first start = ⟨.ok value, middle, notes⟩) (said : notes.filterMap Note.event? = told)
    (calm : Calm bench.image.id (next value)) (attends : Attends bench.image.id middle) (more : List Note)
    (bare : (next value).bare middle = ⟨.ok requeue, after, more⟩) (concludes : Concludes bench after told) :
    Accounts bench ((first >>= next) start) := by
  obtain ⟨last, result, state, -, events⟩ := calm.after ran attends
  have left : (next value middle).state = after := by rw [← Attempt.bare_state, bare]
  refine ⟨fun fault failed => ?_, fun _ _ => ?_⟩
  · rw [result] at failed
    cases failed
  · rw [events, said, state, left]
    exact concludes

theorem Looks.requests {outcome : Outcome Bench (Option Job)} (looked : Looks bench outcome) :
    outcome.state.workspace.requests = bench.workspace.requests := by
  cases looked <;> rfl

theorem requests_of_created {jobId : String} {after : Bench} {notes : List Note}
    (ensured : Bench.Ensures bench ⟨.ok (.created jobId), after, notes⟩) :
    after.workspace.requests = bench.workspace.requests ++ [Bench.importRequest bench.image] := by
  cases ensured with
  | created => rfl

theorem importRequest_guarded (image : Image) : Bench.importRequest image.guarded = Bench.importRequest image := by
  simp only [Bench.importRequest, Image.guarded_name, Image.guarded_spec]

/-- A pass over an image that is to be kept tells what it came to, or warns of what it failed with. -/
theorem normal_accounts (config : Config) (memory : voice.recorder = .memory) (only : bench.workspace.OnlyCloud) :
    Accounts bench (normal config voice bench) := by
  have attends : Attends bench.image.id bench := ⟨rfl, only⟩
  unfold normal
  obtain ⟨_, start, _, ran, attends, silent⟩ := Bench.calm_addFinalizer (.text Image.finalizer) bench attends
  obtain rfl : start = ⟨bench.image.guarded, bench.workspace⟩ := by
    have state := congrArg Outcome.state (Bench.bare_addFinalizer (.text Image.finalizer) bench)
    rw [Attempt.bare_state, ran] at state
    exact state
  refine .after ran silent ?_
  -- What is told of an attempt is known by its result; what it leaves, by the ways it can go as far as deeds are noted.
  have heard := tells_failedJob memory _ attends
  have looked := failedJob_looks voice ⟨bench.image.guarded, bench.workspace⟩
  have image := looked.image
  have requests := looked.requests
  rw [Attempt.bare_state] at image requests
  rcases looking : failedJob voice ⟨bench.image.guarded, bench.workspace⟩ with ⟨fault | failed, ⟨copy, middle⟩, first⟩
  · exact .of_error heard looking
  rw [looking] at heard image requests
  obtain rfl : copy = bench.image.guarded := image
  cases failed with
  | some job =>
    exact .of_calm looking heard.told.speaks (calm_markFailed config job) heard.attends _ (bare_markFailed config job _)
      (.failed rfl requests)
  | none =>
    refine .after looking heard.told.speaks ?_
    have attends := heard.attends
    have heard := Bench.tells_ensureImage memory _ attends
    have ensures := Bench.ensureImage_ensures voice ⟨bench.image.guarded, middle⟩
    rcases ensuring : Bench.ensureImage voice ⟨bench.image.guarded, middle⟩ with
      ⟨fault | (found | job | jobId), ⟨last, after⟩, second⟩
    · exact .of_error heard ensuring
    all_goals
      rw [ensuring] at heard
      simp only [Attempt.bare, ensuring] at ensures
      obtain rfl : last = bench.image.guarded := ensures.image
    · have uncreated (jobId : String) : (Except.ok (.found found) : Except Fault Ensured) ≠ .ok (.created jobId) := by
        simp
      have spared := (ensures.spared uncreated).2.trans requests
      refine .of_calm ensuring heard.told.speaks (calm_markFound found) heard.attends _ (bare_markFound found _) ?_
      exact .found rfl spared
    · have uncreated (jobId : String) : (Except.ok (.pending job) : Except Fault Ensured) ≠ .ok (.created jobId) := by
        simp
      have spared := (ensures.spared uncreated).2.trans requests
      refine .of_calm ensuring heard.told.speaks
        (calm_dropImageId.bind fun _ => (calm_trackPending job).bind fun _ => calm_markImporting config) heard.attends _
        (bare_pending config job _) (.pending rfl spared)
    · have requested := (requests_of_created ensures).trans (congrArg (· ++ _) requests)
      refine .of_calm ensuring heard.told.speaks
        (calm_dropImageId.bind fun _ => (calm_changeStatus _).bind fun _ => calm_markImporting config) heard.attends _
        (bare_created config jobId _) ?_
      exact .created rfl (requested.trans (congrArg (bench.workspace.requests ++ [·]) (importRequest_guarded _)))

end

end Pass

end ImageOperator
