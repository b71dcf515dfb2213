import ImageOperator.Proofs.Journal.Events
import ImageOperator.Proofs.Scope.Decide

set_option autoImplicit false

/-!
The events of a pass, as a recorder keeps them that does not fail. A pass that fails tells of the fault with a warning,
and of nothing after it; of a pass that does not fail, what it found, requested or deleted is told, each once. This
holds as long as the client raises nothing but cloud faults, which are the ones that are told of.
-/

namespace ImageOperator

namespace Attempt

variable {σ α : Type}

/-- Attempts that keep what is sound, tell nothing, and fail with cloud faults only. -/
abbrev Clouds (sound : σ → Prop) (attempt : Attempt σ α) : Prop :=
  attempt.Quiet sound fun fault => fault.isCloud = true

end Attempt

open Attempt (quiet_pure quiet_read quiet_update quiet_note quiet_fail)

theorem Fault.isCloud_raised {category : Category} (cloud : category.isCloud = true) (operation message : String) :
    (Fault.raised category operation message).isCloud = true := by
  cases category <;> first | rfl | cases cloud

namespace Workspace

/-- The client of the workspace raises nothing but cloud faults. -/
def OnlyCloud (workspace : Workspace) : Prop :=
  (∀ upset, some upset ∈ workspace.due → upset.1.isCloud = true) ∧
    ∀ operation upset, (operation, upset) ∈ workspace.faults → upset.1.isCloud = true

theorem isCloud_of_fault? {workspace : Workspace} (only : workspace.OnlyCloud) {operation : Operation} {fault : Fault}
    (failed : workspace.fault? operation = some fault) : fault.isCloud = true := by
  unfold fault? at failed
  split at failed
  · rename_i category message first
    obtain rfl := Option.some.inj failed
    have due : some (category, message) ∈ workspace.due := by
      cases held : workspace.due with
      | nil => simp [held] at first
      | cons next later =>
        rw [held] at first
        simp only [List.head?_cons, Option.join_some] at first
        rw [first]
        exact List.mem_cons_self
    exact Fault.isCloud_raised (only.1 _ due) _ _
  · split at failed
    · obtain rfl := Option.some.inj failed
      rfl
    · obtain ⟨upset, found, rfl⟩ := Option.map_eq_some_iff.mp failed
      have set : (operation, upset) ∈ workspace.faults := by
        obtain ⟨before, after, same, _⟩ := List.lookup_eq_some_iff.mp found
        rw [same]
        simp
      exact Fault.isCloud_raised (only.2 operation upset set) _ _

theorem OnlyCloud.written {workspace : Workspace} (only : workspace.OnlyCloud) (call : Call) :
    (workspace.written call).OnlyCloud :=
  ⟨fun upset later => only.1 upset (List.mem_of_mem_tail later), only.2⟩

theorem clouds_receive (call : Call) : (receive call).Clouds OnlyCloud := by
  intro workspace only
  cases failed : workspace.fault? call.operation with
  | some fault =>
    rw [receive_of_fault failed]
    exact ⟨only.written call, rfl, fun _ same => Except.error.inj same ▸ isCloud_of_fault? only failed⟩
  | none =>
    rw [receive_of_calm failed]
    exact ⟨only.written call, rfl, nofun⟩

theorem clouds_listImages : listImages.Clouds OnlyCloud :=
  (clouds_receive _).bind fun _ => quiet_read.bind fun _ => quiet_pure _

theorem clouds_latestJob (instanceId : String) : (latestJob instanceId).Clouds OnlyCloud :=
  (clouds_receive _).bind fun _ => quiet_read.bind fun _ => quiet_pure _

theorem clouds_createJob (request : ImportRequest) : (createJob request).Clouds OnlyCloud := by
  refine (clouds_receive _).bind fun _ => quiet_read.bind fun workspace => ?_
  refine (quiet_update fun _ only => ?_).bind fun _ => Attempt.Quiet.bind (quiet_note rfl) fun _ => quiet_pure _
  exact only

theorem clouds_deleteImage (imageId : String) : (deleteImage imageId).Clouds OnlyCloud := by
  refine (clouds_receive _).bind fun _ => quiet_read.bind fun workspace => ?_
  split
  · exact quiet_update fun _ only => only
  · exact quiet_fail rfl

theorem clouds_deleteJob (jobId : String) : (deleteJob jobId).Clouds OnlyCloud := by
  refine (clouds_receive _).bind fun _ => quiet_read.bind fun workspace => ?_
  split
  · exact quiet_update fun _ only => only
  · exact quiet_fail rfl

end Workspace

namespace Bench

open Attempt (bind_of_ok bind_of_error after_silent)

variable {α β : Type}

/-- The bench of an object, with a client that raises nothing but cloud faults. -/
structure Attends (id : ObjectId) (bench : Bench) : Prop where
  image : bench.image.id = id
  workspace : bench.workspace.OnlyCloud

/-- What is told of an attempt: what there is to say of its value, or a warning that ends with the text of its fault. -/
inductive Told (id : ObjectId) (said : α → List Event) : Except Fault α → List Event → Prop
  | done (value : α) : Told id said (.ok value) (said value)
  | warned (fault : Fault) (reason text : String) :
      Told id said (.error fault) [⟨id, .warning, reason, text ++ fault.message⟩]

/-- Outcomes of which is told what there is to say of their value, or a warning of their fault. -/
structure Heard (id : ObjectId) (said : α → List Event) (outcome : Outcome Bench α) : Prop where
  attends : Attends id outcome.state
  told : Told id said outcome.result outcome.events

theorem Told.speaks {id : ObjectId} {said : α → List Event} {value : α} {events : List Event}
    (told : Told id said (.ok value) events) : events = said value := by
  cases told
  rfl

theorem Told.warns {id : ObjectId} {said : α → List Event} {fault : Fault} {events : List Event}
    (told : Told id said (.error fault) events) :
    ∃ reason text, events = [⟨id, .warning, reason, text ++ fault.message⟩] := by
  cases told with
  | warned _ reason text => exact ⟨reason, text, rfl⟩

/-- What fails first is what is heard of, whatever was to come. -/
theorem Heard.of_error {id : ObjectId} {heeded : α → List Event} {said : β → List Event} {first : Attempt Bench α}
    {next : α → Attempt Bench β} {bench middle : Bench} {fault : Fault} {notes : List Note}
    (heard : Heard id heeded (first bench)) (ran : first bench = ⟨.error fault, middle, notes⟩) :
    Heard id said ((first >>= next) bench) := by
  rw [ran] at heard
  obtain ⟨reason, text, told⟩ := heard.told.warns
  rw [bind_of_error ran]
  refine ⟨heard.attends, ?_⟩
  have events : (⟨.error fault, middle, notes⟩ : Outcome Bench β).events = _ := told
  rw [events]
  exact .warned fault reason text

/-- Attempts of which this is told on every bench of an object. -/
def Tells (id : ObjectId) (said : α → List Event) (attempt : Attempt Bench α) : Prop :=
  ∀ bench, Attends id bench → Heard id said (attempt bench)

/-- Attempts that do not fail and tell nothing. -/
def Calm (id : ObjectId) (attempt : Attempt Bench α) : Prop :=
  ∀ bench, Attends id bench →
    ∃ value after notes, attempt bench = ⟨.ok value, after, notes⟩ ∧ Attends id after ∧
      notes.filterMap Note.event? = []

section

variable {id : ObjectId} {voice : Voice} {said : β → List Event}

theorem calm_pure (value : α) : Calm id (pure value : Attempt Bench α) :=
  fun bench attends => ⟨value, bench, [], rfl, attends, rfl⟩

theorem calm_current : Calm id current :=
  fun bench attends => ⟨bench.image, bench, [], rfl, attends, rfl⟩

theorem calm_log (channel : Channel) (level : Level) (message : String) : Calm id (Attempt.log channel level message) :=
  fun bench attends => ⟨(), bench, _, rfl, attends, rfl⟩

theorem calm_changeStatus (edit : Image.Status → Image.Status) : Calm id (changeStatus edit) :=
  fun bench attends =>
    ⟨(), ⟨bench.image.withStatus edit, bench.workspace⟩, [], rfl, ⟨attends.image, attends.workspace⟩, rfl⟩

theorem Calm.bind {first : Attempt Bench α} {next : α → Attempt Bench β} (calm : Calm id first)
    (later : ∀ value, Calm id (next value)) : Calm id (first >>= next) := by
  intro bench attends
  obtain ⟨value, middle, notes, ran, kept, silent⟩ := calm bench attends
  obtain ⟨last, after, more, then_ran, then_kept, then_silent⟩ := later value middle kept
  refine ⟨last, after, notes ++ more, ?_, then_kept, ?_⟩
  · rw [bind_of_ok ran, then_ran]
  · rw [List.filterMap_append, silent, then_silent, List.append_nil]

theorem Calm.clouds {attempt : Attempt Bench α} (calm : Calm id attempt) : attempt.Clouds (Attends id) := by
  intro bench attends
  obtain ⟨value, after, notes, ran, kept, silent⟩ := calm bench attends
  rw [ran]
  exact ⟨kept, silent, nofun⟩

theorem Calm.tells {attempt : Attempt Bench α} (calm : Calm id attempt) : Tells id (fun _ => []) attempt := by
  intro bench attends
  obtain ⟨value, after, notes, ran, kept, silent⟩ := calm bench attends
  rw [ran]
  refine ⟨kept, ?_⟩
  rw [Outcome.events, silent]
  exact .done value

theorem Heard.after {first : Attempt Bench α} {next : α → Attempt Bench β} {bench middle : Bench} {value : α}
    {notes : List Note} (ran : first bench = ⟨.ok value, middle, notes⟩) (silent : notes.filterMap Note.event? = [])
    (heard : Heard id said (next value middle)) : Heard id said ((first >>= next) bench) := by
  obtain ⟨result, state, events⟩ := after_silent ran silent next
  exact ⟨state ▸ heard.attends, result ▸ events ▸ heard.told⟩

/-- What was told before it goes on calmly is what is told of it all. -/
theorem Calm.after {first : Attempt Bench α} {next : α → Attempt Bench β} {bench middle : Bench} {value : α}
    {notes : List Note} (calm : Calm id (next value)) (ran : first bench = ⟨.ok value, middle, notes⟩)
    (attends : Attends id middle) :
    ∃ last, ((first >>= next) bench).result = .ok last ∧
      ((first >>= next) bench).state = (next value middle).state ∧ Attends id (next value middle).state ∧
      ((first >>= next) bench).events = notes.filterMap Note.event? := by
  obtain ⟨last, after, more, ended, kept, silent⟩ := calm middle attends
  rw [bind_of_ok ran, ended]
  refine ⟨last, rfl, rfl, kept, ?_⟩
  rw [Outcome.events, List.filterMap_append, silent, List.append_nil]

theorem Heard.then_calm {told : List Event} {first : Attempt Bench α} {next : α → Attempt Bench β} {bench : Bench}
    (heard : Heard id (fun _ => told) (first bench)) (calm : ∀ value, Calm id (next value)) :
    Heard id (fun _ => told) ((first >>= next) bench) := by
  rcases ran : first bench with ⟨fault | value, middle, notes⟩
  · exact heard.of_error ran
  · rw [ran] at heard
    obtain ⟨last, result, state, kept, events⟩ := (calm value).after ran heard.attends
    have spoken : notes.filterMap Note.event? = told := heard.told.speaks
    refine ⟨state ▸ kept, ?_⟩
    rw [result, events, spoken]
    exact .done last

theorem Tells.bind {first : Attempt Bench α} {next : α → Attempt Bench β} (tells : Tells id (fun _ => []) first)
    (later : ∀ value, Tells id said (next value)) : Tells id said (first >>= next) := by
  intro bench attends
  have heard := tells bench attends
  rcases ran : first bench with ⟨fault | value, middle, notes⟩
  · exact heard.of_error ran
  · rw [ran] at heard
    exact .after ran heard.told.speaks (later value middle heard.attends)

theorem clouds_call {attempt : Attempt Workspace α} (clouds : attempt.Clouds Workspace.OnlyCloud) :
    (call attempt).Clouds (Attends id) := by
  intro bench attends
  obtain ⟨kept, silent, cloud⟩ := clouds bench.workspace attends.workspace
  exact ⟨⟨attends.image, kept⟩, silent, cloud⟩

theorem tell_then (voice : Voice) (severity : Severity) (reason message : String) (next : Unit → Attempt Bench α)
    (bench : Bench) :
    (tell voice severity reason message >>= next) bench =
      ⟨(next () bench).result, (next () bench).state,
        voice.recorder.notes bench.workspace ⟨bench.image.id, severity, reason, message⟩ ++ (next () bench).notes⟩ :=
  rfl

theorem tried_of {attempt : Attempt Bench α} {bench middle : Bench} {result : Except Fault α} {notes : List Note}
    (ran : attempt bench = ⟨result, middle, notes⟩) : attempt.tried bench = ⟨.ok result, middle, notes⟩ := by
  simp only [Attempt.tried, ran]

theorem filterMap_event?_notes (memory : voice.recorder = .memory) (workspace : Workspace) (event : Event) :
    (voice.recorder.notes workspace event).filterMap Note.event? = [event] := by
  rw [memory]
  rfl

/-- A warning of a fault is what is told of failing with it. -/
theorem heard_warning (memory : voice.recorder = .memory) {bench : Bench} (attends : Attends id bench) (fault : Fault)
    (reason text : String) :
    Heard id said ((tell voice .warning reason (text ++ fault.message) >>= fun _ => Attempt.fail fault) bench) := by
  rw [tell_then, attends.image]
  refine ⟨attends, ?_⟩
  rw [Outcome.events, List.filterMap_append, filterMap_event?_notes memory]
  exact .warned fault reason text

theorem tells_warned (memory : voice.recorder = .memory) {attempt : Attempt Bench α}
    (clouds : attempt.Clouds (Attends id)) (reason text : String) :
    Tells id (fun _ => []) (warned voice reason (fun fault => text ++ fault.message) attempt) := by
  intro bench attends
  obtain ⟨kept, silent, cloud⟩ := clouds bench attends
  unfold warned
  rcases ran : attempt bench with ⟨fault | value, middle, notes⟩
  all_goals
    rw [ran] at kept silent cloud
    refine .after (tried_of ran) silent ?_
  · simp only [cloud fault rfl, ↓reduceIte]
    exact heard_warning memory kept fault reason text
  · exact ⟨kept, .done value⟩

theorem clouds_findImage (voice : Voice) (name : Value) : (findImage voice name).Clouds (Attends id) := by
  refine (clouds_call Workspace.clouds_listImages).bind fun images => ?_
  dsimp only
  split
  · exact quiet_pure _
  · split
    · exact ((calm_log _ _ _).bind fun _ => calm_pure _).clouds
    · exact quiet_pure _

theorem tells_latestJob (memory : voice.recorder = .memory) : Tells id (fun _ => []) (latestJob voice) :=
  calm_current.tells.bind fun _ => tells_warned memory (clouds_call (Workspace.clouds_latestJob _)) _ _

/-- What is said of an image that exists, or is asked for; nothing is said of one that is on its way. -/
def saidOf (id : ObjectId) : Ensured → List Event
  | .found _ => [⟨id, .normal, "SuccessfulRetrieveImage", "Retrieved image " ++ id.name.literal⟩]
  | .created jobId =>
    [⟨id, .normal, "SuccessfulCreateImageImportJob", "Created image import job " ++ Text.literal jobId⟩]
  | .pending _ => []

theorem heard_told (memory : voice.recorder = .memory) {bench : Bench} (attends : Attends id bench)
    (reason message : String) :
    Heard id (fun _ => [⟨id, .normal, reason, message⟩]) (tell voice .normal reason message bench) := by
  have events : (tell voice .normal reason message bench).events = [⟨id, .normal, reason, message⟩] := by
    rw [← attends.image]
    exact filterMap_event?_notes memory _ _
  refine ⟨attends, ?_⟩
  rw [events]
  exact .done ()

/-- Telling of what was ensured. -/
theorem heard_ensured (memory : voice.recorder = .memory) {bench : Bench} (attends : Attends id bench)
    {ensured : Ensured} {reason message : String} (own : saidOf id ensured = [⟨id, .normal, reason, message⟩]) :
    Heard id (saidOf id) ((tell voice .normal reason message >>= fun _ => pure ensured) bench) := by
  have told := (heard_told memory attends reason message).told.speaks
  have events : ((tell voice .normal reason message >>= fun _ => pure ensured) bench).events = saidOf id ensured := by
    rw [own, ← told]
    exact congrArg (List.filterMap Note.event?) (List.append_nil _)
  refine ⟨attends, ?_⟩
  rw [events]
  exact .done ensured

theorem tells_createJob (memory : voice.recorder = .memory) : Tells id (saidOf id) (createJob voice) := by
  intro bench attends
  obtain ⟨kept, silent, cloud⟩ :=
    clouds_call (Workspace.clouds_createJob (importRequest bench.image)) bench attends
  unfold createJob
  rw [current_then]
  generalize call (Workspace.createJob (importRequest bench.image)) = asking at kept silent cloud
  rcases ran : asking bench with ⟨fault | jobId, middle, notes⟩
  all_goals
    rw [ran] at kept silent cloud
    refine .after (tried_of ran) silent ?_
  · simp only [cloud fault rfl, ↓reduceIte]
    exact .after rfl rfl (heard_warning memory kept fault _ _)
  · exact .after rfl rfl (heard_ensured memory kept rfl)

theorem tells_ensureImage (memory : voice.recorder = .memory) : Tells id (saidOf id) (ensureImage voice) := by
  intro bench attends
  unfold ensureImage
  rw [current_then]
  refine (tells_warned memory (clouds_findImage voice bench.image.name) _ _).bind (fun listed => ?_) bench attends
  cases listed with
  | some found =>
    intro middle kept
    refine .after rfl rfl (heard_ensured memory kept ?_)
    rw [saidOf, ← attends.image]
    rfl
  | none =>
    refine (tells_latestJob memory).bind fun latest => ?_
    cases latest with
    | none => exact tells_createJob memory
    | some job =>
      dsimp only
      split
      · exact tells_createJob memory
      · exact fun middle kept => .after rfl rfl ⟨kept, .done (Ensured.pending job)⟩

end

end Bench

end ImageOperator
