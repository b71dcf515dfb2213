import Mathlib.Data.List.Forall2
import ImageOperator.Proofs.Scope.Accounts
import ImageOperator.Proofs.Scope.Advance
import ImageOperator.Proofs.Scope.Discard

set_option autoImplicit false

/-!
What is heard of a pass, whichever kind it is: normal events for what it did, and as the last one a warning if it fails.
-/

namespace ImageOperator

open Attempt (bind_of_ok bind_of_error events_of_ok)

namespace Attempt

variable {σ α β : Type}

theorem calls_of_ok {first : Attempt σ α} {before middle : σ} {value : α} {notes : List Note}
    (done : first before = ⟨.ok value, middle, notes⟩) (next : α → Attempt σ β) :
    ((first >>= next) before).calls = (first before).calls ++ (next value middle).calls := by
  rw [bind_of_ok done, done]
  exact List.filterMap_append ..

end Attempt

/-- An event that tells of a delete: a normal one exactly if the delete left its target gone. -/
structure Announces (id : ObjectId) (made : Workspace × Call) (event : Event) : Prop where
  subject : event.subject = id
  deletes : made.2.deletes = true
  severity : event.severity = .normal ↔ made.1.Settles made.2

/-- A normal event of an object. -/
def Event.IsGood (id : ObjectId) (event : Event) : Prop :=
  event.subject = id ∧ event.severity = .normal

namespace Bench

variable {α β : Type} {id : ObjectId} {voice : Voice}

/-- What is told of an attempt as it goes: normal events while it goes well, and a warning of what it fails with. -/
inductive Spoken (id : ObjectId) : Except Fault α → List Event → Prop
  | done (value : α) {events : List Event} (good : ∀ event ∈ events, event.IsGood id) : Spoken id (.ok value) events
  | broken (fault : Fault) {earlier : List Event} (good : ∀ event ∈ earlier, event.IsGood id) (reason text : String) :
      Spoken id (.error fault) (earlier ++ [⟨id, .warning, reason, text ++ fault.message⟩])

theorem Told.spoken {said : α → List Event} {result : Except Fault α} {events : List Event}
    (told : Told id said result events) (good : ∀ value, ∀ event ∈ said value, event.IsGood id) :
    Spoken id result events := by
  cases told with
  | done value => exact .done value (good value)
  | warned fault reason text => exact @Spoken.broken _ _ fault [] nofun reason text

theorem Spoken.after {result : Except Fault α} {earlier events : List Event} (spoken : Spoken id result events)
    (good : ∀ event ∈ earlier, event.IsGood id) : Spoken id result (earlier ++ events) := by
  cases spoken with
  | done value later => exact .done value (List.forall_mem_append.mpr ⟨good, later⟩)
  | broken fault later reason text =>
    rw [← List.append_assoc]
    exact .broken fault (List.forall_mem_append.mpr ⟨good, later⟩) reason text

variable {result : Except Fault α} {events : List Event}

theorem Spoken.own (spoken : Spoken id result events) : ∀ event ∈ events, event.subject = id := by
  cases spoken with
  | done value good => exact fun event told => (good event told).1
  | broken fault good reason text =>
    refine List.forall_mem_append.mpr ⟨fun event told => (good event told).1, ?_⟩
    exact List.forall_mem_singleton.mpr rfl

theorem Spoken.warned_iff (spoken : Spoken id result events) :
    (∃ event ∈ events, event.severity = .warning) ↔ ∃ fault, result = .error fault := by
  cases spoken with
  | done value good =>
    refine ⟨fun ⟨event, told, warns⟩ => ?_, nofun⟩
    rw [(good event told).2] at warns
    cases warns
  | broken fault good reason text => exact ⟨fun _ => ⟨fault, rfl⟩, fun _ => ⟨_, List.mem_concat_self, rfl⟩⟩

theorem Spoken.good {value : α} (spoken : Spoken id (.ok value) events) : ∀ event ∈ events, event.IsGood id := by
  cases spoken with
  | done value good => exact good

theorem Spoken.of_error {fault : Fault} (spoken : Spoken id (.error fault : Except Fault α) events) :
    Spoken id (.error fault : Except Fault β) events := by
  cases spoken with
  | broken fault good reason text => exact .broken fault good reason text

theorem Spoken.last (spoken : Spoken id result events) {fault : Fault} (failed : result = .error fault) :
    ∃ earlier reason text, events = earlier ++ [⟨id, .warning, reason, text ++ fault.message⟩] ∧
      ∀ event ∈ earlier, event.severity = .normal := by
  cases spoken with
  | done value good => cases failed
  | broken other good reason text =>
    obtain rfl := Except.error.inj failed
    exact ⟨_, reason, text, rfl, fun event told => (good event told).2⟩

/-- A delete tells that it is done, also if there was nothing to delete. -/
theorem tells_deleteTarget (memory : voice.recorder = .memory) {attempt : Attempt Workspace Unit}
    (clouds : attempt.Clouds Workspace.OnlyCloud) (gone failedReason failedText doneReason doneText : String) :
    Tells id (fun _ => [⟨id, .normal, doneReason, doneText⟩])
      (deleteTarget voice attempt gone failedReason failedText doneReason doneText) := by
  intro bench attends
  obtain ⟨kept, silent, cloud⟩ := clouds_call clouds bench attends
  unfold deleteTarget
  rcases ran : call attempt bench with ⟨fault | ⟨⟩, middle, notes⟩
  all_goals
    rw [ran] at kept silent cloud
    refine .after (tried_of ran) silent ?_
  · by_cases absent : fault.category = .cloudAbsent
    · simp only [absent, ↓reduceIte]
      exact .after rfl rfl (heard_told memory kept _ _)
    · simp only [absent, ↓reduceIte, cloud fault rfl]
      exact heard_warning memory kept fault failedReason failedText
  · exact .after rfl rfl (heard_told memory kept _ _)

end Bench

namespace Pass

open Bench (Attends Heard Spoken calm_changeStatus tells_deleteTarget)

variable {α : Type} {id : ObjectId} {voice : Voice} {bench : Bench}

theorem heard_clearImage (memory : voice.recorder = .memory) (attends : Attends id bench) :
    Heard id
      (fun _ => if bench.image.status.imageId ≠ "" then
        [⟨id, .normal, "SuccessfulDeleteImage", "Deleted image " ++ Text.literal bench.image.status.imageId⟩] else [])
      (clearImage voice bench) := by
  unfold clearImage
  rw [Bench.current_then]
  by_cases named : bench.image.status.imageId ≠ ""
  · rw [if_pos named, if_pos named]
    exact Heard.then_calm (tells_deleteTarget memory (Workspace.clouds_deleteImage _) _ _ _ _ _ bench attends) fun _ =>
      (calm_changeStatus _).bind fun _ => calm_changeStatus _
  · rw [if_neg named, if_neg named]
    exact ⟨attends, .done ()⟩

theorem heard_clearJob (memory : voice.recorder = .memory) (attends : Attends id bench) :
    Heard id
      (fun _ => if bench.image.status.jobId ≠ "" then
        [⟨id, .normal, "SuccessfulDeleteImageImportJob",
          "Deleted image import job " ++ Text.literal bench.image.status.jobId⟩] else [])
      (clearJob voice bench) := by
  unfold clearJob
  rw [Bench.current_then]
  by_cases named : bench.image.status.jobId ≠ ""
  · rw [if_pos named, if_pos named]
    exact Heard.then_calm (tells_deleteTarget memory (Workspace.clouds_deleteJob _) _ _ _ _ _ bench attends) fun _ =>
      calm_changeStatus _
  · rw [if_neg named, if_neg named]
    exact ⟨attends, .done ()⟩

/-- Each call is a delete, and is told of with one event; the last event is a warning if something fails. -/
structure Announced (id : ObjectId) (outcome : Outcome Bench α) : Prop where
  reports : List.Forall₂ (Announces id) outcome.calls outcome.events
  spoken : Spoken id outcome.result outcome.events

theorem Announced.bind {β : Type} {first : Attempt Bench α} {next : α → Attempt Bench β}
    (reported : Announced id (first bench))
    (later : ∀ value, (first bench).result = .ok value → Announced id (next value (first bench).state)) :
    Announced id ((first >>= next) bench) := by
  obtain ⟨reports, spoken⟩ := reported
  rcases ran : first bench with ⟨fault | value, middle, notes⟩
  · rw [ran] at reports spoken
    rw [bind_of_error ran]
    exact ⟨reports, spoken.of_error⟩
  · obtain ⟨then_reports, then_spoken⟩ := later value (congrArg Outcome.result ran)
    rw [ran] at spoken then_reports then_spoken
    refine ⟨?_, ?_⟩
    · rw [Attempt.calls_of_ok ran, events_of_ok ran]
      exact List.rel_append reports then_reports
    · rw [events_of_ok ran, bind_of_ok ran, ran]
      exact then_spoken.after spoken.good

/-- An attempt that goes well and calls no one has nothing to report. -/
theorem announced_of_calm {attempt : Attempt Bench α} (attends : Attends id bench) (calm : Bench.Calm id attempt)
    (idle : (attempt bench).calls = []) : Announced id (attempt bench) := by
  obtain ⟨value, after, notes, ran, -, silent⟩ := calm bench attends
  have events : (attempt bench).events = [] := by
    rw [ran]
    exact silent
  rw [ran] at idle events ⊢
  refine ⟨?_, ?_⟩
  · rw [idle, events]
    exact .nil
  · rw [events]
    exact .done value nofun

/-- What is told of clearing what a status names tells of each call that is made for it. -/
theorem Clears.announced {named : Prop} [Decidable named] {call : Call} {edit : Image.Status → Image.Status}
    {attempt : Attempt Bench Unit} {event : Event} (clears : Clears named call edit bench (attempt.bare bench))
    (heard : Heard id (fun _ => if named then [event] else []) (attempt bench)) (deletes : call.deletes = true)
    (good : event.IsGood id) : Announced id (attempt bench) := by
  have told := heard.told
  refine ⟨?_, told.spoken fun _ other said => ?_⟩
  · rw [← Attempt.bare_calls]
    rw [← Attempt.bare_result] at told
    generalize attempt.bare bench = outcome at clears told
    cases clears with
    | blank unnamed =>
      rw [told.speaks, if_neg unnamed]
      exact .nil
    | refused owed ends unsettled =>
      obtain ⟨reason, text, warned⟩ := told.warns
      rw [warned]
      exact .cons ⟨rfl, deletes, nofun, fun settles => absurd settles unsettled⟩ .nil
    | cleared owed settles =>
      rw [told.speaks, if_pos owed]
      exact .cons ⟨good.1, deletes, fun _ => settles, fun _ => good.2⟩ .nil
  · split at said
    · obtain rfl := List.mem_singleton.mp said
      exact good
    · cases said

/-- A pass over an image that is to be deleted tells of each delete. -/
theorem delete_announced (memory : voice.recorder = .memory) (attends : Attends id bench) :
    Announced id (delete voice bench) := by
  unfold delete
  rw [Bench.current_then]
  refine .bind (announced_of_calm attends (Bench.calm_log _ _ _) rfl) fun _ _ => ?_
  have image := heard_clearImage memory attends
  refine .bind ((clearImage_clears voice bench).clears.announced image rfl ⟨rfl, rfl⟩) fun _ _ => ?_
  have job := heard_clearJob memory image.attends
  refine .bind ((clearJob_clears voice _).clears.announced job rfl ⟨rfl, rfl⟩) fun _ _ => ?_
  refine .bind (announced_of_calm job.attends (Bench.calm_removeFinalizer _) ?_) fun _ _ => ⟨.nil, .done none nofun⟩
  rw [← Attempt.bare_calls, Bench.bare_removeFinalizer]
  rfl

/-! A pass over an image that is to be kept deletes nothing. -/

theorem Looks.harmless {outcome : Outcome Bench (Option Job)} (looked : Looks bench outcome) :
    outcome.calls.any (·.2.deletes) = false := by
  cases looked <;> rfl

theorem ensures_harmless {outcome : Outcome Bench Ensured} (ensured : Bench.Ensures bench outcome) :
    outcome.calls.any (·.2.deletes) = false := by
  cases ensured <;> rfl

theorem Normal.harmless {config : Config} {outcome : Outcome Bench Requeue} (normal : Normal config bench outcome) :
    ∀ made ∈ outcome.calls, made.2.deletes = false := by
  suffices none : outcome.calls.any (·.2.deletes) = false by simpa using none
  cases normal with
  | unasked looked | failed looked => exact looked.harmless
  | unsettled looked ensured | found looked ensured | created looked ensured | pending looked ensured =>
    rw [Outcome.calls, List.filterMap_append, List.any_append]
    exact Bool.or_eq_false_iff.mpr ⟨looked.harmless, ensures_harmless ensured⟩

theorem Concludes.good {after : Bench} {events : List Event} (concludes : Concludes bench after events) :
    ∀ event ∈ events, event.IsGood bench.image.id := by
  cases concludes with
  | found phase spared | created phase requested =>
    intro event told
    obtain rfl := List.mem_singleton.mp told
    exact ⟨rfl, rfl⟩
  | pending phase spared | failed phase spared => exact nofun

theorem Accounts.spoken {outcome : Outcome Bench Requeue} (accounts : Accounts bench outcome) :
    Spoken bench.image.id outcome.result outcome.events := by
  cases ended : outcome.result with
  | error fault =>
    obtain ⟨reason, text, warned⟩ := accounts.warned fault ended
    rw [warned]
    exact @Spoken.broken _ _ fault [] nofun reason text
  | ok requeue => exact .done requeue (accounts.concludes requeue ended).good

/-- What is heard of a pass. -/
structure Hears (bench : Bench) (outcome : Outcome Bench Requeue) : Prop where
  /-- Every event is one of the image's object. -/
  own : ∀ event ∈ outcome.events, event.subject = bench.image.id
  /-- There is a warning exactly if the pass fails. -/
  warned : (∃ event ∈ outcome.events, event.severity = .warning) ↔ ∃ fault, outcome.result = .error fault
  /-- Then it is the last event and the only warning, and ends with the text of the fault. -/
  last : ∀ fault, outcome.result = .error fault →
    ∃ earlier reason text, outcome.events = earlier ++ [⟨bench.image.id, .warning, reason, text ++ fault.message⟩] ∧
      ∀ event ∈ earlier, event.severity = .normal
  /-- Of each delete there is one event, which is normal exactly if the target is gone. -/
  reports : bench.image.deletionRequested = true → List.Forall₂ (Announces bench.image.id) outcome.calls outcome.events
  /-- An image that is to be kept is not deleted, and what came of it is told. -/
  kept : bench.image.deletionRequested = false →
    (∀ made ∈ outcome.calls, made.2.deletes = false) ∧
      ∀ requeue, outcome.result = .ok requeue → Concludes bench outcome.state outcome.events

theorem body_hears (config : Config) (memory : voice.recorder = .memory) (only : bench.workspace.OnlyCloud) :
    Hears bench (body config voice bench) := by
  have works := body_works config voice bench
  cases requested : bench.image.deletionRequested with
  | true =>
    have body : body config voice bench = delete voice bench := by
      rw [Pass.body, Bench.current_then, requested]
      rfl
    have reported := delete_announced memory ⟨rfl, only⟩
    rw [body]
    exact {
      own := reported.spoken.own
      warned := reported.spoken.warned_iff
      last := fun fault failed => reported.spoken.last failed
      reports := fun _ => reported.reports
      kept := fun kept => nomatch requested.symm.trans kept }
  | false =>
    have harmless := (works.normal requested).harmless
    rw [Attempt.bare_calls] at harmless
    have body : body config voice bench = normal config voice bench := by
      rw [Pass.body, Bench.current_then, requested]
      rfl
    rw [body] at harmless ⊢
    have accounts := normal_accounts config memory only
    exact {
      own := accounts.spoken.own
      warned := accounts.spoken.warned_iff
      last := fun fault failed => accounts.spoken.last failed
      reports := fun kept => nomatch requested.symm.trans kept
      kept := fun _ => ⟨harmless, accounts.concludes⟩ }

end Pass

end ImageOperator
