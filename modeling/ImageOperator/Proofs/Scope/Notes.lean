import ImageOperator.Proofs.Journal.Recorder
import ImageOperator.Scope.Pass

set_option autoImplicit false

/-!
What a pass notes before it is written back: the calls that it makes, every one of which its workspace writes down,
and what is only told. Nothing is handed to a store, and no store tells anything.
-/

namespace ImageOperator

namespace Workspace

open Attempt (calls_fail calls_pure calls_read calls_update calls_log)

/-- A call is noted and written down, whether or not it fails then. -/
theorem calls_receive (call : Call) : (receive call).Calls Workspace.calls := by
  intro workspace
  have ran : (receive call workspace).state = workspace.written call ∧
      (receive call workspace).notes = [.called workspace call] := by
    unfold receive
    rw [Attempt.read_then, Attempt.note_then, Attempt.update_then]
    cases workspace.fault? call.operation <;> exact ⟨rfl, rfl⟩
  rw [ran.1, ran.2]
  exact ⟨rfl, rfl⟩

theorem calls_listImages : listImages.Calls Workspace.calls :=
  (calls_receive _).bind fun _ => (calls_read _).bind fun _ => calls_pure _ _

theorem calls_createJob (request : ImportRequest) : (createJob request).Calls Workspace.calls := by
  refine (calls_receive _).bind fun _ => (calls_read _).bind fun workspace => ?_
  exact Attempt.Calls.bind (calls_update fun _ => rfl) fun _ => (calls_log _ _ _ _).bind fun _ => calls_pure _ _

theorem calls_latestJob (instanceId : String) : (latestJob instanceId).Calls Workspace.calls :=
  (calls_receive _).bind fun _ => (calls_read _).bind fun _ => calls_pure _ _

theorem calls_deleteImage (imageId : String) : (deleteImage imageId).Calls Workspace.calls := by
  refine (calls_receive _).bind fun _ => (calls_read _).bind fun workspace => ?_
  split
  · exact calls_update fun _ => rfl
  · exact calls_fail _ _

theorem calls_deleteJob (jobId : String) : (deleteJob jobId).Calls Workspace.calls := by
  refine (calls_receive _).bind fun _ => (calls_read _).bind fun workspace => ?_
  split
  · exact calls_update fun _ => rfl
  · exact calls_fail _ _

end Workspace

namespace Bench

open Attempt (calls_fail calls_pure calls_read calls_update calls_note calls_log)

variable {α : Type}

/-- The calls that are written down in the workspace of a bench. -/
def callLog (bench : Bench) : List Call :=
  bench.workspace.calls

theorem calls_call {attempt : Attempt Workspace α} (calls : attempt.Calls Workspace.calls) :
    (call attempt).Calls callLog :=
  fun bench => calls bench.workspace

theorem calls_current : current.Calls callLog :=
  (calls_read _).bind fun _ => calls_pure _ _

theorem calls_change (edit : Image → Image) : (change edit).Calls callLog :=
  calls_update fun _ => rfl

theorem calls_setReady (ready : Bool) : (setReady ready).Calls callLog := calls_change _

theorem calls_setImageId (imageId : String) : (setImageId imageId).Calls callLog := calls_change _

theorem calls_setPhase (phase : Phase) : (setPhase phase).Calls callLog := calls_change _

theorem calls_setJobId (jobId : String) : (setJobId jobId).Calls callLog := calls_change _

theorem calls_tell (voice : Voice) (severity : Severity) (reason message : String) :
    (tell voice severity reason message).Calls callLog := by
  exact (calls_read _).bind fun bench =>
    calls_note (Recorder.filterMap_made?_notes _ _ _) (Recorder.filter_isOfStore_notes _ _ _)

theorem calls_say (voice : Voice) (level : Level) (message : String) : (say voice level message).Calls callLog :=
  calls_log _ _ _ _

theorem calls_warned (voice : Voice) (reason : String) (wording : Fault → String) {attempt : Attempt Bench α}
    (calls : attempt.Calls callLog) : (warned voice reason wording attempt).Calls callLog := by
  refine calls.tried.bind fun result => ?_
  cases result with
  | ok value => exact calls_pure _ _
  | error fault =>
    dsimp only
    split
    · exact (calls_tell voice _ _ _).bind fun _ => calls_fail _ _
    · exact calls_fail _ _

theorem calls_findImage (voice : Voice) (name : Value) : (findImage voice name).Calls callLog := by
  refine (calls_call Workspace.calls_listImages).bind fun images => ?_
  cases images.filter (·.name.same name) with
  | nil => exact calls_pure _ _
  | cons image others =>
    dsimp only
    split
    · exact (calls_say voice _ _).bind fun _ => calls_pure _ _
    · exact calls_pure _ _

theorem calls_latestJob (voice : Voice) : (latestJob voice).Calls callLog :=
  calls_current.bind fun _ => calls_warned voice _ _ (calls_call (Workspace.calls_latestJob _))

theorem calls_createJob (voice : Voice) : (createJob voice).Calls callLog := by
  refine calls_current.bind fun image => ?_
  refine (calls_call (Workspace.calls_createJob _)).tried.bind fun result => ?_
  cases result with
  | ok jobId => exact (calls_say voice _ _).bind fun _ => (calls_tell voice _ _ _).bind fun _ => calls_pure _ _
  | error fault =>
    dsimp only
    split
    · exact (calls_say voice _ _).bind fun _ => (calls_tell voice _ _ _).bind fun _ => calls_fail _ _
    · exact calls_fail _ _

theorem calls_ensureImage (voice : Voice) : (ensureImage voice).Calls callLog := by
  refine calls_current.bind fun image => ?_
  refine (calls_warned voice _ _ (calls_findImage voice _)).bind fun listed => ?_
  cases listed with
  | some found => exact (calls_say voice _ _).bind fun _ => (calls_tell voice _ _ _).bind fun _ => calls_pure _ _
  | none =>
    refine (calls_latestJob voice).bind fun latest => ?_
    cases latest with
    | none => exact calls_createJob voice
    | some job =>
      dsimp only
      split
      · exact calls_createJob voice
      · exact (calls_say voice _ _).bind fun _ => calls_pure _ _

theorem calls_deleteTarget (voice : Voice) {attempt : Attempt Workspace Unit}
    (calls : attempt.Calls Workspace.calls) (gone failedReason failedText doneReason doneText : String) :
    (deleteTarget voice attempt gone failedReason failedText doneReason doneText).Calls callLog := by
  refine (calls_call calls).tried.bind fun result => ?_
  have told : (tell voice .normal doneReason doneText).Calls callLog := calls_tell voice _ _ _
  cases result with
  | ok done => exact told
  | error fault =>
    by_cases absent : fault.category = .cloudAbsent
    · simp only [absent, ↓reduceIte]
      exact (calls_say voice _ _).bind fun _ => told
    · simp only [absent, ↓reduceIte]
      have failing : (Attempt.fail fault >>= fun _ : Unit => tell voice .normal doneReason doneText).Calls callLog :=
        (calls_fail _ _).bind fun _ => told
      split
      · exact (calls_tell voice _ _ _).bind fun _ => failing
      · exact failing

theorem calls_deleteImage (voice : Voice) : (deleteImage voice).Calls callLog :=
  calls_current.bind fun _ => calls_deleteTarget voice (Workspace.calls_deleteImage _) _ _ _ _ _

theorem calls_deleteJob (voice : Voice) : (deleteJob voice).Calls callLog :=
  calls_current.bind fun _ => calls_deleteTarget voice (Workspace.calls_deleteJob _) _ _ _ _ _

theorem calls_addFinalizer (name : Value) : (addFinalizer name).Calls callLog := by
  refine calls_current.bind fun image => ?_
  unfold Image.withFinalizer
  cases image.hasFinalizer name <;> exact (calls_note (by rfl) (by rfl)).bind fun _ => calls_change _

theorem calls_removeFinalizer (name : Value) : (removeFinalizer name).Calls callLog := by
  refine calls_current.bind fun image => ?_
  unfold Image.withoutFinalizer
  cases image.hasFinalizer name <;> exact (calls_note (by rfl) (by rfl)).bind fun _ => calls_change _

end Bench

namespace Pass

open Attempt (calls_pure calls_log)
open Bench (callLog calls_current calls_setReady calls_setImageId calls_setPhase calls_setJobId)

theorem calls_failedJob (voice : Voice) : (failedJob voice).Calls callLog := by
  refine calls_current.bind fun image => ?_
  dsimp only
  split
  · refine (Bench.calls_latestJob voice).bind fun latest => ?_
    cases latest <;> exact calls_pure _ _
  · exact calls_pure _ _

theorem calls_markFailed (config : Config) (job : Job) : (markFailed config job).Calls callLog := by
  refine calls_current.bind fun _ => (calls_log _ _ _ _).bind fun _ => ?_
  exact (calls_setReady _).bind fun _ => (calls_setPhase _).bind fun _ => calls_pure _ _

theorem calls_markFound (found : CloudImage) : (markFound found).Calls callLog := by
  refine (calls_setImageId _).bind fun _ => (calls_setReady _).bind fun _ => (calls_setPhase _).bind fun _ => ?_
  exact calls_current.bind fun _ => (calls_log _ _ _ _).bind fun _ => calls_pure _ _

theorem calls_dropImageId : dropImageId.Calls callLog := by
  refine calls_current.bind fun image => ?_
  split
  · exact (calls_log _ _ _ _).bind fun _ => calls_setImageId _
  · exact calls_pure _ _

theorem calls_trackPending (job : Job) : (trackPending job).Calls callLog := by
  refine calls_current.bind fun image => (calls_log _ _ _ _).bind fun _ => ?_
  split
  · exact calls_setJobId _
  · exact calls_pure _ _

theorem calls_markImporting (config : Config) : (markImporting config).Calls callLog :=
  (calls_setReady _).bind fun _ => (calls_setPhase _).bind fun _ => calls_pure _ _

theorem calls_normal (config : Config) (voice : Voice) : (normal config voice).Calls callLog := by
  refine (Bench.calls_addFinalizer _).bind fun _ => (calls_failedJob voice).bind fun failed => ?_
  cases failed with
  | some job => exact calls_markFailed config job
  | none =>
    refine (Bench.calls_ensureImage voice).bind fun ensured => ?_
    cases ensured with
    | found found => exact calls_markFound found
    | created jobId =>
      exact calls_dropImageId.bind fun _ => (calls_setJobId _).bind fun _ => calls_markImporting config
    | pending job =>
      exact calls_dropImageId.bind fun _ => (calls_trackPending job).bind fun _ => calls_markImporting config

theorem calls_clearImage (voice : Voice) : (clearImage voice).Calls callLog := by
  refine calls_current.bind fun image => ?_
  split
  · exact (Bench.calls_deleteImage voice).bind fun _ => (calls_setReady _).bind fun _ => calls_setImageId _
  · exact calls_pure _ _

theorem calls_clearJob (voice : Voice) : (clearJob voice).Calls callLog := by
  refine calls_current.bind fun image => ?_
  split
  · exact (Bench.calls_deleteJob voice).bind fun _ => calls_setJobId _
  · exact calls_pure _ _

theorem calls_delete (voice : Voice) : (delete voice).Calls callLog := by
  refine calls_current.bind fun _ => (calls_log _ _ _ _).bind fun _ => (calls_clearImage voice).bind fun _ => ?_
  exact (calls_clearJob voice).bind fun _ => (Bench.calls_removeFinalizer _).bind fun _ => calls_pure _ _

theorem calls_body (config : Config) (voice : Voice) : (body config voice).Calls callLog := by
  refine calls_current.bind fun image => ?_
  split
  · exact calls_delete voice
  · exact calls_normal config voice

end Pass

end ImageOperator
