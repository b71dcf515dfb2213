import ImageOperator.Proofs.Scope.Clear
import ImageOperator.Proofs.Scope.Faults

set_option autoImplicit false

/-!
What a pass over an image that is to be deleted comes to, for every way in which its deletes can end. Each delete that
leaves its target gone is taken note of in the status, nothing else is, and the operator's finalizer goes with the
last one.
-/

namespace ImageOperator

namespace Workspace

/-- How a delete ends that is called in a workspace. -/
def ending (workspace : Workspace) : Call → Except Fault Unit
  | .deleteImage imageId => (deleteImage imageId workspace).result
  | .deleteJob jobId => (deleteJob jobId workspace).result
  | .listImages | .createJob _ | .latestJob _ => .ok ()

section

variable {workspace after : Workspace} {target : String} {result : Except Fault Unit} {notes : List Note}

theorem ending_deleteImage (called : (deleteImage target).bare workspace = ⟨result, after, notes⟩) :
    workspace.ending (.deleteImage target) = result := by
  rw [ending, ← Attempt.bare_result, called]

theorem ending_deleteJob (called : (deleteJob target).bare workspace = ⟨result, after, notes⟩) :
    workspace.ending (.deleteJob target) = result := by
  rw [ending, ← Attempt.bare_result, called]

end

end Workspace

namespace Pass

open Bench (settled)

/-- The ways of clearing what a status names with one call: nothing is named, or the call fails, or it leaves its
target gone. -/
inductive Clears (named : Prop) (call : Call) (edit : Image.Status → Image.Status) (bench : Bench) :
    Outcome Bench Unit → Prop
  | blank (unnamed : ¬ named) : Clears named call edit bench ⟨.ok (), bench, []⟩
  | refused {fault : Fault} {after : Workspace} (owed : named) (ends : bench.workspace.ending call = .error fault)
      (unsettled : ¬ bench.workspace.Settles call) :
      Clears named call edit bench ⟨.error fault, ⟨bench.image, after⟩, [.called bench.workspace call]⟩
  | cleared {after : Workspace} (owed : named) (settles : bench.workspace.Settles call) :
      Clears named call edit bench ⟨.ok (), ⟨bench.image.withStatus edit, after⟩, [.called bench.workspace call]⟩

theorem not_gone_of_settled {result : Except Fault Unit} {fault : Fault} (failed : settled result = .error fault) :
    ¬ Gone result := by
  rintro (rfl | ⟨other, rfl, absent⟩)
  · cases failed
  · simp only [settled, absent, ↓reduceIte] at failed
    cases failed

theorem ClearsImage.clears {bench : Bench} {outcome : Outcome Bench Unit} (clears : ClearsImage bench outcome) :
    Clears (bench.image.status.imageId ≠ "") (.deleteImage bench.image.status.imageId) (·.withoutImage) bench
      outcome := by
  cases clears with
  | blank unnamed => exact .blank (not_not_intro unnamed)
  | refused named called failed =>
    obtain ⟨rfl, -⟩ := Workspace.deleteImage_cases called
    have ends := Workspace.ending_deleteImage called
    have unsettled := not_gone_of_settled failed
    rw [← ends] at unsettled
    exact .refused named (ends.trans (Bench.error_of_settled failed)) unsettled
  | cleared named called done =>
    obtain ⟨rfl, -⟩ := Workspace.deleteImage_cases called
    have ends := Workspace.ending_deleteImage called
    have settles := gone_of_settled done
    rw [← ends] at settles
    exact .cleared named settles

theorem ClearsJob.clears {bench : Bench} {outcome : Outcome Bench Unit} (clears : ClearsJob bench outcome) :
    Clears (bench.image.status.jobId ≠ "") (.deleteJob bench.image.status.jobId) (·.withoutJob) bench outcome := by
  cases clears with
  | blank unnamed => exact .blank (not_not_intro unnamed)
  | refused named called failed =>
    obtain ⟨rfl, -⟩ := Workspace.deleteJob_within called
    have ends := Workspace.ending_deleteJob called
    have unsettled := not_gone_of_settled failed
    rw [← ends] at unsettled
    exact .refused named (ends.trans (Bench.error_of_settled failed)) unsettled
  | cleared named called done =>
    obtain ⟨rfl, -⟩ := Workspace.deleteJob_within called
    have ends := Workspace.ending_deleteJob called
    have settles := gone_of_settled done
    rw [← ends] at settles
    exact .cleared named settles

section

variable {named : Prop} {call : Call} {edit : Image.Status → Image.Status} {bench : Bench}
  {outcome : Outcome Bench Unit}

/-- The one call that there can be is owed, and leaves its target gone exactly if clearing is done. -/
theorem Clears.called (clears : Clears named call edit bench outcome) {workspace : Workspace} {other : Call}
    (noted : .called workspace other ∈ outcome.notes) :
    other = call ∧ named ∧ (workspace.Settles other ↔ outcome.result = .ok ()) ∧
      ∀ fault, outcome.result = .error fault → workspace.ending other = .error fault := by
  cases clears with
  | blank unnamed => cases noted
  | refused owed ends unsettled =>
    cases List.mem_singleton.mp noted
    refine ⟨rfl, owed, ⟨fun settles => absurd settles unsettled, nofun⟩, fun fault failed => ?_⟩
    cases failed
    exact ends
  | cleared owed settles =>
    cases List.mem_singleton.mp noted
    exact ⟨rfl, owed, ⟨fun _ => rfl, fun _ => settles⟩, nofun⟩

end

end Pass

namespace Image

/-- The operator's finalizer is on the image, and once only. -/
def GuardedOnce (image : Image) : Prop :=
  image.finalizers.countP ((Value.text finalizer).same ·) = 1

theorem GuardedOnce.isGuarded {image : Image} (once : image.GuardedOnce) : image.isGuarded = true := by
  have some : 0 < image.finalizers.countP ((Value.text finalizer).same ·) := by
    rw [once]
    exact Nat.one_pos
  obtain ⟨value, held, own⟩ := List.countP_pos_iff.mp some
  exact List.any_eq_true.mpr ⟨value, held, own⟩

theorem GuardedOnce.released {image : Image} (once : image.GuardedOnce) : image.released.isGuarded = false := by
  have none : image.released.finalizers.countP ((Value.text finalizer).same ·) = 0 := by
    change (image.finalizers.eraseP _).countP _ = 0
    rw [countP_eraseP, once]
  rw [List.countP_eq_zero] at none
  exact List.any_eq_false.mpr none

end Image

/-- Every call that is noted left its target gone. -/
def Untroubled (notes : List Note) : Prop :=
  ∀ workspace call, .called workspace call ∈ notes → workspace.Settles call

instance (notes : List Note) : Decidable (Untroubled notes) :=
  decidable_of_iff (∀ made ∈ notes.filterMap Note.call?, made.1.Settles made.2) <| by
    refine ⟨fun all workspace call noted => all _ (List.mem_filterMap.mpr ⟨_, noted, rfl⟩), fun calm made called => ?_⟩
    obtain ⟨note, noted, same⟩ := List.mem_filterMap.mp called
    cases note with
    | called workspace call =>
      obtain rfl := Option.some.inj same
      exact calm workspace call noted
    | fired | requested | recorded | logged | submitted => cases same

namespace Pass

/-- What a pass leaves of an image that is to be deleted, by what is noted of its calls and what it comes to. -/
structure Discards (image left : Image) (notes : List Note) (result : Except Fault Requeue) : Prop where
  /-- The job is dealt with after the image is gone. -/
  ordered : ∀ workspace jobId, .called workspace (.deleteJob jobId) ∈ notes → left.status.imageId = ""
  /-- No image is named any more exactly if none was, or its delete left it gone. -/
  imageGone : left.status.imageId = "" ∧ left.status.ready = false ↔
    image.status.imageId = "" ∨ Cleared notes (.deleteImage image.status.imageId)
  /-- No job is named any more exactly if none was, or no image is and the delete of the job left it gone. -/
  jobGone : left.status.jobId = "" ↔
    image.status.jobId = "" ∨ left.status.imageId = "" ∧ Cleared notes (.deleteJob image.status.jobId)
  /-- What was not cleared is as it was. -/
  kin : Image.Kin image left
  phase : left.status.phase = image.status.phase
  imageKept : left.status.imageId = "" ∨
    left.status.imageId = image.status.imageId ∧ left.status.ready = image.status.ready
  jobKept : left.status.jobId = "" ∨ left.status.jobId = image.status.jobId
  /-- The finalizer goes exactly if no call failed, and the pass is done then. -/
  released : left.isGuarded = false ↔ Untroubled notes
  done : Untroubled notes → result = .ok none
  /-- A call that fails has the pass fail in the same way. -/
  failed : ∀ workspace call, .called workspace call ∈ notes → ¬ workspace.Settles call →
    ∃ fault, workspace.ending call = .error fault ∧ result = .error fault

/-- Nothing but the calls among the notes matters. -/
theorem Discards.of_calls {image left : Image} {notes other : List Note} {result : Except Fault Requeue}
    (discards : Discards image left notes result)
    (same : ∀ workspace call, .called workspace call ∈ other ↔ .called workspace call ∈ notes) :
    Discards image left other result := by
  have cleared (call : Call) : Cleared other call ↔ Cleared notes call :=
    exists_congr fun workspace => and_congr_left' (same workspace call)
  have untroubled : Untroubled other ↔ Untroubled notes :=
    forall_congr' fun workspace => forall_congr' fun call => imp_congr_left (same workspace call)
  exact {
    ordered := fun workspace jobId noted => discards.ordered workspace jobId ((same _ _).mp noted)
    imageGone := discards.imageGone.trans (or_congr_right (cleared _).symm)
    jobGone := discards.jobGone.trans (or_congr_right (and_congr_right fun _ => (cleared _).symm))
    kin := discards.kin
    phase := discards.phase
    imageKept := discards.imageKept
    jobKept := discards.jobKept
    released := discards.released.trans untroubled.symm
    done := fun calm => discards.done (untroubled.mp calm)
    failed := fun workspace call noted => discards.failed workspace call ((same _ _).mp noted) }

theorem ready_of_blank {status : Image.Status} (consistent : status.isConsistent = true)
    (blank : status.imageId = "") : status.ready = false := by
  simpa [Image.Status.isConsistent, blank] using consistent

/-- What there is of an image once no image is named by its status. -/
structure Unimaged (image : Image) (notes : List Note) (left : Image) : Prop where
  blank : left.status.imageId = "" ∧ left.status.ready = false
  jobId : left.status.jobId = image.status.jobId
  phase : left.status.phase = image.status.phase
  finalizers : left.finalizers = image.finalizers
  kin : Image.Kin image left
  settled : ∀ workspace call, .called workspace call ∈ notes →
    call = .deleteImage image.status.imageId ∧ image.status.imageId ≠ "" ∧ workspace.Settles call
  cleared : image.status.imageId ≠ "" → Cleared notes (.deleteImage image.status.imageId)

theorem ClearsImage.unimaged {bench after : Bench} {notes : List Note}
    (clears : ClearsImage bench ⟨.ok (), after, notes⟩) (consistent : bench.image.status.isConsistent = true) :
    Unimaged bench.image notes after.image := by
  obtain ⟨blank, jobId, finalizers, cleared⟩ := clears.done
  have kin := clears.kin
  have calls (workspace : Workspace) (call : Call) (noted : .called workspace call ∈ notes) :
      call = .deleteImage bench.image.status.imageId ∧ bench.image.status.imageId ≠ "" ∧ workspace.Settles call := by
    obtain ⟨same, named, settles, -⟩ := clears.clears.called noted
    exact ⟨same, named, settles.mpr rfl⟩
  cases clears with
  | blank unnamed => exact ⟨⟨blank, ready_of_blank consistent blank⟩, jobId, rfl, finalizers, kin, calls, cleared⟩
  | cleared named called done => exact ⟨⟨rfl, rfl⟩, jobId, rfl, finalizers, kin, calls, cleared⟩

section

variable {bench : Bench}

theorem ClearsImage.discards {after : Bench} {fault : Fault} {notes : List Note}
    (clears : ClearsImage bench ⟨.error fault, after, notes⟩) (once : bench.image.GuardedOnce) :
    Discards bench.image after.image notes (.error fault) := by
  cases clears.clears with
  | refused owed ends unsettled =>
    have troubled : ¬ Untroubled [.called bench.workspace (.deleteImage bench.image.status.imageId)] :=
      fun calm => unsettled (calm _ _ (List.mem_singleton_self _))
    refine {
      ordered := fun workspace jobId noted => ?_
      imageGone := ⟨fun gone => absurd gone.1 owed, fun gone => ?_⟩
      jobGone := ⟨.inl, fun gone => ?_⟩
      kin := ⟨rfl, rfl, rfl, rfl⟩
      phase := rfl
      imageKept := .inr ⟨rfl, rfl⟩
      jobKept := .inr rfl
      released := ⟨fun lost => ?_, fun calm => absurd calm troubled⟩
      done := fun calm => absurd calm troubled
      failed := fun workspace call noted other => ?_ }
    · cases List.mem_singleton.mp noted
    · rcases gone with unnamed | ⟨workspace, noted, settles⟩
      · exact absurd unnamed owed
      · cases List.mem_singleton.mp noted
        exact absurd settles unsettled
    · rcases gone with unnamed | ⟨blank, -⟩
      · exact unnamed
      · exact absurd blank owed
    · have guarded : bench.image.isGuarded = true := once.isGuarded
      rw [guarded] at lost
      cases lost
    · cases List.mem_singleton.mp noted
      exact ⟨fault, ends, rfl⟩

variable {image : Image} {first : List Note}

theorem Unimaged.imageGone (unimaged : Unimaged image first bench.image) (more : List Note) :
    image.status.imageId = "" ∨ Cleared (first ++ more) (.deleteImage image.status.imageId) := by
  by_cases named : image.status.imageId = ""
  · exact .inl named
  · exact .inr ((unimaged.cleared named).left more)

/-- No call of a job is among those that clear the image. -/
theorem Unimaged.no_job (unimaged : Unimaged image first bench.image) {workspace : Workspace} {jobId : String} :
    .called workspace (.deleteJob jobId) ∉ first := by
  intro noted
  cases (unimaged.settled _ _ noted).1

theorem Unimaged.refused (unimaged : Unimaged image first bench.image) (once : image.GuardedOnce) {after : Bench}
    {fault : Fault} {second : List Note} (clears : ClearsJob bench ⟨.error fault, after, second⟩) :
    Discards image after.image (first ++ second) (.error fault) := by
  cases clears.clears with
  | refused owed ends unsettled =>
    have last : .called bench.workspace (.deleteJob bench.image.status.jobId) ∈
        first ++ [.called bench.workspace (.deleteJob bench.image.status.jobId)] :=
      List.mem_append_right _ (List.mem_singleton_self _)
    refine {
      ordered := fun _ _ _ => unimaged.blank.1
      imageGone := ⟨fun _ => unimaged.imageGone _, fun _ => unimaged.blank⟩
      jobGone := ⟨fun gone => absurd gone owed, fun gone => ?_⟩
      kin := unimaged.kin
      phase := unimaged.phase
      imageKept := .inl unimaged.blank.1
      jobKept := .inr unimaged.jobId
      released := ⟨fun lost => ?_, fun calm => absurd (calm _ _ last) unsettled⟩
      done := fun calm => absurd (calm _ _ last) unsettled
      failed := fun workspace call noted other => ?_ }
    · rcases gone with unnamed | ⟨-, workspace, noted, settles⟩
      · exact absurd (unimaged.jobId.trans unnamed) owed
      · rw [← unimaged.jobId] at noted settles
        rcases List.mem_append.mp noted with early | late
        · exact absurd early unimaged.no_job
        · cases List.mem_singleton.mp late
          exact absurd settles unsettled
    · have guarded : bench.image.isGuarded = true :=
        (Image.isGuarded_of_finalizers unimaged.finalizers).trans once.isGuarded
      rw [guarded] at lost
      cases lost
    · rcases List.mem_append.mp noted with early | late
      · exact absurd (unimaged.settled _ _ early).2.2 other
      · cases List.mem_singleton.mp late
        exact ⟨fault, ends, rfl⟩

theorem Unimaged.done (unimaged : Unimaged image first bench.image) (once : image.GuardedOnce) {after : Bench}
    {second : List Note} (clears : ClearsJob bench ⟨.ok (), after, second⟩) :
    Discards image after.image.released (first ++ second) (.ok none) := by
  obtain ⟨blank, imageId, cleared⟩ := clears.done
  have same : after.image.status.ready = bench.image.status.ready ∧
      after.image.status.phase = bench.image.status.phase := by
    cases clears <;> exact ⟨rfl, rfl⟩
  obtain ⟨ready, phase⟩ := same
  have calm : Untroubled (first ++ second) := by
    intro workspace call noted
    rcases List.mem_append.mp noted with early | late
    · exact (unimaged.settled _ _ early).2.2
    · exact (clears.clears.called late).2.2.1.mpr rfl
  have unnamed : after.image.status.imageId = "" := imageId.trans unimaged.blank.1
  have still : after.image.GuardedOnce := by
    rw [Image.GuardedOnce, clears.finalizers, unimaged.finalizers]
    exact once
  refine {
    ordered := fun _ _ _ => unnamed
    imageGone := ⟨fun _ => unimaged.imageGone _, fun _ => ⟨unnamed, ready.trans unimaged.blank.2⟩⟩
    jobGone := ⟨fun _ => ?_, fun _ => blank⟩
    kin := (unimaged.kin.trans clears.kin).trans (Image.kin_released _)
    phase := phase.trans unimaged.phase
    imageKept := .inl unnamed
    jobKept := .inl blank
    released := ⟨fun _ => calm, fun _ => still.released⟩
    done := fun _ => rfl
    failed := fun workspace call noted other => absurd (calm workspace call noted) other }
  · by_cases owed : image.status.jobId = ""
    · exact .inl owed
    · rw [← unimaged.jobId] at owed ⊢
      exact .inr ⟨unnamed, (cleared owed).right first⟩

/-- Whatever becomes of its deletes, a pass takes note of what they did and of nothing else. -/
theorem Deletes.discards {outcome : Outcome Bench Requeue} (deletes : Deletes bench outcome)
    (consistent : bench.image.status.isConsistent = true) (once : bench.image.GuardedOnce) :
    Discards bench.image outcome.state.image outcome.notes outcome.result := by
  cases deletes with
  | imageRefused image => exact image.discards once
  | jobRefused image job => exact (image.unimaged consistent).refused once job
  | cleared image job => exact (image.unimaged consistent).done once job

end

theorem ClearsImage.isConsistent {bench after : Bench} {notes : List Note}
    (clears : ClearsImage bench ⟨.ok (), after, notes⟩) (consistent : bench.image.status.isConsistent = true) :
    after.image.status.isConsistent = true := by
  cases clears with
  | blank unnamed => exact consistent
  | cleared named called done => rfl

/-- A pass that deletes leaves a consistent status so. -/
theorem Deletes.isConsistent {bench : Bench} {outcome : Outcome Bench Requeue} (deletes : Deletes bench outcome)
    (consistent : bench.image.status.isConsistent = true) : outcome.state.image.status.isConsistent = true := by
  cases deletes with
  | imageRefused image =>
    rw [image.refused_image]
    exact consistent
  | jobRefused image job | cleared image job => exact job.isConsistent.trans (image.isConsistent consistent)

/-- Nor does it put a finalizer on. -/
theorem Deletes.sublist {bench : Bench} {outcome : Outcome Bench Requeue} (deletes : Deletes bench outcome) :
    outcome.state.image.finalizers.Sublist bench.image.finalizers := by
  cases deletes with
  | imageRefused image =>
    have same := congrArg Image.finalizers image.refused_image
    exact same ▸ List.Sublist.refl _
  | jobRefused image job =>
    have same := job.finalizers.trans image.done.2.2.1
    exact same ▸ List.Sublist.refl _
  | cleared image job =>
    have same := job.finalizers.trans image.done.2.2.1
    exact same ▸ List.eraseP_sublist

/-- Of a single finalizer it leaves that or none. -/
theorem Deletes.single {bench : Bench} {outcome : Outcome Bench Requeue} (deletes : Deletes bench outcome)
    {finalizer : Value} (single : bench.image.finalizers = [finalizer]) :
    outcome.state.image.finalizers = [] ∨ outcome.state.image.finalizers = [finalizer] := by
  have sublist := deletes.sublist
  rw [single] at sublist
  generalize outcome.state.image.finalizers = left at sublist
  cases sublist with
  | cons _ none => exact .inl (List.sublist_nil.mp none)
  | cons_cons _ none => exact .inr (by rw [List.sublist_nil.mp none])

/-- It calls nothing but deletes of what the status names. -/
theorem Deletes.calls {bench : Bench} {outcome : Outcome Bench Requeue} (deletes : Deletes bench outcome)
    {workspace : Workspace} {call : Call} (noted : .called workspace call ∈ outcome.notes) :
    bench.image.status.Holds call := by
  have image_holds {outcome : Outcome Bench Unit} (clears : ClearsImage bench outcome)
      (noted : .called workspace call ∈ outcome.notes) : bench.image.status.Holds call := by
    obtain ⟨rfl, named, -⟩ := clears.clears.called noted
    exact .image named
  cases deletes with
  | imageRefused image => exact image_holds image noted
  | jobRefused image job | cleared image job =>
    rcases List.mem_append.mp noted with early | late
    · exact image_holds image early
    · obtain ⟨rfl, named, -⟩ := job.clears.called late
      have same := image.done.2.1
      rw [same] at named ⊢
      exact .job named

end Pass

end ImageOperator
