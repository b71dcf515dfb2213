import ImageOperator.Proofs.Scope.Decide
import ImageOperator.Proofs.Session.Completes
import ImageOperator.Proofs.Session.Noted

set_option autoImplicit false

/-!
Passes that break off. The first call that fails ends a pass over an image that is to be kept: its fault is what the pass
answers, the image is written back with the finalizer and nothing else on it, and nothing came of it in the cloud.
-/

namespace ImageOperator

namespace Workspace

/-- There is as much in a workspace as before. -/
structure Unmoved (before after : Workspace) : Prop where
  images : after.images = before.images
  jobs : after.jobs = before.jobs
  requests : after.requests = before.requests

theorem Unmoved.refl (workspace : Workspace) : Unmoved workspace workspace :=
  ⟨rfl, rfl, rfl⟩

theorem Unmoved.trans {before middle after : Workspace} (first : Unmoved before middle)
    (second : Unmoved middle after) : Unmoved before after :=
  ⟨second.images.trans first.images, second.jobs.trans first.jobs, second.requests.trans first.requests⟩

end Workspace

open Workspace (Unmoved)

theorem Image.guarded_differs (image : Image) :
    image.guarded = image ∨
      image.guarded = { image with finalizers := image.finalizers ++ [.text Image.finalizer] } := by
  unfold guarded addFinalizer
  split
  · exact .inl rfl
  · exact .inr rfl

theorem Bench.Ensures.unmoved {bench after : Bench} {fault : Fault} {notes : List Note}
    (ensured : Bench.Ensures bench ⟨.error fault, after, notes⟩) : Unmoved bench.workspace after.workspace := by
  obtain ⟨jobs, requests⟩ := ensured.spared nofun
  exact ⟨ensured.images, jobs, requests⟩

namespace Pass

variable {config : Config} {bench after : Bench} {fault : Fault} {notes : List Note}

theorem Looks.unmoved {outcome : Outcome Bench (Option Job)} (looked : Looks bench outcome) :
    Unmoved bench.workspace outcome.state.workspace := by
  cases looked <;> exact ⟨rfl, rfl, rfl⟩

/-- What a pass that breaks off leaves of its image and its workspace. -/
theorem Normal.broken (normal : Normal config bench ⟨.error fault, after, notes⟩) :
    after.image = bench.image.guarded ∧ Unmoved bench.workspace after.workspace := by
  cases normal with
  | unasked looked => exact ⟨rfl, looked.unmoved⟩
  | unsettled looked ensured => exact ⟨rfl, looked.unmoved.trans ensured.unmoved⟩

/-- A pass over an image that is to be kept ends with the fault of a call that fails. -/
theorem body_of_fault {voice : Voice} {workspace : Workspace} {call : Call}
    (kept : bench.image.deletionRequested = false) (made : .called workspace call ∈ (body config voice bench).notes)
    (failed : workspace.fault? call.operation = some fault) :
    (body config voice bench).result = .error fault ∧
      (body config voice bench).state.image = bench.image.guarded ∧
      Unmoved bench.workspace (body config voice bench).state.workspace := by
  have normal : Normal config bench ((body config voice).bare bench) := body_of_kept kept
  have heeded : Attempt.Heeded ((body config voice).bare bench) := by
    unfold body
    rw [Attempt.bare_bind, Bench.bare_current, Bench.current_then, kept]
    exact heeds_normal config voice bench
  obtain ⟨result, -⟩ := heeded.ends ((Attempt.mem_bare_notes rfl).mpr made) failed
  rw [← Attempt.bare_result, ← Attempt.bare_state]
  generalize (body config voice).bare bench = worked at normal result
  obtain ⟨_, after, notes⟩ := worked
  cases result
  exact ⟨rfl, normal.broken⟩

end Pass

namespace Session

variable {id : ObjectId} {session : Session} {image : Image} {workspace : Workspace} {call : Call} {fault : Fault}

/-- A pass that broke off with a fault, and what it left of its object: nothing came of it but the finalizer. -/
structure OnlyGuards (session : Session) (id : ObjectId) (image left : Image) (fault : Fault)
    (pass : Outcome Session Pass.Requeue) : Prop where
  answered : pass.result = .error fault
  stored : pass.state.stored? id = some left
  status : left.status = image.status
  differs : left = image ∨ left = { image with finalizers := image.finalizers ++ [.text Image.finalizer] }
  /-- Everyone who listens for it is told once that the image was persisted, and nobody of anything else. -/
  told : pass.notes.filter Note.isFired =
    (session.store.audience.registered .persisted).map fun registration =>
      .fired registration.listener .persisted left.id left
  others : ∀ other, other.key? ≠ id.key? → pass.state.stored? other = session.stored? other
  cloud : ∀ name, Unmoved (session.workspace name) (pass.state.workspace name)

theorem mem_of_deeds {name : String} {outcome : Outcome Bench Pass.Requeue}
    (noted : .called workspace call ∈ deeds (.ok (name, outcome))) : .called workspace call ∈ outcome.notes := by
  rcases List.mem_append.mp noted with worked | handed
  · exact (List.mem_filter.mp worked).1
  · obtain ⟨_, _, other⟩ := List.mem_map.mp handed
    cases other

/-- The work of a pass on which a call fails. -/
theorem worked_of_fault {key : ObjectKey} (known : id.key? = some key)
    (held : session.scene.objects.get? key = some image) (kept : image.deletionRequested = false)
    (made : .called workspace call ∈ (reconcile id session).notes)
    (failed : workspace.fault? call.operation = some fault) :
    ∃ name outcome, session.worked image = .ok (name, outcome) ∧ outcome.result = .error fault ∧
      outcome.state.image = image.guarded ∧ Unmoved (session.workspace name) outcome.state.workspace := by
  have noted : .called workspace call ∈ deeds (session.worked image) :=
    reconcile_noted known held ▸ (Attempt.mem_bare_notes rfl).mpr made
  cases ran : session.worked image with
  | error other =>
    rw [ran] at noted
    cases noted
  | ok work =>
    obtain ⟨name, outcome⟩ := work
    obtain ⟨served, voice, rfl⟩ := worked_ok ran
    have called := mem_of_deeds (ran ▸ noted)
    let bench : Bench := ⟨image, session.workspace name⟩
    have kept_there : bench.image.deletionRequested = false := kept
    exact ⟨name, _, rfl, Pass.body_of_fault kept_there called failed⟩

/-- Take an object of a consistent status that is not to be deleted. A pass over it on which a call fails, in any state
of the cloud, and whose image the store takes, answers the fault of that call, and nothing comes of it but the
finalizer. -/
theorem broken_pass_only_guards (filed : session.Filed) (stored : session.stored? id = some image)
    (kept : image.deletionRequested = false) (consistent : image.status.isConsistent = true)
    (made : .called workspace call ∈ (reconcile id session).notes)
    (failed : workspace.fault? call.operation = some fault)
    (written : ∀ handed, .submitted handed ∈ (reconcile id session).notes →
      (Depot.persist handed session.store).result = .ok ()) :
    ∃ left, OnlyGuards session id image left fault (reconcile id session) := by
  obtain ⟨key, known, held⟩ := Option.bind_eq_some_iff.mp stored
  obtain ⟨name, outcome, ran, result, left, unmoved⟩ := worked_of_fault known held kept made failed
  have sound : image.guarded.isConsistent = true := (congrArg _ image.guarded_status).trans consistent
  have back : session.handsBack? image = some image.guarded := by
    rw [handsBack?_worked, ran]
    exact Option.filter_eq_some_iff.mpr ⟨congrArg some left, sound⟩
  have taken := written image.guarded (submitted_of_handsBack known held back)
  have staying : Depot.leaves image.guarded = false := by
    rw [Depot.leaves, image.guarded_deletionRequested, kept, Bool.false_and]
  have passes := reconcile_passes (filed.depot session.current) known held
  refine ⟨image.guarded, {
    answered := ?_
    stored := ?_
    status := image.guarded_status
    differs := image.guarded_differs
    told := ?_
    others := fun other apart => ?_
    cloud := fun other => ?_ }⟩
  · rw [reconcile_answers_of_worked known held ran (left.symm ▸ sound), left, taken]
    exact result
  · rw [(reconcile_taken (filed.depot session.current) stored back taken).stored, staying]
    rfl
  · have told := (reconcile_handsOver known held name_of_client).told
    rw [back, handOver, Depot.persist_fired taken, Depot.told, staying] at told
    exact told
  · cases other_known : other.key? with
    | none => simp only [stored?, other_known, Option.bind_none]
    | some otherKey =>
      have different : otherKey ≠ key := fun same => apart (by rw [other_known, known, same])
      simp only [stored?, other_known, Option.bind_some]
      exact passes.stored different
  · rw [passes.workspaces, ran]
    by_cases own : other = name
    · rw [own]
      exact (Scene.withWorkspace_self session.scene name _).symm ▸ unmoved
    · exact (Scene.withWorkspace_of_ne session.scene _ own).symm ▸ .refl _

/-- The images cannot be listed when the image is seen for the first time. -/
def unanswered : Session := Trial.first.after [Trial.add "m", Trial.failing .listImages]

theorem broken_pass_only_guards_of_unanswered :
    ∃ image left, unanswered.stored? (Trial.id "m") = some image ∧ image.finalizers = [] ∧
      image.status.isConsistent = true ∧
      OnlyGuards unanswered (Trial.id "m") image left (.call "list_images" (some "down"))
        (reconcile (Trial.id "m") unanswered) := by
  have held : ∃ image, unanswered.stored? (Trial.id "m") = some image ∧ image.finalizers = [] ∧
      image.deletionRequested = false ∧ image.status.isConsistent = true := ⟨_, rfl, rfl, rfl, rfl⟩
  obtain ⟨image, stored, bare, kept, consistent⟩ := held
  obtain ⟨key, known, there⟩ := Option.bind_eq_some_iff.mp stored
  have filed : unanswered.Filed := after_filed (start_filed Trial.settings) _
  have called : (unanswered.workspace "w", Call.listImages) ∈ (reconcile (Trial.id "m") unanswered).calls :=
    List.mem_singleton.mpr rfl
  obtain ⟨note, made, same⟩ := List.mem_filterMap.mp called
  obtain rfl := Note.call?_eq_some.mp same
  have failed : (unanswered.workspace "w").fault? .listImages = some (.call "list_images" (some "down")) := rfl
  obtain ⟨left, only⟩ := broken_pass_only_guards filed stored kept consistent made failed fun handed submitted =>
    persist_of_handsBack rfl filed stored (handsBack?_of_submitted known there submitted)
  exact ⟨image, left, stored, bare, consistent, only⟩

end Session

end ImageOperator
