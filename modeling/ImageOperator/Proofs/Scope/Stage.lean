import ImageOperator.Proofs.Scope.Advance

set_option autoImplicit false

namespace ImageOperator

open Workspace (Alike Named Numbered)

namespace Workspace

/-- No job is on its way that a client could be told of. -/
def Free (workspace : Workspace) : Prop :=
  ∀ job, workspace.latest? = some job → job.state.isTerminal = true

/-- The ways of completing the latest job of a workspace where it is still on its way. -/
inductive Completes (workspace : Workspace) : Workspace → Prop
  | ended (free : workspace.Free) : Completes workspace workspace
  | completed {job : Job} {record : JobRecord} (latest : workspace.latest? = some job)
      (running : job.state.isTerminal = false) (known : workspace.record? job.jobId = some record) :
      Completes workspace ((workspace.setJob job.jobId .completed none).addImage record.request.imageName "").2

variable {workspace later : Workspace}

theorem latest?_setJob {job : Job} (latest : workspace.latest? = some job) (state : JobState)
    (message : Option String) :
    (workspace.setJob job.jobId state message).latest? = some { job with state, message } := by
  obtain ⟨record, last, rfl⟩ := Option.map_eq_some_iff.mp latest
  simp [latest?, setJob, List.getLast?_map, last]

theorem Completes.latest? (completes : Completes workspace later) {job : Job} (latest : later.latest? = some job) :
    job.state.isTerminal = true ∧ (workspace.latest? = some job ∨ job.state = .completed) := by
  cases completes with
  | ended free => exact ⟨free job latest, .inl latest⟩
  | completed before running known =>
    have completed := latest?_setJob before .completed none
    rw [Workspace.latest?, addImage_jobs, ← Workspace.latest?, completed] at latest
    obtain rfl := Option.some.inj latest
    exact ⟨rfl, .inr rfl⟩

theorem Completes.images (completes : Completes workspace later) :
    ∃ new, later.images = workspace.images ++ new := by
  cases completes with
  | ended free => exact ⟨[], (List.append_nil _).symm⟩
  | completed latest running known => exact ⟨_, rfl⟩

theorem Completes.turns (completes : Completes workspace later) :
    ∃ command notes, Turns workspace command later notes := by
  cases completes with
  | ended free => exact ⟨.listImages, [], .rests (.refl _) (noted_nil _ _)⟩
  | completed latest running known => exact ⟨_, [], .jobCompleted known⟩

end Workspace

open Workspace (Completes Free)

namespace Bench

variable {image : Image} {workspace later : Workspace}

theorem match?_of_completes (completes : Completes workspace later) {found : CloudImage}
    (first : (Bench.mk image workspace).match? = some found) : (Bench.mk image later).match? = some found := by
  obtain ⟨new, images⟩ := completes.images
  have listed : workspace.images.find? (·.name.same image.name) = some found := first
  change later.images.find? _ = some found
  rw [images, List.find?_append, listed]
  rfl

/-- A job that was completed did not fail. -/
theorem seesFailure_of_completes (completes : Completes workspace later)
    (unseen : (Bench.mk image workspace).seesFailure = false) : (Bench.mk image later).seesFailure = false := by
  refine Bool.eq_false_iff.mpr fun seen => ?_
  obtain ⟨tracked, job, told, own, failed⟩ := seesFailure_iff.mp seen
  obtain ⟨instanceId, latest⟩ := latest?_eq_some.mp told
  obtain ⟨command, notes, turns⟩ := completes.turns
  rcases (completes.latest? latest).2 with before | completed
  · have told_before : (Bench.mk image workspace).latest? = some job :=
      latest?_eq_some.mpr ⟨instanceId.trans turns.lasting.1, before⟩
    have seen_before : (Bench.mk image workspace).seesFailure = true :=
      seesFailure_iff.mpr ⟨tracked, job, told_before, own, failed⟩
    rw [unseen] at seen_before
    cases seen_before
  · rw [failed] at completed
    cases completed

end Bench

namespace Pass

/-- How far an import has come: a failure that was not seen yet may stand in the way, then a job of someone else, and
then the image is listed and only has to be recorded. -/
inductive Stage (bench : Bench) : Nat → Prop
  | begun : Stage bench 0
  | free (unseen : bench.seesFailure = false) (free : bench.match? = none → bench.workspace.Free) : Stage bench 1
  | listed {found : CloudImage} (unseen : bench.seesFailure = false) (first : bench.match? = some found) : Stage bench 2
  | recorded {found : CloudImage} (first : bench.match? = some found) (guarded : bench.image.isGuarded = true)
      (status : bench.image.status = bench.image.status.available found.imageId) : Stage bench 3

variable {bench middle : Bench} {later : Workspace} {reach asked : Nat}

theorem Stage.unseen (reached : Stage bench (reach + 1)) : bench.seesFailure = false := by
  cases reached with
  | free unseen free => exact unseen
  | listed unseen first => exact unseen
  | recorded first guarded status => exact (Settled.recorded first guarded status).unseen

theorem Stage.lower (reached : Stage bench (reach + 1)) : Stage bench reach := by
  have unseen := reached.unseen
  cases reached with
  | free _ free => exact .begun
  | listed _ first =>
    refine .free unseen fun absent => ?_
    rw [first] at absent
    cases absent
  | recorded first guarded status => exact .listed unseen first

theorem Stage.of_le {lower : Nat} (reached : Stage bench reach) (below : lower ≤ reach) : Stage bench lower := by
  induction below with
  | refl => exact reached
  | step below ih => exact ih reached.lower

theorem Stage.le_one (reached : Stage bench reach) (absent : bench.match? = none) : reach ≤ 1 := by
  cases reached with
  | begun => exact Nat.zero_le 1
  | free unseen free => exact Nat.le_refl 1
  | listed unseen first | recorded first guarded status =>
    rw [absent] at first
    cases first

theorem Stage.free_of_absent (reached : Stage bench (reach + 1)) (absent : bench.match? = none) :
    bench.workspace.Free := by
  cases reached with
  | free unseen free => exact free absent
  | listed unseen first | recorded first guarded status =>
    rw [absent] at first
    cases first

/-- The image of a job that was created and completed is listed under the name that it was asked for with. -/
theorem match?_of_created {image : Image} {workspace : Workspace} (alike : Alike bench.imported.workspace workspace)
    (completes : Completes workspace later) (numbered : Numbered bench.workspace)
    (itself : bench.image.name.same bench.image.name = true) (name : image.name = bench.image.name) :
    ∃ found, (Bench.mk image later).match? = some found := by
  have created : workspace.latest? = some ⟨Workspace.jobIdOf (bench.workspace.serial + 1), .queued, none⟩ :=
    alike.latest?.trans (Workspace.latest?_withJob bench.workspace _)
  cases completes with
  | ended free => cases free _ created
  | @completed job record latest running known =>
    obtain rfl := Option.some.inj (created.symm.trans latest)
    have own := numbered.record?_withJob (Bench.importRequest bench.image)
    rw [Workspace.record?, alike.jobs] at known
    obtain rfl := Option.some.inj (own.symm.trans known)
    refine Option.isSome_iff_exists.mp (List.find?_isSome.mpr ?_)
    exact ⟨_, List.mem_append_right _ (List.mem_singleton_self _), name ▸ itself⟩

/-- A round, that is a pass and the completion of the job that is on its way, brings an import one stage further. -/
theorem Advances.stage (advances : Advances bench middle asked) (completes : Completes middle.workspace later)
    (reached : Stage bench reach) (unfinished : reach < 3)
    (own : bench.image.spec.workspace = bench.workspace.instanceId) (named : Named bench.workspace)
    (numbered : Numbered bench.workspace) (itself : bench.image.name.same bench.image.name = true) :
    Stage ⟨middle.image, later⟩ (reach + 1) := by
  have ended : Free later := fun job latest => (completes.latest? latest).1
  have forgotten : middle.seesFailure = false := by
    cases seen : bench.seesFailure with
    | true => exact (advances.forgets seen).1
    | false => exact (advances.settles seen own named).1.unseen
  have unseen_after := Bench.seesFailure_of_completes completes forgotten
  cases reach with
  | zero => exact .free unseen_after fun _ => ended
  | succ earlier =>
    have unseen := reached.unseen
    cases advances with
    | failed seen alike asks =>
      rw [unseen] at seen
      cases seen
    | @found found workspace _ first alike asks =>
      have still :
          (Bench.mk (bench.image.guarded.withStatus (·.available found.imageId)) workspace).match? = some found :=
        (Bench.match?_of_alike bench.image.guarded_name alike).trans first
      have recorded := Stage.recorded (Bench.match?_of_completes completes still) bench.image.guarded_isGuarded rfl
      exact recorded.of_le (by omega)
    | @pending job _ _ absent latest running alike asks =>
      rw [reached.free_of_absent absent job (Bench.latest?_eq_some.mp latest).2] at running
      cases running
    | created _ absent free alike asks =>
      obtain ⟨found, first⟩ := match?_of_created alike completes numbered itself bench.image.guarded_name
      have within := reached.le_one absent
      exact (Stage.listed unseen_after first).of_le (by omega)

end Pass

end ImageOperator
