import ImageOperator.Proofs.Session.Completes
import ImageOperator.Proofs.Session.Noted
import ImageOperator.Proofs.Session.Reported

set_option autoImplicit false

/-!
When a pass asks for another one. What it asks for goes with what it leaves stored: a ready image is looked at no more,
one whose import is on its way is looked at again soon, and one whose import failed is tried again later.
-/

namespace ImageOperator

/-- The workspace whose images were listed, if it is a listing that is noted. -/
def Note.listing? : Note → Option Workspace
  | .called workspace .listImages => some workspace
  | _ => none

namespace Workspace

variable {workspace : Workspace}

/-- A job is found under its identifier, which no other one has. -/
theorem Sorted.getJob (sorted : workspace.Sorted) {record : JobRecord} (held : record ∈ workspace.jobs) :
    workspace.getJob record.job.jobId = .ok record.job := by
  have known : (workspace.record? record.job.jobId).isSome = true :=
    List.find?_isSome.mpr ⟨record, held, decide_eq_true rfl⟩
  obtain ⟨found, there⟩ := Option.isSome_iff_exists.mp known
  have own : decide (found.job.jobId = record.job.jobId) = true :=
    @List.find?_some _ (fun entry : JobRecord => decide (entry.job.jobId = record.job.jobId)) _ _ there
  have same : found = record := sorted.single (List.mem_of_find?_eq_some there) held (of_decide_eq_true own)
  rw [Workspace.getJob, there, same]

theorem latest?_mem {job : Job} (latest : workspace.latest? = some job) :
    ∃ record ∈ workspace.jobs, record.job = job := by
  obtain ⟨record, last, same⟩ := Option.map_eq_some_iff.mp latest
  exact ⟨record, List.mem_of_getLast? last, same⟩

end Workspace

namespace Pass

/-- What is asked for after a pass goes with the image that the pass leaves, with the listings that it read, and with
the workspace after it. -/
structure Accords (config : Config) (listings : List Workspace) (workspace : Workspace) (left : Image)
    (requeue : Requeue) : Prop where
  ready : requeue = none ↔ left.status.ready = true
  /-- The image is the first of its name in the one listing that was read. -/
  available : requeue = none → left.status.phase = .available ∧
    ∃ listing found, listings = [listing] ∧ listing.images.find? (·.name.same left.name) = some found ∧
      left.status.imageId = found.imageId
  unready : requeue ≠ none → left.status.ready = false ∧ left.status.imageId = ""
  /-- Some job is on its way, or the job that the status names has failed. -/
  waits : requeue ≠ none →
    (left.status.phase = .importing ∧ requeue = some config.pollInterval ∧
      ∃ record ∈ workspace.jobs, record.job.state.isTerminal = false) ∨
    (left.status.phase = .failed ∧ requeue = some config.retryInterval ∧
      ∃ job, workspace.getJob left.status.jobId = .ok job ∧ job.state = .failed)

variable {config : Config} {bench after : Bench} {requeue : Requeue} {notes : List Note}

theorem Looks.listings {outcome : Outcome Bench (Option Job)} (looked : Looks bench outcome) :
    outcome.notes.filterMap Note.listing? = [] := by
  cases looked <;> rfl

theorem accords_importing {listings : List Workspace} {workspace : Workspace} {left : Image} {jobId : String}
    (status : left.status = ⟨false, "", .importing, jobId⟩)
    (running : ∃ record ∈ workspace.jobs, record.job.state.isTerminal = false) :
    Accords config listings workspace left (some config.pollInterval) where
  ready := by simp [status]
  available := nofun
  unready _ := by simp [status]
  waits _ := .inl ⟨by rw [status], rfl, running⟩

theorem accords_failed {listings : List Workspace} {workspace : Workspace} {left : Image} {job : Job}
    (status : left.status = ⟨false, "", .failed, job.jobId⟩) (known : workspace.getJob job.jobId = .ok job)
    (failed : job.state = .failed) : Accords config listings workspace left (some config.retryInterval) where
  ready := by simp [status]
  available := nofun
  unready _ := by simp [status]
  waits _ := .inr ⟨by rw [status], rfl, job, by rwa [status], failed⟩

/-- What a pass asks for that is done on an image that is to be kept. -/
theorem Normal.accords (normal : Normal config bench ⟨.ok requeue, after, notes⟩)
    (consistent : after.image.status.isConsistent = true) (sorted : bench.workspace.Sorted) :
    Accords config (notes.filterMap Note.listing?) after.workspace after.image requeue := by
  cases normal with
  | @failed job _ _ looked =>
    cases looked with
    | failed tracked latest own state =>
      obtain ⟨record, held, rfl⟩ := Workspace.latest?_mem (Bench.latest?_eq_some.mp latest).2
      have blank : bench.image.guarded.status.imageId = "" := by
        simpa [Image.Status.isConsistent, Image.withStatus, Image.Status.failed] using consistent
      refine accords_failed ?_ (sorted.getJob held) state
      rw [Image.withStatus, Image.Status.failed, blank, own]
  | @found image middle _ first second looked ensured =>
    cases ensured with
    | found calm matched =>
      exact {
        ready := by simp [Image.withStatus, Image.Status.available]
        available := fun _ => ⟨rfl, middle, image, by rw [List.filterMap_append, looked.listings]; rfl, matched, rfl⟩
        unready := fun other => absurd rfl other
        waits := fun other => absurd rfl other }
  | created looked ensured =>
    refine accords_importing rfl ?_
    cases ensured with
    | created absent free calm => exact ⟨_, List.mem_append_right _ (List.mem_singleton_self _), rfl⟩
  | pending looked ensured =>
    refine accords_importing rfl ?_
    cases ensured with
    | pending absent latest running =>
      obtain ⟨record, held, rfl⟩ := Workspace.latest?_mem (Bench.latest?_eq_some.mp latest).2
      exact ⟨record, held, running⟩

end Pass

namespace Session

variable {id : ObjectId} {session : Session} {image : Image} {name : String} {requeue : Pass.Requeue}

theorem filterMap_deeds_listing (notes : List Note) :
    (notes.filter Note.isDeed).filterMap Note.listing? = notes.filterMap Note.listing? :=
  Note.filterMap_filter (fun note other => by cases note <;> first | rfl | cases other) notes

/-- What a pass has listed, its work has. -/
theorem listings_of_worked {key : ObjectKey} {outcome : Outcome Bench Pass.Requeue} (known : id.key? = some key)
    (held : session.scene.objects.get? key = some image) (ran : session.worked image = .ok (name, outcome)) :
    (reconcile id session).notes.filterMap Note.listing? = (outcome.notes.filter Note.isDeed).filterMap Note.listing? := by
  have handed (images : List Image) : (images.map Note.submitted).filterMap Note.listing? = [] :=
    List.filterMap_eq_nil_iff.mpr fun note noted => by
      obtain ⟨_, _, rfl⟩ := List.mem_map.mp noted
      rfl
  rw [← filterMap_deeds_listing, ← Attempt.bare_notes, reconcile_noted known held, ran, deeds, List.filterMap_append,
    handed, List.append_nil]
  rfl

/-- Take an object that is not to be deleted, with a client that serves it, in any state that this can come to. If a pass
over it answers, what it asks for goes with the object as it is stored then. -/
theorem requeue_accords {instanceId : String} (filed : session.Filed) (stored : session.stored? id = some image)
    (kept : image.deletionRequested = false) (served : session.scene.clientOf image = some name)
    (reached : (session.workspace name).Reachable instanceId) (done : (reconcile id session).result = .ok requeue) :
    ∃ left, (reconcile id session).state.stored? id = some left ∧
      Pass.Accords session.config ((reconcile id session).notes.filterMap Note.listing?)
        ((reconcile id session).state.workspace name) left requeue := by
  obtain ⟨key, known, held⟩ := Option.bind_eq_some_iff.mp stored
  obtain ⟨handed, back, taken⟩ := handsBack?_of_ok known held done
  have passes := reconcile_passes (filed.depot session.current) known held
  have rest := (reconcile_taken (filed.depot session.current) stored back taken).stored
  obtain ⟨other, outcome, ran, rfl, sound⟩ := worked_of_handsBack back
  obtain ⟨client, -⟩ := worked_ok ran
  obtain rfl : other = name := Option.some.inj (client.symm.trans served)
  have result : outcome.result = .ok requeue := by
    rw [reconcile_answers_of_worked known held ran sound, taken] at done
    exact done
  have normal := (works_of_worked ran).normal kept
  rw [result] at normal
  have staying : Depot.leaves outcome.state.image = false := by
    rw [Depot.leaves, normal.akin.deletionRequested, kept, Bool.false_and]
  have cloud : (reconcile id session).state.workspace other = outcome.state.workspace := by
    rw [passes.workspaces, ran]
    exact Scene.withWorkspace_self session.scene other _
  refine ⟨outcome.state.image, by rw [rest, staying]; rfl, ?_⟩
  rw [listings_of_worked known held ran, cloud]
  exact normal.accords sound reached.sorted

theorem requeue_accords_of_troubled :
    ∃ image left, (Trial.first.after troubled).stored? (Trial.id "m") = some image ∧
      (reconcile (Trial.id "m") (Trial.first.after troubled)).state.stored? (Trial.id "m") = some left ∧
      left.status = ⟨false, "", .failed, "job-1"⟩ ∧
      Pass.Accords Config.standard
        ((reconcile (Trial.id "m") (Trial.first.after troubled)).notes.filterMap Note.listing?)
        ((reconcile (Trial.id "m") (Trial.first.after troubled)).state.workspace "w") left
        (some Config.standard.retryInterval) := by
  have held : ∃ image, (Trial.first.after troubled).stored? (Trial.id "m") = some image ∧
      image.deletionRequested = false ∧ image.spec.workspace = "w" := ⟨_, rfl, rfl, rfl⟩
  obtain ⟨image, stored, kept, workspace⟩ := held
  have filed : (Trial.first.after troubled).Filed := after_filed (start_filed Trial.settings) troubled
  have served : (Trial.first.after troubled).scene.clientOf image = some "w" := congrArg some workspace
  have done : (reconcile (Trial.id "m") (Trial.first.after troubled)).result =
      .ok (some Config.standard.retryInterval) := rfl
  obtain ⟨left, rest, accords⟩ := requeue_accords filed stored kept served troubled_reachable done
  have status : ((reconcile (Trial.id "m") (Trial.first.after troubled)).state.stored? (Trial.id "m")).map (·.status) =
      some ⟨false, "", .failed, "job-1"⟩ := rfl
  rw [rest] at status
  exact ⟨image, left, stored, rest, Option.some.inj status, accords⟩

end Session

end ImageOperator
