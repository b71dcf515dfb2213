import ImageOperator.Proofs.Scope.Discard
import ImageOperator.Proofs.Session.Steady
import ImageOperator.Proofs.Session.Stored
import ImageOperator.Proofs.Session.Taken
import ImageOperator.Proofs.Store.Told

set_option autoImplicit false

/-!
Passes that come to their end. A pass on which nothing fails answers, and one change of its object is told, but for one
case: an image is ready, and the job that its status follows is seen to have failed. The failure is noted in the status,
which goes on to name an image; the scope refuses that status, at this pass and at every later one.
-/

namespace ImageOperator

open Workspace (Alike Named)

namespace Pass

/-- An image that is to be kept, and is ready while the job that its status follows is seen to have failed. -/
structure Blighted (bench : Bench) : Prop where
  kept : bench.image.deletionRequested = false
  ready : bench.image.status.ready = true
  failed : bench.seesFailure = true

section

variable {config : Config} {bench after : Bench} {result : Except Fault Requeue} {requeue : Requeue} {asked : Nat}
  {notes : List Note}

theorem isConsistent_failed {status : Image.Status} (consistent : status.isConsistent = true) :
    status.failed.isConsistent = !status.ready := by
  simp only [Image.Status.isConsistent, beq_iff_eq] at consistent
  rw [Image.Status.isConsistent, Image.Status.failed, consistent]
  cases status.imageId != "" <;> rfl

/-- What a pass makes of a consistent status is consistent, but at the sight of a failure that befalls a ready image. -/
theorem Advances.isConsistent (advances : Advances bench after asked) (named : Named bench.workspace)
    (consistent : bench.image.status.isConsistent = true) :
    after.image.status.isConsistent = !(bench.image.status.ready && bench.seesFailure) := by
  have guarded : bench.image.guarded.status.isConsistent = true := bench.image.guarded_status.symm ▸ consistent
  cases advances with
  | failed seen alike asks =>
    rw [seen, Bool.and_true, ← bench.image.guarded_status]
    exact isConsistent_failed guarded
  | found unseen first alike asks =>
    rw [unseen, Bool.and_false]
    have listed := named.images _ (List.mem_of_find?_eq_some first)
    exact (Image.Status.sound_available bench.image.guarded.status listed).consistent
  | pending unseen absent latest running alike asks | created unseen absent free alike asks =>
    rw [unseen, Bool.and_false]
    exact (Image.Status.sound_importing bench.image.guarded.status _).consistent

theorem Normal.status_of_error {fault : Fault} (normal : Normal config bench ⟨.error fault, after, notes⟩) :
    after.image.status = bench.image.status := by
  cases normal with
  | unasked looked | unsettled looked ensured => exact bench.image.guarded_status

/-- A consistent status comes to be inconsistent only where it is blighted. -/
theorem Works.blighted (works : Works config bench ⟨result, after, notes⟩) (named : Named bench.workspace)
    (consistent : bench.image.status.isConsistent = true) (broken : after.image.status.isConsistent = false) :
    Blighted bench := by
  cases works with
  | kept kept normal =>
    cases result with
    | error fault =>
      rw [normal.status_of_error, consistent] at broken
      cases broken
    | ok requeue =>
      obtain ⟨asked, advances⟩ := normal.advances
      rw [advances.isConsistent named consistent] at broken
      simp only [Bool.not_eq_false', Bool.and_eq_true] at broken
      exact ⟨kept, broken.1, broken.2⟩
  | requested requested deletes =>
    rw [deletes.isConsistent consistent] at broken
    cases broken

/-- A pass that is done on a blighted image has it fail, and leaves its workspace as it was. -/
theorem Blighted.fails (blighted : Blighted bench) (works : Works config bench ⟨.ok requeue, after, notes⟩) :
    after.image = bench.image.guarded.withStatus (·.failed) ∧ Alike bench.workspace after.workspace := by
  obtain ⟨asked, advances⟩ := (works.normal blighted.kept).advances
  have seen := blighted.failed
  cases advances with
  | failed _ alike asks => exact ⟨rfl, alike⟩
  | found unseen | pending unseen | created unseen =>
    rw [seen] at unseen
    cases unseen

theorem Blighted.broken (blighted : Blighted bench) (consistent : bench.image.status.isConsistent = true)
    (works : Works config bench ⟨.ok requeue, after, notes⟩) : after.image.status.isConsistent = false := by
  have status : after.image.status = bench.image.status.failed := by
    rw [(blighted.fails works).1, Image.withStatus, Image.guarded_status]
  rw [status, isConsistent_failed consistent, blighted.ready]
  rfl

end

end Pass

namespace Session

open Pass (Blighted Works)

variable {id : ObjectId} {session : Session} {image handed : Image} {name : String}

/-- A pass that comes to its end: it answers, and everyone who listens is told of one change of the object, which is
that it was persisted or removed. -/
structure Completes (session : Session) (id : ObjectId) (pass : Outcome Session Pass.Requeue) : Prop where
  answered : ∃ requeue, pass.result = .ok requeue
  told : ∃ image, image.id.key? = id.key? ∧ pass.notes.filter Note.isFired = session.store.told image

/-- A pass that is refused for the status that it came to: nobody is told of anything, and all objects stay as they
are. -/
structure Stuck (session : Session) (image : Image) (pass : Outcome Session Pass.Requeue) : Prop where
  refused : pass.result = .error (.inconsistent image.path false image.status.imageId)
  silent : pass.notes.filter Note.isFired = []
  objects : pass.state.scene.objects = session.scene.objects

theorem HandsOver.told {α : Type} {outcome : Outcome Session α} {handed : Option Image}
    (hands : HandsOver name session handed outcome) :
    outcome.notes.filter Note.isFired = (handOver handed session.store).notes.filter Note.isFired := by
  have ofStore (notes : List Note) :
      (notes.filter Note.isOfStore).filter Note.isFired = notes.filter Note.isFired := by
    rw [List.filter_filter]
    congr 1
    funext note
    cases note <;> rfl
  rw [← ofStore, hands.notes, ofStore]

/-- A pass that answers comes to its end. -/
theorem completes_of_ok (filed : session.Filed) (stored : session.stored? id = some image) {requeue : Pass.Requeue}
    (done : (reconcile id session).result = .ok requeue) : Completes session id (reconcile id session) := by
  obtain ⟨key, known, held⟩ := Option.bind_eq_some_iff.mp stored
  obtain ⟨handed, back, taken⟩ := handsBack?_of_ok known held done
  have told := (reconcile_handsOver known held name_of_client).told
  rw [back, handOver, Depot.persist_fired taken] at told
  refine ⟨⟨requeue, done⟩, handed, ?_, told⟩
  rw [(handsBack?_kin back).id]
  exact key?_of_stored (filed.depot session.current) stored

/-- A pass that is refused for its status has handed nothing back. -/
theorem handsBack?_of_inconsistent {key : ObjectKey} (known : id.key? = some key)
    (held : session.scene.objects.get? key = some image) {fault : Fault} (inconsistent : fault.isInconsistent = true)
    (failed : (reconcile id session).result = .error fault) : session.handsBack? image = none := by
  cases back : session.handsBack? image with
  | none => rfl
  | some handed =>
    obtain ⟨name, workspace, result, notes, works, answers⟩ := reconcile_answers_of_handsBack known held back
    cases ended : (Depot.persist handed session.store).result with
    | error refusal =>
      rw [ended] at answers
      obtain rfl := Except.error.inj (answers.symm.trans failed)
      rw [Fault.isInconsistent_of_isStore (Depot.persist_isStore ended)] at inconsistent
      cases inconsistent
    | ok =>
      rw [ended] at answers
      obtain rfl : result = .error fault := answers.symm.trans failed
      rw [Fault.isInconsistent_of_isOfCall works.isOfCall] at inconsistent
      cases inconsistent

/-- A session in which the stored object is blighted, as the client that serves it has it. -/
structure Blight (id : ObjectId) (name : String) (image : Image) (session : Session) : Prop where
  stored : session.stored? id = some image
  served : session.scene.clientOf image = some name
  consistent : image.status.isConsistent = true
  blighted : Blighted ⟨image, session.workspace name⟩

theorem seesFailure_of_alike {image : Image} {before after : Workspace} (alike : Alike before after) :
    (Bench.mk image after).seesFailure = (Bench.mk image before).seesFailure := by
  have latest : (Bench.mk image after).latest? = (Bench.mk image before).latest? := Bench.latest?_of_alike rfl alike
  rw [Bench.seesFailure, latest, Bench.seesFailure]

/-- A pass over a blighted object is stuck, and leaves the object as blighted as it was. -/
theorem Blight.stuck (blight : Blight id name image session) (unhindered : Unhindered id session) :
    Stuck session image (reconcile id session) ∧ Blight id name image (step (.reconcile id) session).state := by
  obtain ⟨stored, served, consistent, blighted⟩ := blight
  obtain ⟨key, known, held⟩ := Option.bind_eq_some_iff.mp stored
  have attends := reconcile_attends known held
  rw [AttendsTo, Attempt.bare_result] at attends
  cases ended : (reconcile id session).result with
  | ok requeue =>
    obtain ⟨bench, made, objects, works, sound, -⟩ := (ended ▸ attends).sound served
    rw [blighted.broken consistent works] at sound
    cases sound
  | error fault =>
    have nothing := handsBack?_of_inconsistent known held (unhindered fault ended) ended
    have told := (reconcile_handsOver known held name_of_client).told
    rw [nothing] at told
    obtain ⟨worked, ⟨left, workspace⟩, works, broken, scene, rfl⟩ :=
      (ended ▸ attends).broken served (unhindered fault ended)
    cases worked with
    | error fault =>
      rw [(works.normal blighted.kept).status_of_error, consistent] at broken
      cases broken
    | ok requeue =>
      obtain ⟨failed, alike⟩ := blighted.fails works
      obtain rfl : left = image.guarded.withStatus (·.failed) := failed
      have objects : (reconcile id session).state.scene.objects = session.scene.objects := by
        rw [← Attempt.bare_state, scene, Scene.withWorkspace_objects]
      have path : (image.guarded.withStatus (·.failed)).path = image.path := by
        have id := image.guarded_id
        simp only [Image.path, Image.withStatus]
        rw [show image.guarded.space = image.space from congrArg ObjectId.space id, image.guarded_name]
      have status : (image.guarded.withStatus (·.failed)).status = image.status.failed := by
        rw [Image.withStatus, Image.guarded_status]
      refine ⟨⟨?_, told, objects⟩, ?_⟩
      · rw [ended, path, status]
        rfl
      · have reached : (step (.reconcile id) session).state.scene = session.scene.withWorkspace name workspace := by
          rw [step_reconcile_state]
          exact scene
        refine ⟨?_, ?_, consistent, blighted.kept, blighted.ready, ?_⟩
        · have kept : (step (.reconcile id) session).state.scene.objects = session.scene.objects := by
            rw [reached, Scene.withWorkspace_objects]
          exact (stored?_of_objects kept id).trans stored
        · rw [reached]
          exact served
        · have own : (step (.reconcile id) session).state.workspace name = workspace := by
            rw [← scene_workspaces, reached, Scene.withWorkspace_self]
          rw [own, seesFailure_of_alike alike]
          exact blighted.failed

theorem Blight.lasts (blight : Blight id name image session) {count : Nat}
    (unhindered : ∀ earlier < count, Unhindered id (passes id earlier session)) :
    Blight id name image (passes id count session) := by
  induction count with
  | zero => exact blight
  | succ count ih =>
    have reached := ih fun earlier below => unhindered earlier (Nat.lt_succ_of_lt below)
    exact (reached.stuck (unhindered count (Nat.lt_succ_self count))).2

/-- Take an object of a consistent status, to be deleted or not, with a client that serves it in its workspace, in any
state that this can come to. A pass on which no lookup, no call and no write fails comes to its end exactly if the
object is not blighted; otherwise this and every such pass after it is stuck. -/
theorem completes_iff_not_blighted (filed : session.Filed) (stored : session.stored? id = some image)
    (consistent : image.status.isConsistent = true) (served : session.scene.clientOf image = some name)
    (reached : (session.workspace name).Reachable image.spec.workspace) (unhindered : Unhindered id session) :
    (Completes session id (reconcile id session) ↔ ¬ Blighted ⟨image, session.workspace name⟩) ∧
      (Blighted ⟨image, session.workspace name⟩ → ∀ count,
        (∀ earlier ≤ count, Unhindered id (passes id earlier session)) →
          Stuck (passes id count session) image (reconcile id (passes id count session))) := by
  have stuck (blighted : Blighted ⟨image, session.workspace name⟩) : Blight id name image session :=
    ⟨stored, served, consistent, blighted⟩
  refine ⟨⟨fun completes blighted => ?_, fun sound => ?_⟩, fun blighted count easy => ?_⟩
  · obtain ⟨requeue, done⟩ := completes.answered
    rw [((stuck blighted).stuck unhindered).1.refused] at done
    cases done
  · cases ended : (reconcile id session).result with
    | ok requeue => exact completes_of_ok filed stored ended
    | error fault =>
      obtain ⟨key, known, held⟩ := Option.bind_eq_some_iff.mp stored
      have attends := reconcile_attends known held
      rw [AttendsTo, Attempt.bare_result, ended] at attends
      obtain ⟨worked, bench, works, broken, -⟩ := attends.broken served (unhindered fault ended)
      exact absurd (works.blighted reached.named consistent broken) sound
  · have later := (stuck blighted).lasts fun earlier below => easy earlier (Nat.le_of_lt below)
    exact (later.stuck (easy count (Nat.le_refl count))).1

/-- Adds the image once more, as one that is ready while its import is still followed. -/
def revival : Command :=
  .add (.fields (.mapping [(.text "name", .text "m"), (.text "namespace", .text "s"), (.text "spec", Trial.spec),
    (.text "status", Image.Status.fields ⟨true, "image-9", .importing, "job-1"⟩)])) none

/-- The image is ready, and the job that its status follows failed. -/
def relapsed : Session := Trial.first.after (troubled ++ [revival])

theorem troubled_reachable : ((Trial.first.after troubled).workspace "w").Reachable "w" :=
  .jobFailed (.jobCreated (.asked (.listed .start) "w") ⟨.text "m", "b", "r", "o", "tier1", "public"⟩) "job-1"
    "no such object"

theorem completes_iff_not_blighted_of_troubled :
    ∃ image, (Trial.first.after troubled).stored? (Trial.id "m") = some image ∧
      image.status = ⟨false, "", .importing, "job-1"⟩ ∧
      (Bench.mk image ((Trial.first.after troubled).workspace "w")).seesFailure = true ∧
      ¬ Blighted ⟨image, (Trial.first.after troubled).workspace "w"⟩ ∧
      Completes (Trial.first.after troubled) (Trial.id "m") (reconcile (Trial.id "m") (Trial.first.after troubled)) := by
  have held : ∃ image, (Trial.first.after troubled).stored? (Trial.id "m") = some image ∧
      image.status = ⟨false, "", .importing, "job-1"⟩ ∧
      (Bench.mk image ((Trial.first.after troubled).workspace "w")).seesFailure = true ∧ image.spec.workspace = "w" :=
    ⟨_, rfl, rfl, by decide +kernel, rfl⟩
  obtain ⟨image, stored, status, seen, workspace⟩ := held
  have filed : (Trial.first.after troubled).Filed := after_filed (start_filed Trial.settings) troubled
  have served : (Trial.first.after troubled).scene.clientOf image = some "w" := congrArg some workspace
  have unhindered : Unhindered (Trial.id "m") (Trial.first.after troubled) :=
    unhindered_of_isOk (by decide +kernel)
  have unready : ¬ Blighted ⟨image, (Trial.first.after troubled).workspace "w"⟩ := by
    intro blighted
    have ready := blighted.ready
    rw [status] at ready
    cases ready
  have consistent : image.status.isConsistent = true := by rw [status]; rfl
  exact ⟨image, stored, status, seen, unready, (completes_iff_not_blighted filed stored consistent served
    (workspace ▸ troubled_reachable) unhindered).1.mpr unready⟩

/-- An image that is ready, with a status that is consistent, is stuck once the job that it follows failed. -/
theorem blighted_never_completes :
    ∃ image, relapsed.stored? (Trial.id "m") = some image ∧ image.status.isConsistent = true ∧
      image.deletionRequested = false ∧ relapsed.scene.clientOf image = some "w" ∧
      (relapsed.workspace "w").Reachable image.spec.workspace ∧ Unhindered (Trial.id "m") relapsed ∧
      (reconcile (Trial.id "m") relapsed).result = .error (.inconsistent "s/m" false "image-9") ∧
      (reconcile (Trial.id "m") relapsed).notes.filter Note.isFired = [] ∧
      ¬ Completes relapsed (Trial.id "m") (reconcile (Trial.id "m") relapsed) := by
  have refused : (reconcile (Trial.id "m") relapsed).result = .error (.inconsistent "s/m" false "image-9") := by
    rfl
  have silent : (reconcile (Trial.id "m") relapsed).notes.filter Note.isFired = [] := by rfl
  have held : ∃ image, relapsed.stored? (Trial.id "m") = some image ∧
      image.status = ⟨true, "image-9", .importing, "job-1"⟩ ∧ image.deletionRequested = false ∧
      image.spec.workspace = "w" :=
    ⟨_, rfl, rfl, rfl, rfl⟩
  obtain ⟨image, stored, status, kept, workspace⟩ := held
  have unhindered : Unhindered (Trial.id "m") relapsed := by
    intro fault failed
    obtain rfl := Except.error.inj (refused.symm.trans failed)
    rfl
  refine ⟨image, stored, by rw [status]; rfl, kept, congrArg some workspace, workspace ▸ troubled_reachable, unhindered,
    refused, silent, fun completes => ?_⟩
  obtain ⟨requeue, done⟩ := completes.answered
  rw [refused] at done
  cases done

end Session

end ImageOperator
