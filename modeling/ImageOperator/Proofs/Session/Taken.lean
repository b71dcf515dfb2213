import ImageOperator.Proofs.Session.Commute
import ImageOperator.Proofs.Store.Tended

set_option autoImplicit false

/-!
Passes whose image the store takes: what they did is told by what they noted, and their object is as it was handed back.
-/

namespace ImageOperator

namespace Session

variable {id : ObjectId} {session : Session} {image handed : Image}

/-- The work of a pass is done for the client that serves the image. -/
theorem worked_ok {name : String} {outcome : Outcome Bench Pass.Requeue}
    (ran : session.worked image = .ok (name, outcome)) :
    session.scene.clientOf image = some name ∧
      ∃ voice, outcome = Pass.body session.config voice ⟨image, session.workspace name⟩ := by
  unfold worked at ran
  cases opened : (openScope (session.passOpening image) session).result with
  | error fault =>
    rw [opened] at ran
    cases ran
  | ok scope =>
    rw [opened] at ran
    cases ran
    exact ⟨(openScope_ok opened).2.2.2, scope.voice, rfl⟩

/-- The work of a pass, as far as it is noted. -/
theorem works_of_worked {name : String} {outcome : Outcome Bench Pass.Requeue}
    (ran : session.worked image = .ok (name, outcome)) :
    Pass.Works session.config ⟨image, session.workspace name⟩
      ⟨outcome.result, outcome.state, outcome.notes.filter Note.isDeed⟩ := by
  obtain ⟨-, voice, rfl⟩ := worked_ok ran
  exact Pass.body_works session.config voice ⟨image, session.workspace name⟩

/-- A pass hands back what its work leaves of the image. -/
theorem worked_of_handsBack (back : session.handsBack? image = some handed) :
    ∃ name outcome, session.worked image = .ok (name, outcome) ∧ outcome.state.image = handed ∧
      handed.isConsistent = true := by
  rw [handsBack?_worked] at back
  obtain ⟨passed, sound⟩ := Option.filter_eq_some_iff.mp back
  cases ran : session.worked image with
  | error fault =>
    rw [ran] at passed
    cases passed
  | ok work =>
    rw [ran] at passed
    exact ⟨work.1, work.2, rfl, Option.some.inj passed, sound⟩

/-- What a pass answers after its work: what this comes to, unless the store refuses the image. -/
theorem reconcile_answers_of_worked {key : ObjectKey} {name : String} {outcome : Outcome Bench Pass.Requeue}
    (known : id.key? = some key) (held : session.scene.objects.get? key = some image)
    (ran : session.worked image = .ok (name, outcome)) (sound : outcome.state.image.isConsistent = true) :
    (reconcile id session).result =
      ((Depot.persist outcome.state.image session.store).result >>= fun _ => outcome.result) := by
  rw [(reconcile_answers known held).1, ran, answering, closing, if_pos sound]

/-- What a pass answers that hands an image back: what its work comes to, unless the store refuses the image. -/
theorem reconcile_answers_of_handsBack {key : ObjectKey} (known : id.key? = some key)
    (held : session.scene.objects.get? key = some image) (back : session.handsBack? image = some handed) :
    ∃ name workspace result notes,
      Pass.Works session.config ⟨image, session.workspace name⟩ ⟨result, ⟨handed, workspace⟩, notes⟩ ∧
        (reconcile id session).result = ((Depot.persist handed session.store).result >>= fun _ => result) := by
  obtain ⟨name, outcome, ran, rfl, sound⟩ := worked_of_handsBack back
  exact ⟨name, outcome.state.workspace, outcome.result, _, works_of_worked ran,
    reconcile_answers_of_worked known held ran sound⟩

/-- A pass that fails in no way has handed its image back, and the store has taken it. -/
theorem handsBack?_of_ok {key : ObjectKey} (known : id.key? = some key)
    (held : session.scene.objects.get? key = some image) {requeue : Pass.Requeue}
    (done : (reconcile id session).result = .ok requeue) :
    ∃ handed, session.handsBack? image = some handed ∧ (Depot.persist handed session.store).result = .ok () := by
  rw [(reconcile_answers known held).1] at done
  rw [handsBack?_worked]
  cases ran : session.worked image with
  | error fault =>
    rw [ran] at done
    cases done
  | ok work =>
    obtain ⟨name, result, ⟨left, workspace⟩, notes⟩ := work
    rw [ran] at done
    simp only [answering, closing] at done
    cases sound : left.isConsistent with
    | false =>
      simp only [sound, Bool.false_eq_true, ↓reduceIte] at done
      cases done
    | true =>
      simp only [sound, ↓reduceIte] at done
      refine ⟨left, Option.filter_eq_some_iff.mpr ⟨rfl, sound⟩, ?_⟩
      cases taken : (Depot.persist left session.store).result with
      | error fault =>
        rw [taken] at done
        cases done
      | ok => rfl

/-- A pass whose image the store takes: what it did on the object and in its workspace, and what becomes of the
object. -/
structure Taken (session : Session) (id : ObjectId) (image handed : Image) (pass : Outcome Session Pass.Requeue) :
    Prop where
  submitted : pass.notes.filterMap Note.submitted? = [handed]
  worked : ∃ name workspace notes,
    Pass.Works session.config ⟨image, session.workspace name⟩ ⟨pass.result, ⟨handed, workspace⟩, notes⟩ ∧
      ∀ place call, .called place call ∈ pass.notes ↔ .called place call ∈ notes
  stored : pass.state.stored? id = if Depot.leaves handed then none else some handed

theorem filterMap_deeds (notes : List Note) :
    (notes.filter Note.isDeed).filterMap Note.submitted? = notes.filterMap Note.submitted? :=
  Note.filterMap_filter (fun note other => by cases note <;> first | rfl | cases other) notes

/-- A pass that hands an image back, and does not fail but on calls, has it taken. -/
theorem Attends.taken {scene after : Scene} {key : ObjectKey} {result : Except Fault Pass.Requeue} {notes : List Note}
    (attends : Attends scene image result after notes) (submitted : notes.filterMap Note.submitted? = [handed])
    (known : handed.id.key? = some key) (ofCall : ∀ fault, result = .error fault → fault.isOfCall = true) :
    ∃ name workspace made,
      Pass.Works scene.config ⟨image, scene.workspaces name⟩ ⟨result, ⟨handed, workspace⟩, made⟩ ∧
        notes = made ++ [.submitted handed] ∧ after.objects = Depot.turn scene.objects key handed := by
  cases attends with
  | unopened other => cases submitted
  | refused client works broken => cases ofCall _ rfl
  | @handed name result bench made ending objects client works sound persists =>
    have last : bench.image = handed := by
      rw [List.filterMap_append] at submitted
      change _ ++ [bench.image] = [] ++ [handed] at submitted
      exact List.singleton_inj.mp (List.append_inj_right' submitted rfl)
    cases ending with
    | error fault =>
      cases persists with
      | refused store =>
        rw [Fault.isStore_of_isOfCall (ofCall fault rfl)] at store
        cases store
    | ok =>
      obtain ⟨left, workspace⟩ := bench
      obtain rfl : left = handed := last
      exact ⟨name, workspace, made, works, rfl, persists.turns known⟩

theorem reconcile_taken (filed : session.scene.objects.Filed) (stored : session.stored? id = some image)
    (back : session.handsBack? image = some handed) (taken : (Depot.persist handed session.store).result = .ok ()) :
    Taken session id image handed (reconcile id session) := by
  obtain ⟨key, known, held⟩ := Option.bind_eq_some_iff.mp stored
  have own : handed.id.key? = some key := (handsBack?_kin back).id ▸ filed _ (Catalog.mem_of_get? held)
  have submitted := (reconcile_handsOver known held name_of_client).submitted
  rw [back, Option.toList_some] at submitted
  have deeds : ((reconcile id).bare session).notes.filterMap Note.submitted? = [handed] :=
    (filterMap_deeds _).trans submitted
  have ofCall (fault : Fault) (failed : ((reconcile id).bare session).result = .error fault) :
      fault.isOfCall = true := by
    obtain ⟨_, _, result, _, works, answers⟩ := reconcile_answers_of_handsBack known held back
    rw [taken] at answers
    obtain rfl : result = .error fault := answers.symm.trans failed
    exact works.isOfCall
  obtain ⟨name, workspace, made, works, notes, objects⟩ := (reconcile_attends known held).taken deeds own ofCall
  refine ⟨submitted, ⟨name, workspace, made, works, fun place call => ?_⟩, ?_⟩
  · rw [← Attempt.mem_bare_notes rfl, notes, List.mem_append]
    simp
  · have reads : (reconcile id session).state.stored? id = (Depot.turn session.scene.objects key handed).get? key := by
      rw [stored?, known, ← objects]
      rfl
    rw [reads]
    cases leaving : Depot.leaves handed with
    | true => simp [Depot.turn_of_leaving leaving]
    | false => simp [Depot.turn_of_staying leaving]

/-- A store in memory takes what a pass hands back. -/
theorem persist_of_handsBack (memory : session.disk = none) (filed : session.Filed)
    (stored : session.stored? id = some image) (back : session.handsBack? image = some handed) :
    (Depot.persist handed session.store).result = .ok () := by
  obtain ⟨key, known, held⟩ := Option.bind_eq_some_iff.mp stored
  have own : handed.id.key? = some key :=
    (handsBack?_kin back).id ▸ filed.depot session.current _ (Catalog.mem_of_get? held)
  have there : session.store.objects.get? key = some image := held
  rw [Depot.persist_of_held own (Option.isSome_of_eq_some there), ← Attempt.bare_result, Depot.refile_memory memory]

end Session

end ImageOperator
