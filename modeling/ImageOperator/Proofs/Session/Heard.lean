import ImageOperator.Proofs.Scope.Hears
import ImageOperator.Proofs.Session.Noted
import ImageOperator.Proofs.Store.Silent

set_option autoImplicit false

/-!
The events that a session records of a pass: those of its work, and no others.
-/

namespace ImageOperator

namespace Session

open Attempt (Preserves Silent preserves_pure preserves_read preserves_fail preserves_of preserves_update)

variable {α : Type}

theorem recorded_emit {notes : List Note} (silent : notes.filterMap Note.event? = []) :
    (emit notes).Preserves recorded := by
  intro session
  change session.recorded ++ notes.filterMap Note.event? = session.recorded
  rw [silent, List.append_nil]

theorem recorded_inDepot (index : Nat) {attempt : Attempt Depot α} (silent : attempt.Silent) :
    (inDepot index attempt).Preserves recorded := by
  intro session
  change session.recorded ++ (attempt (session.depot index)).events = session.recorded
  rw [silent.events, List.append_nil]

theorem recorded_openScope (opening : Opening) : (openScope opening).Preserves recorded := by
  obtain ⟨hasStore, image, channel, debug⟩ := opening
  cases hasStore with
  | false => exact preserves_fail _ _
  | true =>
    cases image with
    | none => exact preserves_fail _ _
    | some image =>
      refine (preserves_read _).bind fun session => (preserves_of _ _).bind fun options => ?_
      refine (recorded_emit rfl).bind fun _ => (recorded_emit rfl).bind fun _ => ?_
      refine (preserves_of _ _).bind fun workspace => ?_
      exact Preserves.bind (preserves_update fun _ => rfl) fun _ => preserves_pure _ _

theorem recorded_closeScope (scope : Scope) : (closeScope scope).Preserves recorded := by
  unfold closeScope
  cases scope.closed with
  | true => exact preserves_pure _ _
  | false =>
    cases sound : scope.image.status.isConsistent with
    | false => simpa [sound] using preserves_pure _ _
    | true =>
      simp only [sound, Bool.not_true, Bool.false_eq_true, ↓reduceIte]
      exact (recorded_inDepot _ (Depot.silent_persist _)).tried.bind fun _ => preserves_pure _ _

theorem workIn_recorded (config : Config) (scope : Scope) (session : Session) :
    (workIn config scope session).state.recorded = session.recorded ++
      (Pass.body config scope.voice ⟨scope.image, session.workspace scope.workspace⟩).events := by
  let outcome := Pass.body config scope.voice ⟨scope.image, session.workspace scope.workspace⟩
  let visited := (visit scope (Pass.body config scope.voice) session).state
  have ran : visit scope (Pass.body config scope.voice) session = ⟨.ok _, visited, _⟩ := rfl
  unfold workIn
  rw [Attempt.bind_of_ok ran]
  refine Preserves.bind (recorded_closeScope { scope with image := outcome.state.image }) (fun closed => ?_) visited
  cases closed.1
  · exact preserves_fail _ _
  · exact preserves_of _ _

/-- The events of a pass, by its work. -/
def eventsOf (work : Work) : List Event :=
  work.toOption.elim [] (·.2.events)

theorem opened_recorded (session : Session) (image : Image) :
    ((openScope (session.passOpening image) >>= workIn session.config) session).state.recorded =
      session.recorded ++ eventsOf (session.worked image) := by
  have kept := recorded_openScope (session.passOpening image) session
  have scene := (openScope_copies (session.passOpening image) session).1
  unfold worked
  rcases opening : openScope (session.passOpening image) session with ⟨fault | scope, opened, notes⟩
  all_goals rw [opening] at kept scene
  · rw [Attempt.bind_of_error opening]
    exact kept.trans (List.append_nil _).symm
  · obtain ⟨rfl, -⟩ := openScope_ok (congrArg Outcome.result opening)
    have same : opened.workspace = session.workspace := congrArg Scene.workspaces scene
    rw [Attempt.bind_of_ok opening]
    change (workIn session.config scope opened).state.recorded = _
    rw [workIn_recorded, kept, same]
    rfl

/-- A pass over a stored image records the events of its work. -/
theorem reconcile_recorded {id : ObjectId} {key : ObjectKey} {session : Session} {image : Image}
    (known : id.key? = some key) (stored : session.scene.objects.get? key = some image) :
    (reconcile id session).state.recorded = session.recorded ++ eventsOf (session.worked image) := by
  have looking := looks_of_key known session
  rw [show session.store.objects.get? key = some image from stored] at looking
  let looked := (putDepot session.current session.store session).keepEvents []
  let said := looked.keepEvents [.log .passes .info ("Reconciling " ++ id.text)]
  have scene : said.scene = session.scene :=
    (scene_putDepot session session.store).trans (Scene.withObjects_of_eq rfl)
  have worked : said.worked image = session.worked image :=
    worked_of_same rfl fun name _ => congrFun (congrArg Scene.workspaces scene) name
  have recorded : said.recorded = session.recorded := by
    change session.recorded ++ [] ++ [] = session.recorded
    rw [List.append_nil, List.append_nil]
  have records := opened_recorded said image
  rw [recorded, worked] at records
  unfold reconcile
  rw [Attempt.bind_of_ok looking]
  exact records

/-- The calls of a pass are those of its work. -/
theorem calls_reconcile {id : ObjectId} {key : ObjectKey} {session : Session} {image : Image}
    (known : id.key? = some key) (stored : session.scene.objects.get? key = some image) :
    (reconcile id session).calls = (session.worked image).toOption.elim [] (·.2.calls) := by
  rw [← Attempt.bare_calls, Outcome.calls, reconcile_noted known stored, deeds, List.filterMap_append]
  have handed : ((handing (session.worked image)).toList.map Note.submitted).filterMap Note.call? = [] := by
    cases handing (session.worked image) <;> rfl
  rw [handed, List.append_nil]
  cases session.worked image with
  | error fault => rfl
  | ok visit => exact Note.filterMap_filter (fun note other => by cases note <;> first | rfl | cases other) _

/-- The work of a pass tells its events to the session's recorder. -/
theorem worked_recorder {session : Session} {image : Image} {name : String} {outcome : Outcome Bench Pass.Requeue}
    (ran : session.worked image = .ok (name, outcome)) :
    ∃ voice : Voice, voice.recorder = session.recorder.getD (.log .passes) ∧
      outcome = Pass.body session.config voice ⟨image, session.workspace name⟩ := by
  have opens := openScope_result session image (some .passes) session.config.debug
  change (openScope (session.passOpening image) session).result = _ at opens
  unfold worked at ran
  rw [opens] at ran
  generalize session.registry.resolve _ _ = resolved at ran
  cases resolved with
  | error fault => cases ran
  | ok options =>
    dsimp only at ran
    cases client : session.clientFor options with
    | error fault =>
      rw [client] at ran
      cases ran
    | ok workspace =>
      rw [client] at ran
      cases ran
      exact ⟨_, rfl, rfl⟩

/-- Take a session with a recorder in memory, and a stored image whose client raises nothing but cloud faults. What a
pass over the image records is what is to be told of its work, and nothing if its scope does not open. -/
theorem reconcile_hears {id : ObjectId} {session : Session} {image : Image} (stored : session.stored? id = some image)
    (memory : session.recorder = some .memory)
    (only : ∀ name, session.scene.clientOf image = some name → (session.workspace name).OnlyCloud) :
    (∀ fault, session.worked image = .error fault →
      (reconcile id session).state.recorded = session.recorded ∧ (reconcile id session).calls = []) ∧
    ∀ name outcome, session.worked image = .ok (name, outcome) →
      (reconcile id session).state.recorded = session.recorded ++ outcome.events ∧
        (reconcile id session).calls = outcome.calls ∧ Pass.Hears ⟨image, session.workspace name⟩ outcome := by
  obtain ⟨key, known, held⟩ := Option.bind_eq_some_iff.mp stored
  have records := reconcile_recorded known held
  have calls := calls_reconcile known held
  refine ⟨fun fault ran => ?_, fun name outcome ran => ?_⟩
  · rw [ran] at records calls
    exact ⟨records.trans (List.append_nil _), calls⟩
  · rw [ran] at records calls
    refine ⟨records, calls, ?_⟩
    obtain ⟨voice, recorder, rfl⟩ := worked_recorder ran
    rw [memory] at recorder
    exact Pass.body_hears session.config recorder (only name (worked_ok ran).1)

/-- With a recorder in memory: the image is in the cloud and is to be deleted, and its job cannot be deleted. -/
def remembered : Session :=
  (start { Trial.settings with recorder := some .memory }).after
    [Trial.add "m", .reconcile (Trial.id "m"), .cloud none (.completeJob "job-1"), .reconcile (Trial.id "m"),
      .requestDeletion (Trial.id "m"), Trial.failing .deleteJob]

theorem reconcile_hears_of_remembered :
    ∃ image outcome, remembered.stored? (Trial.id "m") = some image ∧ remembered.worked image = .ok ("w", outcome) ∧
      outcome.events.map (fun event => (event.severity, event.reason)) =
        [(.normal, "SuccessfulDeleteImage"), (.warning, "FailedDeleteImageImportJob")] ∧
      (reconcile (Trial.id "m") remembered).state.recorded = remembered.recorded ++ outcome.events ∧
      (reconcile (Trial.id "m") remembered).calls = outcome.calls ∧
      Pass.Hears ⟨image, remembered.workspace "w"⟩ outcome := by
  have seen : ((remembered.stored? (Trial.id "m")).bind fun image => (remembered.worked image).toOption.map fun visit =>
      (visit.1, visit.2.events.map fun event => (event.severity, event.reason))) =
      some ("w", [(.normal, "SuccessfulDeleteImage"), (.warning, "FailedDeleteImageImportJob")]) := by
    decide +kernel
  obtain ⟨image, stored, shown⟩ := Option.bind_eq_some_iff.mp seen
  obtain ⟨⟨name, outcome⟩, came, told⟩ := Option.map_eq_some_iff.mp shown
  obtain ⟨rfl, told⟩ := Prod.mk.inj told
  have ran : remembered.worked image = .ok ("w", outcome) := by
    cases worked : remembered.worked image with
    | error fault =>
      rw [worked] at came
      cases came
    | ok visit =>
      rw [worked] at came
      exact congrArg Except.ok (Option.some.inj came)
  have memory : remembered.recorder = some .memory := by
    have keeps : remembered.recorder.map Recorder.keepsEvents = some true := by decide +kernel
    obtain ⟨recorder, own, kept⟩ := Option.map_eq_some_iff.mp keeps
    rw [own]
    cases recorder with
    | memory => rfl
    | log channel | failing faultAt otherwise => cases kept
  have only : (remembered.workspace "w").OnlyCloud := by
    have due : (remembered.workspace "w").due.isEmpty = true := by decide +kernel
    have faults : (remembered.workspace "w").faults.isEmpty = true := by decide +kernel
    simp [Workspace.OnlyCloud, List.isEmpty_iff.mp due, List.isEmpty_iff.mp faults]
  have served (name : String) (client : remembered.scene.clientOf image = some name) :
      (remembered.workspace name).OnlyCloud := by
    rw [(worked_ok ran).1] at client
    obtain rfl := Option.some.inj client
    exact only
  exact ⟨image, outcome, stored, ran, told, (reconcile_hears stored memory served).2 "w" outcome ran⟩

end Session

end ImageOperator
