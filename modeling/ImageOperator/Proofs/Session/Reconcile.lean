import ImageOperator.Proofs.Scope.Faults
import ImageOperator.Proofs.Session.Scene

set_option autoImplicit false

namespace ImageOperator

namespace Session

open Pass (Works)

/-- The ways of opening a scope on an image of the store in use. -/
inductive Opens (session : Session) (image : Image) : Outcome Session Scope → Prop
  | refused {fault : Fault} {after : Session} (other : fault.isInconsistent = false)
      (same : after.scene = session.scene) : Opens session image ⟨.error fault, after, []⟩
  | opened {name : String} {voice : Voice} {after : Session} (served : session.scene.clientOf image = some name)
      (same : after.scene = session.scene) :
      Opens session image ⟨.ok ⟨image, name, session.current, false, voice⟩, after, []⟩

/-- A step tells its own faults as faults of opening, and no other fault is one of closing. -/
theorem step_fault {α : Type} {wrap : Fault → Fault} {result : Except Fault α} {fault : Fault}
    (wrapped : ∀ cause, (wrap cause).isInconsistent = false) (failed : Registry.step wrap result = .error fault) :
    fault.isInconsistent = false := by
  cases result with
  | ok value => cases failed
  | error cause =>
    simp only [Registry.step, Except.error.injEq] at failed
    split at failed
    · rw [← failed]
      exact wrapped cause
    · rename_i foreign
      rw [← failed]
      cases cause <;> first | rfl | exact absurd rfl foreign

theorem resolve_of (registry : Registry) (workspace : String) (debug : Bool) :
    (∃ fault, registry.resolve workspace debug = .error fault ∧ fault.isInconsistent = false) ∨
      ∃ options, registry.resolve workspace debug = .ok options ∧ options.workspace = workspace := by
  unfold Registry.resolve
  cases account : Registry.step .account registry.getAccount with
  | error fault => exact .inl ⟨fault, rfl, step_fault (fun _ => rfl) account⟩
  | ok name =>
    cases resource : Registry.step .resource (registry.getZone workspace) with
    | error fault => exact .inl ⟨fault, rfl, step_fault (fun _ => rfl) resource⟩
    | ok zone =>
      simp only [bind, Except.bind]
      cases region : Registry.step .region (Registry.regionOf zone) with
      | error fault => exact .inl ⟨fault, rfl, step_fault (fun _ => rfl) region⟩
      | ok found => exact .inr ⟨_, rfl, rfl⟩

theorem clientFor_ok {session : Session} {options : ClientOptions} {name : String} {image : Image}
    (served : session.clientFor options = .ok name) (own : options.workspace = image.spec.workspace) :
    session.scene.clientOf image = some name := by
  unfold clientFor at served
  simp only [Scene.clientOf, scene]
  cases factory : session.factory <;> simp only [factory] at served ⊢ <;> cases served
  · rfl
  · rw [own]

theorem clientFor_fault {session : Session} {options : ClientOptions} {fault : Fault}
    (failed : session.clientFor options = .error fault) : fault.isInconsistent = false := by
  unfold clientFor at failed
  cases factory : session.factory <;> simp only [factory] at failed <;> cases failed
  rfl

theorem openScope_opens (session : Session) (image : Image) (channel : Option Channel) (debug : Bool) :
    Opens session image ((openScope ⟨true, some image, channel, debug⟩).bare session) := by
  unfold openScope
  simp only [Bool.not_true, Bool.false_eq_true, ↓reduceIte]
  rw [Attempt.bare_bind, Attempt.bare_read, Attempt.read_then, Attempt.bare_bind, Attempt.bare_of]
  rcases resolve_of session.registry image.spec.workspace
      (debug || session.thresholds.lets (channel.getD .scopes) .debug) with
    ⟨fault, failed, other⟩ | ⟨options, resolved, own⟩
  · rw [failed]
    exact .refused other rfl
  · rw [Attempt.of_then resolved, Attempt.bare_bind, Attempt.bind_of_ok (bare_say _ _ _ _),
      Attempt.bare_bind, Attempt.bind_of_ok (bare_emit rfl _), Attempt.bare_bind, Attempt.bare_of]
    cases served : session.clientFor options with
    | error fault => exact .refused (clientFor_fault served) rfl
    | ok name =>
      refine .opened (clientFor_ok served own) ?_
      exact (scene_putWorkspace name _ _).trans (Scene.withWorkspace_of_eq rfl)

/-- The ways of closing an open scope on the store in use. -/
inductive Closes (scene : Scene) (image : Image) : Except Fault Unit → Scene → List Note → Prop
  | refused (broken : image.status.isConsistent = false) :
      Closes scene image (.error (.inconsistent image.path image.status.ready image.status.imageId)) scene []
  | handed {result : Except Fault Unit} {objects : Catalog} (sound : image.status.isConsistent = true)
      (persists : Depot.Persists scene.objects image result objects) :
      Closes scene image result (scene.withObjects objects) [.submitted image]

theorem closeScope_closes (session : Session) (scope : Scope) (unclosed : scope.closed = false)
    (current : scope.depot = session.current) :
    ∃ result after notes,
      (closeScope scope).bare session = ⟨.ok (result, { scope with closed := true }), after, notes⟩ ∧
      Closes session.scene scope.image result after.scene notes := by
  unfold closeScope
  simp only [unclosed, Bool.false_eq_true, ↓reduceIte]
  cases sound : scope.image.status.isConsistent with
  | false =>
    refine ⟨_, session, [], rfl, ?_⟩
    exact .refused sound
  | true =>
    simp only [Bool.not_true, Bool.false_eq_true, ↓reduceIte, Attempt.bare_bind, Attempt.bare_tried, current]
    obtain ⟨persists, handed⟩ := Depot.persist_persists scope.image (session.depot session.current)
    generalize ran : (Depot.persist scope.image).bare (session.depot session.current) = outcome at persists handed
    obtain ⟨result, depot, notes⟩ := outcome
    obtain rfl : notes = [.submitted scope.image] := handed
    obtain ⟨after, done, same⟩ := bare_inCurrent_of ran
    have tried : (inDepot session.current (Depot.persist scope.image)).bare.tried session =
        ⟨.ok result, after, [.submitted scope.image]⟩ := by
      simp only [Attempt.tried, done]
    refine ⟨result, after, [.submitted scope.image], ?_, ?_⟩
    · rw [Attempt.bind_of_ok tried]
      rfl
    · rw [same]
      exact .handed sound persists

/-- The ways of a pass over an object: nothing is done, or the pass is done on the stored image and the image handed
back, unless its status is not consistent. -/
inductive Reconciles (scene : Scene) (id : ObjectId) : Except Fault Pass.Requeue → Scene → List Note → Prop
  | idle {result : Except Fault Pass.Requeue}
      (other : ∀ fault, result = .error fault → fault.isInconsistent = false) :
      Reconciles scene id result scene []
  | refused {key : ObjectKey} {image : Image} {name : String} {result : Except Fault Pass.Requeue} {bench : Bench}
      {notes : List Note} (known : id.key? = some key) (stored : scene.objects.get? key = some image)
      (served : scene.clientOf image = some name)
      (works : Works scene.config ⟨image, scene.workspaces name⟩ ⟨result, bench, notes⟩)
      (broken : bench.image.status.isConsistent = false) :
      Reconciles scene id
        (.error (.inconsistent bench.image.path bench.image.status.ready bench.image.status.imageId))
        (scene.withWorkspace name bench.workspace) notes
  | handed {key : ObjectKey} {image : Image} {name : String} {result : Except Fault Pass.Requeue} {bench : Bench}
      {notes : List Note} {ending : Except Fault Unit} {objects : Catalog}
      (known : id.key? = some key) (stored : scene.objects.get? key = some image)
      (served : scene.clientOf image = some name)
      (works : Works scene.config ⟨image, scene.workspaces name⟩ ⟨result, bench, notes⟩)
      (sound : bench.image.status.isConsistent = true)
      (persists : Depot.Persists scene.objects bench.image ending objects) :
      Reconciles scene id (ending >>= fun _ => result)
        ((scene.withWorkspace name bench.workspace).withObjects objects) (notes ++ [.submitted bench.image])

/-- The ways of a pass over an object that is stored: its scope does not open, or the pass is done on the image, which
is handed back unless its status is not consistent. -/
inductive Attends (scene : Scene) (image : Image) : Except Fault Pass.Requeue → Scene → List Note → Prop
  | unopened {fault : Fault} (other : fault.isInconsistent = false) : Attends scene image (.error fault) scene []
  | refused {name : String} {result : Except Fault Pass.Requeue} {bench : Bench} {notes : List Note}
      (served : scene.clientOf image = some name)
      (works : Works scene.config ⟨image, scene.workspaces name⟩ ⟨result, bench, notes⟩)
      (broken : bench.image.status.isConsistent = false) :
      Attends scene image
        (.error (.inconsistent bench.image.path bench.image.status.ready bench.image.status.imageId))
        (scene.withWorkspace name bench.workspace) notes
  | handed {name : String} {result : Except Fault Pass.Requeue} {bench : Bench} {notes : List Note}
      {ending : Except Fault Unit} {objects : Catalog} (served : scene.clientOf image = some name)
      (works : Works scene.config ⟨image, scene.workspaces name⟩ ⟨result, bench, notes⟩)
      (sound : bench.image.status.isConsistent = true)
      (persists : Depot.Persists scene.objects bench.image ending objects) :
      Attends scene image (ending >>= fun _ => result)
        ((scene.withWorkspace name bench.workspace).withObjects objects) (notes ++ [.submitted bench.image])

theorem Attends.reconciles {scene after : Scene} {id : ObjectId} {key : ObjectKey} {image : Image}
    {result : Except Fault Pass.Requeue} {notes : List Note} (attends : Attends scene image result after notes)
    (known : id.key? = some key) (stored : scene.objects.get? key = some image) :
    Reconciles scene id result after notes := by
  cases attends with
  | unopened other => exact .idle fun fault failed => by cases failed; exact other
  | refused served works broken => exact .refused known stored served works broken
  | handed served works sound persists => exact .handed known stored served works sound persists

/-- A pass that answers has done its work, and the store has taken the image. -/
theorem Attends.sound {scene after : Scene} {image : Image} {name : String} {requeue : Pass.Requeue}
    {notes : List Note} (attends : Attends scene image (.ok requeue) after notes)
    (served : scene.clientOf image = some name) :
    ∃ bench made objects, Works scene.config ⟨image, scene.workspaces name⟩ ⟨.ok requeue, bench, made⟩ ∧
      bench.image.status.isConsistent = true ∧ Depot.Persists scene.objects bench.image (.ok ()) objects ∧
      after = (scene.withWorkspace name bench.workspace).withObjects objects := by
  generalize told : Except.ok requeue = result at attends
  cases attends with
  | unopened other | refused client works broken => cases told
  | @handed _ result bench made ending objects client works sound persists =>
    obtain rfl := Option.some.inj (served.symm.trans client)
    cases ending with
    | error fault => cases told
    | ok done =>
      obtain rfl : Except.ok requeue = result := told
      exact ⟨bench, made, objects, works, sound, persists, rfl⟩

/-- A pass on which nothing else fails, and which does not answer, is refused for the status that its work comes to. -/
theorem Attends.broken {scene after : Scene} {image : Image} {name : String} {fault : Fault} {notes : List Note}
    (attends : Attends scene image (.error fault) after notes) (served : scene.clientOf image = some name)
    (inconsistent : fault.isInconsistent = true) :
    ∃ worked bench, Works scene.config ⟨image, scene.workspaces name⟩ ⟨worked, bench, notes⟩ ∧
      bench.image.status.isConsistent = false ∧ after = scene.withWorkspace name bench.workspace ∧
      fault = .inconsistent bench.image.path bench.image.status.ready bench.image.status.imageId := by
  generalize told : Except.error fault = result at attends
  cases attends with
  | unopened other =>
    cases told
    rw [other] at inconsistent
    cases inconsistent
  | refused client works broken =>
    obtain rfl := Option.some.inj (served.symm.trans client)
    exact ⟨_, _, works, broken, rfl, Except.error.inj told⟩
  | @handed _ result bench _ ending objects client works sound persists =>
    cases ending with
    | error refusal =>
      cases told
      cases persists with
      | refused store =>
        rw [Fault.isInconsistent_of_isStore store] at inconsistent
        cases inconsistent
    | ok done =>
      obtain rfl : Except.error fault = result := told
      rw [Fault.isInconsistent_of_isOfCall works.isOfCall] at inconsistent
      cases inconsistent

/-- Outcomes of a pass over an image that is stored. -/
def AttendsTo (session : Session) (image : Image) (outcome : Outcome Session Pass.Requeue) : Prop :=
  Attends session.scene image outcome.result outcome.state.scene outcome.notes

theorem workIn_attends (session : Session) (scope : Scope) {image : Image}
    (served : session.scene.clientOf image = some scope.workspace) (copy : scope.image = image)
    (unclosed : scope.closed = false) (current : scope.depot = session.current) :
    AttendsTo session image ((workIn session.config scope).bare session) := by
  have works := Pass.body_works session.config scope.voice ⟨scope.image, session.workspace scope.workspace⟩
  rcases worked : (Pass.body session.config scope.voice).bare ⟨scope.image, session.workspace scope.workspace⟩ with
    ⟨result, bench, notes⟩
  rw [worked, copy] at works
  obtain ⟨visited, done, seen⟩ := bare_visit_of worked
  unfold workIn
  rw [Attempt.bare_bind, Attempt.bind_of_ok done]
  have current_visited : scope.depot = visited.current := by
    rw [current, ← scene_current visited, seen]
    rfl
  obtain ⟨ending, closed, handed, closing, closes⟩ := closeScope_closes visited
    { scope with image := bench.image } unclosed current_visited
  simp only [Attempt.bare_bind]
  rw [Attempt.bind_of_ok closing]
  rw [seen] at closes
  generalize after_scene : closed.scene = after at closes
  cases closes with
  | refused broken =>
    change Attends session.scene image _ closed.scene _
    rw [after_scene, List.nil_append, Attempt.bare_fail]
    have reached := Attends.refused served works broken
    simpa [Attempt.fail] using reached
  | handed sound persists =>
    cases ending with
    | error fault =>
      change Attends session.scene image _ closed.scene _
      rw [after_scene]
      exact Attends.handed served works sound persists
    | ok =>
      change Attends session.scene image _ closed.scene _
      rw [after_scene]
      exact Attends.handed served works sound persists

theorem reconcile_attends {id : ObjectId} {key : ObjectKey} {session : Session} {image : Image}
    (known : id.key? = some key) (stored : session.scene.objects.get? key = some image) :
    AttendsTo session image ((reconcile id).bare session) := by
  unfold reconcile
  rw [Attempt.bare_bind]
  obtain ⟨looked, found, same⟩ := bare_stored_of known session
  rw [Attempt.bind_of_ok found, stored]
  simp only [List.nil_append, Attempt.bare_bind]
  rw [Attempt.bind_of_ok (bare_say _ _ _ _), Attempt.bare_read, Attempt.read_then]
  have opens := openScope_opens looked image (some .passes) looked.config.debug
  rcases opening : (openScope ⟨true, some image, some .passes, looked.config.debug⟩).bare looked with
    ⟨fault | scope, opened, notes⟩
  all_goals rw [opening] at opens
  · rw [Attempt.bind_of_error opening]
    cases opens with
    | refused other unchanged =>
      rw [AttendsTo, unchanged, same]
      exact .unopened other
  · rw [Attempt.bind_of_ok opening]
    cases opens with
    | @opened name voice _ served unchanged =>
      have kept : opened.scene = session.scene := unchanged.trans same
      have config : looked.config = opened.config := (congrArg Scene.config unchanged).symm
      have attends := workIn_attends opened ⟨image, name, looked.current, false, voice⟩ (unchanged ▸ served) rfl rfl
        (congrArg Scene.current unchanged).symm
      rw [AttendsTo, kept, ← config] at attends
      exact attends

/-- Outcomes of a pass over an object. -/
def PassesOver (session : Session) (id : ObjectId) (outcome : Outcome Session Pass.Requeue) : Prop :=
  Reconciles session.scene id outcome.result outcome.state.scene outcome.notes

theorem reconcile_passesOver (id : ObjectId) (session : Session) :
    PassesOver session id ((reconcile id).bare session) := by
  cases known : id.key? with
  | none =>
    obtain ⟨after, failed, same⟩ := bare_stored_of_none known session
    unfold reconcile
    rw [Attempt.bare_bind, Attempt.bind_of_error failed, PassesOver, same]
    exact .idle fun fault refused => by cases refused; rfl
  | some key =>
    cases stored : session.scene.objects.get? key with
    | none =>
      obtain ⟨looked, found, same⟩ := bare_stored_of known session
      unfold reconcile
      rw [Attempt.bare_bind, Attempt.bind_of_ok found, stored]
      simp only [List.nil_append, Attempt.bare_bind]
      rw [Attempt.bind_of_ok (bare_say _ _ _ _), Attempt.bare_pure, Attempt.pure_apply, PassesOver, same]
      exact .idle nofun
    | some image => exact (reconcile_attends known stored).reconciles known stored

end Session

end ImageOperator
