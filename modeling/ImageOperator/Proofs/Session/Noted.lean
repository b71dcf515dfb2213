import ImageOperator.Proofs.Session.Taken

set_option autoImplicit false

/-!
What a pass over a stored image notes: the deeds of its work, then the image that it hands back, if it does.
-/

namespace ImageOperator

namespace Session

/-- The deeds of a pass, by its work. -/
def deeds (work : Work) : List Note :=
  (work.toOption.elim [] fun visit => visit.2.notes.filter Note.isDeed) ++ (handing work).toList.map .submitted

variable {id : ObjectId} {session : Session} {image : Image}

theorem workIn_noted {scope : Scope} (config : Config) (unclosed : scope.closed = false)
    (current : scope.depot = session.current) :
    ((workIn config scope).bare session).notes = deeds (.ok (scope.workspace,
      Pass.body config scope.voice ⟨scope.image, session.workspace scope.workspace⟩)) := by
  generalize passed : Pass.body config scope.voice ⟨scope.image, session.workspace scope.workspace⟩ = outcome
  have bare : (Pass.body config scope.voice).bare ⟨scope.image, session.workspace scope.workspace⟩ =
      ⟨outcome.result, outcome.state, outcome.notes.filter Note.isDeed⟩ := by
    simp only [Attempt.bare, passed]
  obtain ⟨visited, done, seen⟩ := bare_visit_of bare
  have unmoved : scope.depot = visited.current := by
    rw [current, ← scene_current visited, seen]
    rfl
  obtain ⟨ending, closed, handed, closing, closes⟩ := closeScope_closes visited
    { scope with image := outcome.state.image } unclosed unmoved
  have told : handed = (handing (.ok (scope.workspace, outcome))).toList.map .submitted := by
    have own : handing (.ok (scope.workspace, outcome)) =
        if outcome.state.image.status.isConsistent then some outcome.state.image else none := rfl
    rw [own]
    generalize closed.scene = after at closes
    cases closes with
    | refused broken => rw [if_neg (by simp [broken])]; rfl
    | handed sound persists => rw [if_pos sound]; rfl
  unfold workIn
  rw [Attempt.bare_bind, Attempt.bind_of_ok done]
  simp only [Attempt.bare_bind]
  rw [Attempt.bind_of_ok closing, told]
  cases ending with
  | error fault => exact congrArg _ (List.append_nil _)
  | ok => exact congrArg _ (List.append_nil _)

theorem opened_noted (session : Session) (image : Image) :
    ((openScope (session.passOpening image) >>= workIn session.config).bare session).notes =
      deeds (session.worked image) := by
  have opens := openScope_opens session image (some .passes) session.config.debug
  have result : ((openScope (session.passOpening image)).bare session).result =
      (openScope (session.passOpening image) session).result := rfl
  rw [Attempt.bare_bind]
  unfold worked
  rw [← result]
  change Opens session image ((openScope (session.passOpening image)).bare session) at opens
  generalize ran : (openScope (session.passOpening image)).bare session = opening at opens
  cases opens with
  | refused other same =>
    rw [Attempt.bind_of_error ran]
    rfl
  | @opened name voice after served same =>
    have unmoved : session.current = after.current := (congrArg Scene.current same).symm
    have workspaces : after.workspace = session.workspace := congrArg Scene.workspaces same
    rw [Attempt.bind_of_ok ran, List.nil_append, workIn_noted session.config rfl unmoved, workspaces]
    rfl

/-- What a pass over a stored image notes as done. -/
theorem reconcile_noted {key : ObjectKey} (known : id.key? = some key)
    (stored : session.scene.objects.get? key = some image) :
    ((reconcile id).bare session).notes = deeds (session.worked image) := by
  have looking := looks_of_key known session
  rw [show session.store.objects.get? key = some image from stored] at looking
  let looked := (putDepot session.current session.store session).keepEvents []
  have found : (inStore (Depot.getObject id)).bare session = ⟨.ok (some image), looked, []⟩ := by
    simp only [Attempt.bare, looking]
    rfl
  have scene : looked.scene = session.scene :=
    (scene_putDepot session session.store).trans (Scene.withObjects_of_eq rfl)
  have worked : looked.worked image = session.worked image :=
    worked_of_same rfl fun name _ => congrFun (congrArg Scene.workspaces scene) name
  unfold reconcile
  rw [Attempt.bare_bind, Attempt.bind_of_ok found]
  simp only [List.nil_append, Attempt.bare_bind]
  rw [Attempt.bind_of_ok (bare_say _ _ _ looked), Attempt.bare_read, Attempt.read_then, ← worked, ← opened_noted,
    Attempt.bare_bind]
  rfl

theorem submitted_of_handsBack {key : ObjectKey} {handed : Image} (known : id.key? = some key)
    (stored : session.scene.objects.get? key = some image) (back : session.handsBack? image = some handed) :
    .submitted handed ∈ (reconcile id session).notes := by
  rw [← Attempt.mem_bare_notes rfl, reconcile_noted known stored, deeds, ← handsBack?_worked, back]
  exact List.mem_append_right _ (List.mem_singleton_self _)

theorem handsBack?_of_submitted {key : ObjectKey} {handed : Image} (known : id.key? = some key)
    (stored : session.scene.objects.get? key = some image) (submitted : .submitted handed ∈ (reconcile id session).notes) :
    session.handsBack? image = some handed := by
  have noted : handed ∈ (reconcile id session).notes.filterMap Note.submitted? :=
    List.mem_filterMap.mpr ⟨_, submitted, rfl⟩
  rw [(reconcile_handsOver known stored name_of_client).submitted] at noted
  exact Option.mem_toList.mp noted

end Session

end ImageOperator
