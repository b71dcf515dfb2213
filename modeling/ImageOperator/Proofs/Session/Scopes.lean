import ImageOperator.Proofs.Session.Moves
import ImageOperator.Proofs.Session.Views

set_option autoImplicit false

namespace ImageOperator

namespace Session

open Image (Twin)

variable {α : Type}

instance : Unstored scopes where
  recorded _ _ := rfl
  workspaces _ _ := rfl
  stores _ _ _ := rfl

section

variable {τ : Type} (view : Session → τ) [Unstored view]

theorem preserves_inDepot (index : Nat) (attempt : Attempt Depot α) : (inDepot index attempt).Preserves view :=
  fun session => (Unclouded.recorded (putDepot index _ session) _).trans (Unstored.stores session index _)

theorem preserves_inStore (attempt : Attempt Depot α) : (inStore attempt).Preserves view :=
  (Attempt.preserves_read view).bind fun session => preserves_inDepot view session.current attempt

theorem preserves_closeScope (scope : Scope) : (closeScope scope).Preserves view := by
  unfold closeScope
  cases scope.closed with
  | true => exact Attempt.preserves_pure view _
  | false =>
    cases sound : scope.image.status.isConsistent with
    | false => simpa [sound] using Attempt.preserves_pure view _
    | true =>
      simp only [sound, Bool.not_true, Bool.false_eq_true, ↓reduceIte]
      exact (preserves_inDepot view _ _).tried.bind fun _ => Attempt.preserves_pure view _

theorem preserves_reconcile (id : ObjectId) : (reconcile id).Preserves view := by
  refine (preserves_inStore view _).bind fun stored => ?_
  cases stored with
  | none => exact (preserves_emit view _).bind fun _ => Attempt.preserves_pure view _
  | some image =>
    refine (preserves_emit view _).bind fun _ => (Attempt.preserves_read view).bind fun session => ?_
    refine (preserves_openScope view _).bind fun scope => (preserves_visit view scope _).bind fun worked => ?_
    refine (preserves_closeScope view _).bind fun closed => ?_
    cases closed.1
    · exact Attempt.preserves_fail view _
    · exact Attempt.preserves_of view _

end

/-- What commands that work in scopes do to the objects of the store in use and to the scopes. -/
inductive Shifts (session : Session) : Command → Session → Prop
  | rests {command : Command} {after : Session} (objects : after.scene.objects = session.scene.objects)
      (scopes : after.scopes = session.scopes) : Shifts session command after
  | opens {command : Command} {id : ObjectId} {scope : Scope} {after : Session}
      (objects : after.scene.objects = session.scene.objects) (copied : session.stored? id = some scope.image)
      (scopes : after.scopes = session.scopes ++ [scope]) : Shifts session command after
  | touches {command : Command} {index : Nat} {scope other : Scope} {after : Session}
      (objects : after.scene.objects = session.scene.objects) (held : session.scopes[index]? = some scope)
      (twin : Twin scope.image other.image) (scopes : after.scopes = session.scopes.set index other) :
      Shifts session command after
  | marks {id : ObjectId} {now : String} {result : Except Fault Unit} {notes : List Note} {after : Session}
      (marks : Depot.Marks session.scene.objects id now result after.scene.objects notes)
      (scopes : after.scopes = session.scopes) : Shifts session (.requestDeletion id) after
  | passes {id : ObjectId} {result : Except Fault Pass.Requeue} {notes : List Note} {after : Session}
      (reconciles : Reconciles session.scene id result after.scene notes) (scopes : after.scopes = session.scopes) :
      Shifts session (.reconcile id) after
  | hands {name : String} {index : Nat} {scope : Scope} {result : Except Fault Unit} {after : Session}
      (named : session.scopeNames.lookup name = some index) (held : session.scopes[index]? = some scope)
      (unclosed : scope.closed = false) (current : scope.depot = session.current)
      (told : (step (.scope name .close) session).result = result.map fun _ => .done)
      (persists : Depot.Persists session.scene.objects scope.image result after.scene.objects)
      (scopes : after.scopes = session.scopes.set index { scope with closed := true }) :
      Shifts session (.scope name .close) after

theorem keeps_takeSubject (subject : Subject) (name : Option String) : (takeSubject subject name).Keeps scene := by
  cases subject with
  | absent => exact Attempt.keeps_pure scene _
  | source source => exact (keeps_takeSource source name).bind fun _ => Attempt.keeps_pure scene _
  | stored id =>
    refine (keeps_getObject id).bind fun stored => ?_
    cases stored with
    | none => exact Attempt.keeps_pure scene _
    | some image => exact (keeps_keep name image none).bind fun _ => Attempt.keeps_pure scene _

/-- The image that is taken for a stored subject is the stored one. -/
theorem takeSubject_stored {id : ObjectId} {name : Option String} {session : Session} {image : Image}
    (taken : (takeSubject (.stored id) name session).result = .ok (some image)) : session.stored? id = some image := by
  rw [← Attempt.bare_result] at taken
  unfold takeSubject at taken
  rw [Attempt.bare_bind] at taken
  cases known : id.key? with
  | none =>
    obtain ⟨after, failed, -⟩ := bare_stored_of_none known session
    rw [Attempt.bind_of_error failed] at taken
    cases taken
  | some key =>
    obtain ⟨after, found, -⟩ := bare_stored_of known session
    rw [Attempt.bind_of_ok found] at taken
    simp only [stored?, known, Option.bind_some]
    cases stored : session.scene.objects.get? key with
    | none =>
      rw [stored] at taken
      cases taken
    | some held =>
      rw [stored] at taken
      cases name <;> exact Except.ok.inj taken

/-- Taking a subject that is in the store or absent leaves the scopes alone, and what is taken comes from the store. -/
theorem takeSubject_copies {subject : Subject} (stored : ∀ source, subject ≠ .source source) (name : Option String)
    (session : Session) :
    (takeSubject subject name session).state.scopes = session.scopes ∧
      ∀ image, (takeSubject subject name session).result = .ok (some image) →
        ∃ id, session.stored? id = some image := by
  cases subject with
  | absent => exact ⟨rfl, nofun⟩
  | source source => exact absurd rfl (stored source)
  | stored id =>
    have preserves : (takeSubject (.stored id) name).Preserves scopes := by
      refine (preserves_inStore Session.scopes _).bind fun stored => ?_
      cases stored with
      | none => exact Attempt.preserves_pure scopes _
      | some image => exact (preserves_keep scopes name image none).bind fun _ => Attempt.preserves_pure scopes _
    exact ⟨preserves session, fun image taken => ⟨id, takeSubject_stored taken⟩⟩

/-- Opening a scope changes nothing that passes turn on, and the scope has the image that it was asked for with. -/
theorem openScope_copies (opening : Opening) (session : Session) :
    (openScope opening session).state.scene = session.scene ∧
      ∀ scope, (openScope opening session).result = .ok scope → opening.image = some scope.image := by
  obtain ⟨hasStore, image, channel, debug⟩ := opening
  have refused {fault : Fault} {claim : Scope → Prop} (scope : Scope)
      (opened : (Except.error fault : Except Fault Scope) = .ok scope) : claim scope := by
    cases opened
  cases hasStore with
  | false => exact ⟨rfl, refused⟩
  | true =>
    cases image with
    | none => exact ⟨rfl, refused⟩
    | some image =>
      have opens := openScope_opens session image channel debug
      rw [← Attempt.bare_state, ← Attempt.bare_result]
      generalize (openScope ⟨true, some image, channel, debug⟩).bare session = outcome at opens
      cases opens with
      | refused other same => exact ⟨same, refused⟩
      | opened served same => exact ⟨same, fun scope done => by cases done; rfl⟩

theorem taken_shifts {session heard : Session} (scene : heard.scene = session.scene)
    (scopes : heard.scopes = session.scopes) {subject : Subject} (stored : ∀ source, subject ≠ .source source)
    (keep : Option String) (hasStore debug : Bool) (channel : Option Channel) (name : String) (command : Command) :
    Shifts session command ((do
      let image ← takeSubject subject keep
      let scope ← openScope ⟨hasStore, image, channel, debug⟩
      let index := (← Attempt.state).scopes.length
      Attempt.update fun session =>
        { session with
          scopes := session.scopes ++ [scope]
          scopeNames := (name, index) :: session.scopeNames }
      return index : Attempt Session Nat) heard).state := by
  have taken_scene := (keeps_takeSubject subject keep heard).1
  obtain ⟨taken_scopes, copied⟩ := takeSubject_copies stored keep heard
  rcases taken : takeSubject subject keep heard with ⟨fault | image, before, notes⟩
  all_goals
    rw [Attempt.bare_state] at taken_scene
    rw [taken] at taken_scene taken_scopes copied
  · rw [Attempt.bind_of_error taken]
    exact .rests (congrArg Scene.objects (taken_scene.trans scene)) (taken_scopes.trans scopes)
  · rw [Attempt.bind_of_ok taken]
    obtain ⟨opened_scene, asked⟩ := openScope_copies ⟨hasStore, image, channel, debug⟩ before
    have opened_scopes := preserves_openScope Session.scopes ⟨hasStore, image, channel, debug⟩ before
    have whole := opened_scene.trans (taken_scene.trans scene)
    have alone := opened_scopes.trans (taken_scopes.trans scopes)
    rcases opening : openScope ⟨hasStore, image, channel, debug⟩ before with ⟨fault | scope, after, told⟩
    all_goals rw [opening] at whole alone asked
    · rw [Attempt.bind_of_error opening]
      exact .rests (congrArg Scene.objects whole) alone
    · rw [Attempt.bind_of_ok opening]
      obtain rfl : image = some scope.image := asked scope rfl
      obtain ⟨id, held⟩ := copied scope.image rfl
      have there := (stored?_of_objects (congrArg Scene.objects scene) id).symm.trans held
      refine .opens (congrArg Scene.objects whole) there ?_
      change after.scopes ++ [scope] = session.scopes ++ [scope]
      rw [alone]

theorem openNamed_shifts {request : OpenRequest} (stored : ∀ source, request.subject ≠ .source source)
    (command : Command) (session : Session) : Shifts session command (openNamed request session).state := by
  obtain ⟨name, subject, hasStore, debug, logger, keep⟩ := request
  cases logger <;> exact taken_shifts (by rfl) (by rfl) stored keep hasStore debug _ name command

theorem scopeAt_of {session : Session} {index : Nat} {scope : Scope} (held : session.scopes[index]? = some scope) :
    scopeAt index session = ⟨.ok scope, session, []⟩ := by
  simp only [scopeAt, Attempt.read_then, held]
  rfl

theorem scopeAt_of_none {session : Session} {index : Nat} (absent : session.scopes[index]? = none) :
    scopeAt index session = ⟨.error (.indexOutside "list"), session, []⟩ := by
  simp only [scopeAt, Attempt.read_then, absent]
  rfl

/-- What is done on the bench of a scope touches that scope only. -/
theorem atBench_shifts {attempt : Voice → Attempt Bench α}
    (twin : ∀ voice bench, Twin bench.image (attempt voice bench).state.image) (index : Nat) (command : Command)
    (session : Session) : Shifts session command (atBench index attempt session).state := by
  unfold atBench
  cases held : session.scopes[index]? with
  | none =>
    rw [Attempt.bind_of_error (scopeAt_of_none held)]
    exact .rests rfl rfl
  | some scope =>
    rw [Attempt.bind_of_ok (scopeAt_of held)]
    have worked : Twin scope.image (Scope.image { scope with
        image := (attempt scope.voice ⟨scope.image, session.workspace scope.workspace⟩).state.image }) :=
      twin scope.voice ⟨scope.image, session.workspace scope.workspace⟩
    exact .touches rfl held worked rfl

theorem scene_putDepot_of_ne {session : Session} {index : Nat} (depot : Depot) (other : index ≠ session.current) :
    (putDepot index depot session).scene = session.scene := by
  have objects := objects_putDepot_of_ne session depot other
  simp only [scene, Scene.mk.injEq]
  exact ⟨rfl, objects, rfl, rfl, rfl, rfl⟩

/-- A scope that is closed by name comes to what closing it comes to, and is kept as that leaves it. -/
theorem step_close {name : String} {index : Nat} {session after : Session} {scope other : Scope}
    {result : Except Fault Unit} {notes : List Note} (named : session.scopeNames.lookup name = some index)
    (held : session.scopes[index]? = some scope)
    (closing : (closeScope scope).bare session = ⟨.ok (result, other), after, notes⟩) :
    (step (.scope name .close) session).result = (result.map fun _ => Answer.done) ∧
      (step (.scope name .close) session).state = { after with scopes := after.scopes.set index other } := by
  have found : (scopeAt index).bare session = ⟨.ok scope, session, []⟩ := by
    rw [Attempt.bare, scopeAt_of held]
    rfl
  rw [← Attempt.bare_result, ← Attempt.bare_state]
  unfold step
  rw [Attempt.bare_bind, Attempt.bare_read, Attempt.read_then, named]
  change ((closeAt index >>= fun _ => pure Answer.done).bare session).result = _ ∧
    ((closeAt index >>= fun _ => pure Answer.done).bare session).state = _
  have closed : (closeAt index).bare session =
      ⟨result, { after with scopes := after.scopes.set index other }, notes⟩ := by
    unfold closeAt
    rw [Attempt.bare_bind, Attempt.bind_of_ok found, Attempt.bare_bind, Attempt.bind_of_ok closing]
    change (⟨result, { after with scopes := after.scopes.set index other }, [] ++ (notes ++ [])⟩ :
      Outcome Session Unit) = _
    rw [List.append_nil, List.nil_append]
  rw [Attempt.bare_bind]
  cases result with
  | error fault =>
    rw [Attempt.bind_of_error closed]
    exact ⟨rfl, rfl⟩
  | ok =>
    rw [Attempt.bind_of_ok closed]
    exact ⟨rfl, rfl⟩

theorem closeScope_elsewhere {session : Session} {scope : Scope} (unclosed : scope.closed = false)
    (other : scope.depot ≠ session.current) :
    ∃ result after notes,
      (closeScope scope).bare session = ⟨.ok (result, { scope with closed := true }), after, notes⟩ ∧
      after.scene = session.scene := by
  unfold closeScope
  simp only [unclosed, Bool.false_eq_true, ↓reduceIte]
  cases scope.image.status.isConsistent with
  | false => exact ⟨_, session, [], rfl, rfl⟩
  | true =>
    simp only [Bool.not_true, Bool.false_eq_true, ↓reduceIte, Attempt.bare_bind, Attempt.bare_tried]
    rcases ran : (Depot.persist scope.image).bare (session.depot scope.depot) with ⟨result, depot, notes⟩
    obtain ⟨told, done⟩ := bare_through_of (·.depot scope.depot) (putDepot scope.depot) ran
    have tried : (inDepot scope.depot (Depot.persist scope.image)).bare.tried session =
        ⟨.ok result, (putDepot scope.depot depot session).keepEvents told, notes⟩ := by
      simp only [Attempt.tried, inDepot, done]
    refine ⟨result, _, notes, ?_, (scene_keepEvents _ told).trans (scene_putDepot_of_ne depot other)⟩
    rw [Attempt.bind_of_ok tried]
    simp [Attempt.pure_apply]

/-- Closing a scope hands its copy to the store in use, or only shuts the scope. -/
theorem close_shifts (name : String) (session : Session) :
    Shifts session (.scope name .close) (step (.scope name .close) session).state := by
  cases named : session.scopeNames.lookup name with
  | none =>
    unfold step
    rw [Attempt.read_then, named]
    exact .rests rfl rfl
  | some index =>
    cases held : session.scopes[index]? with
    | none =>
      unfold step
      rw [Attempt.read_then, named]
      change Shifts session _ ((closeAt index >>= fun _ => pure Answer.done) session).state
      unfold closeAt
      rw [Attempt.bind_of_error (Attempt.bind_of_error (scopeAt_of_none held) _)]
      exact .rests rfl rfl
    | some scope =>
      cases closed : scope.closed with
      | true =>
        have closing : (closeScope scope).bare session =
            ⟨.ok (.error (.closed scope.image.path), scope), session, []⟩ := by
          unfold closeScope
          simp only [closed, ↓reduceIte]
          rfl
        rw [(step_close named held closing).2]
        exact .touches rfl held ⟨rfl, rfl⟩ rfl
      | false =>
        have shut : Twin scope.image (Scope.image { scope with closed := true }) := ⟨rfl, rfl⟩
        have still := preserves_closeScope Session.scopes scope session
        by_cases current : scope.depot = session.current
        · obtain ⟨result, after, notes, closing, closes⟩ := closeScope_closes session scope closed current
          obtain ⟨told, state⟩ := step_close named held closing
          rw [← Attempt.bare_state, closing] at still
          have scopes : (after.scopes.set index { scope with closed := true }) =
              session.scopes.set index { scope with closed := true } := by rw [still]
          rw [state]
          generalize after_scene : after.scene = reached at closes
          cases closes with
          | refused broken => exact .touches (congrArg Scene.objects after_scene) held shut scopes
          | handed sound persists =>
            have taken : Depot.Persists session.scene.objects scope.image result after.scene.objects :=
              after_scene ▸ persists
            exact .hands named held closed current told taken scopes
        · obtain ⟨result, after, notes, closing, same⟩ := closeScope_elsewhere closed current
          rw [← Attempt.bare_state, closing] at still
          rw [(step_close named held closing).2]
          exact .touches (congrArg Scene.objects same) held shut (by rw [← still])

theorem shifts_of_keeps {attempt : Attempt Session α} (keeps : attempt.Keeps scene)
    (preserves : attempt.Preserves scopes) (command : Command) (session : Session) :
    Shifts session command (attempt session).state :=
  .rests (congrArg Scene.objects (keeps session).1) (preserves session)

/-- What is answered at the end shifts nothing. -/
theorem shifts_answered {session : Session} {command : Command} {attempt : Attempt Session α}
    {answer : α → Attempt Session Answer} (shifts : Shifts session command (attempt session).state)
    (answers : ∀ value after, (answer value after).state = after) :
    Shifts session command ((attempt >>= answer) session).state := by
  rcases ran : attempt session with ⟨fault | value, after, notes⟩
  all_goals rw [ran] at shifts
  · rw [Attempt.bind_of_error ran]
    exact shifts
  · rw [Attempt.bind_of_ok ran, answers]
    exact shifts

theorem scopeAt_state (index : Nat) (session : Session) : (scopeAt index session).state = session := by
  cases held : session.scopes[index]? with
  | none => rw [scopeAt_of_none held]
  | some scope => rw [scopeAt_of held]

theorem twin_of_eq {before after : Image} (same : after = before) : Twin before after :=
  ⟨congrArg Image.id same, congrArg Image.deletion same⟩

theorem ensureImage_twin (voice : Voice) (bench : Bench) :
    Twin bench.image (Bench.ensureImage voice bench).state.image :=
  twin_of_eq (Bench.ensureImage_ensures voice bench).image

theorem latestJob_twin (voice : Voice) (bench : Bench) :
    Twin bench.image (Bench.latestJob voice bench).state.image := by
  rw [← Attempt.bare_state, Bench.bare_latestJob]
  exact ⟨rfl, rfl⟩

theorem deleteImage_twin (voice : Voice) (bench : Bench) :
    Twin bench.image (Bench.deleteImage voice bench).state.image := by
  rcases called : (Workspace.deleteImage bench.image.status.imageId).bare bench.workspace with ⟨result, after, notes⟩
  rw [← Attempt.bare_state, Bench.deleteImage_of voice called]
  exact ⟨rfl, rfl⟩

theorem deleteJob_twin (voice : Voice) (bench : Bench) :
    Twin bench.image (Bench.deleteJob voice bench).state.image := by
  rcases called : (Workspace.deleteJob bench.image.status.jobId).bare bench.workspace with ⟨result, after, notes⟩
  rw [← Attempt.bare_state, Bench.deleteJob_of voice called]
  exact ⟨rfl, rfl⟩

theorem addFinalizer_twin (name : Value) (bench : Bench) :
    Twin bench.image (Bench.addFinalizer name bench).state.image := by
  rw [← Attempt.bare_state, Bench.bare_addFinalizer]
  unfold Image.addFinalizer
  split <;> exact ⟨rfl, rfl⟩

theorem removeFinalizer_twin (name : Value) (bench : Bench) :
    Twin bench.image (Bench.removeFinalizer name bench).state.image := by
  rw [← Attempt.bare_state, Bench.bare_removeFinalizer]
  exact ⟨rfl, rfl⟩

theorem callScope_shifts {call : ScopeCall} (other : call ≠ .close) (index : Nat) (command : Command)
    (session : Session) : Shifts session command (callScope index call session).state := by
  have asked {answer : Scope → Attempt Session Answer} (answers : ∀ value after, (answer value after).state = after) :
      Shifts session command ((scopeAt index >>= answer) session).state :=
    shifts_answered (by rw [scopeAt_state]; exact .rests rfl rfl) answers
  have worked {attempt : Voice → Attempt Bench Unit}
      (twin : ∀ voice bench, Twin bench.image (attempt voice bench).state.image) :
      Shifts session command ((atBench index attempt >>= fun _ => pure Answer.done) session).state :=
    shifts_answered (atBench_shifts twin index command session) fun _ _ => rfl
  cases call with
  | close => exact absurd rfl other
  | ensureImage => exact shifts_answered (atBench_shifts ensureImage_twin index command session) fun _ _ => rfl
  | latestJob =>
    exact shifts_answered (atBench_shifts latestJob_twin index command session) fun job after => by cases job <;> rfl
  | deleteImage => exact worked deleteImage_twin
  | deleteJob => exact worked deleteJob_twin
  | setReady ready => exact worked fun _ _ => ⟨rfl, rfl⟩
  | setJobId jobId => exact worked fun _ _ => ⟨rfl, rfl⟩
  | setImageId imageId =>
    cases imageId with
    | none => exact .rests rfl rfl
    | some imageId => exact worked fun _ _ => ⟨rfl, rfl⟩
  | setPhase text =>
    cases known : Phase.ofText? text with
    | none =>
      simp only [callScope, known]
      exact .rests rfl rfl
    | some phase =>
      simp only [callScope, known]
      exact worked fun _ _ => ⟨rfl, rfl⟩
  | addFinalizer name => exact worked fun _ => addFinalizer_twin name
  | removeFinalizer name => exact worked fun _ => removeFinalizer_twin name
  | closed | image | client | isReady | imageId | phase | jobId | hasFinalizer => exact asked fun _ _ => rfl
  | keepImage name =>
    have keeps : (scopeAt index).Keeps scene := by
      refine (Attempt.keeps_read scene).bind fun session => ?_
      cases session.scopes[index]? with
      | none => exact Attempt.keeps_fail scene _
      | some scope => exact Attempt.keeps_pure scene _
    refine shifts_of_keeps (keeps.bind fun scope => ?_) (Attempt.Preserves.bind ?_ fun scope => ?_) command session
    · exact (keeps_keep _ _ _).bind fun _ => Attempt.keeps_pure scene _
    · exact fun session => congrArg scopes (scopeAt_state index session)
    · exact (preserves_keep scopes _ _ _).bind fun _ => Attempt.preserves_pure scopes _

/-- Commands of those who work in scopes on images of the store, of those who ask for deletions, and of all that goes on
elsewhere. -/
def worksInScopes (_ : Session) : Command → Bool
  | .open request => match request.subject with
    | .source _ => false
    | .stored _ | .absent => true
  | .scope _ _ | .requestDeletion _ | .reconcile _ | .cloud _ _ | .setNow _ => true
  | _ => false

/-- Routine commands that add nothing and leave the scopes alone shift no more than they move. -/
theorem routine_shifts {command : Command} (routine : command.isRoutine = true)
    (preserves : (step command).Preserves scopes) {session : Session} (nothing : session.brings command = none) :
    Shifts session command (step command session).state := by
  have still := preserves session
  obtain ⟨scene, told, reached, noted, moves⟩ := step_moves routine session
  cases moves with
  | rests => exact .rests (congrArg Scene.objects reached) still
  | adds brought adds =>
    rw [nothing] at brought
    cases brought
  | @marks id now result objects notes marks =>
    have put : (step (.requestDeletion id) session).state.scene.objects = objects := congrArg Scene.objects reached
    exact .marks (put ▸ marks) still
  | turns turns => exact .rests (by rw [reached, Scene.withWorkspace_objects]) still
  | reconciles told deeds reconciles => exact .passes (reached ▸ reconciles) still

theorem step_shifts {session : Session} {command : Command} (permitted : worksInScopes session command = true) :
    Shifts session command (step command session).state := by
  cases command with
  | «open» request =>
    unfold step
    refine shifts_answered (openNamed_shifts (fun source same => ?_) _ session) fun _ _ => rfl
    rw [worksInScopes, same] at permitted
    cases permitted
  | scope name call =>
    by_cases closing : call = .close
    · rw [closing]
      exact close_shifts name session
    · unfold step
      rw [Attempt.read_then]
      cases session.scopeNames.lookup name with
      | none => exact .rests rfl rfl
      | some index => exact callScope_shifts closing index _ session
  | requestDeletion id =>
    refine routine_shifts rfl ?_ rfl
    unfold step
    refine (Attempt.preserves_read scopes).bind fun _ => (preserves_inStore Session.scopes _).bind fun _ => ?_
    exact Attempt.preserves_pure scopes _
  | reconcile id =>
    refine routine_shifts rfl ?_ rfl
    unfold step
    exact (preserves_reconcile Session.scopes id).bind fun _ => Attempt.preserves_pure scopes _
  | cloud place command =>
    refine routine_shifts rfl ?_ rfl
    unfold step
    exact (Attempt.preserves_read scopes).bind fun _ => preserves_callCloud scopes _ command
  | setNow now => exact .rests rfl rfl
  | add | addWritten | persist | get | list | kept | changeKept | modify | listen | unlisten | writeFile | makeFolder
  | deleteFile | deleteRoot | files | pathFor | load | reopen | within | setRegistry | state => cases permitted

end Session

end ImageOperator
