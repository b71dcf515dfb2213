import ImageOperator.Proofs.Session.OneWrite
import ImageOperator.Proofs.Store.Apart

set_option autoImplicit false

/-!
Passes over objects of different workspaces can be made in either order. What a pass does is decided by its own image
and workspace, and by what stands in its own places of the store; what it changes lies there too.
-/

namespace ImageOperator

namespace Session

open Depot (SameStock)

/-- The work of a pass: its workspace and what was come to there, unless the scope did not open. -/
abbrev Work : Type :=
  Except Fault (String × Outcome Bench Pass.Requeue)

/-- The work of a pass over an image. -/
def worked (session : Session) (image : Image) : Work :=
  (openScope (session.passOpening image) session).result.map fun scope =>
    (scope.workspace, Pass.body session.config scope.voice ⟨image, session.workspace scope.workspace⟩)

/-- What closing the scope of a pass comes to. -/
def closing (image : Image) (store : Depot) : Except Fault Unit :=
  if image.isConsistent then (Depot.persist image store).result
  else .error (.inconsistent image.path image.status.ready image.status.imageId)

/-- What a pass answers after its work, given the store that its image is handed back to. -/
def answering (store : Depot) : Work → Except Fault Pass.Requeue
  | .error fault => .error fault
  | .ok (_, outcome) => closing outcome.state.image store >>= fun _ => outcome.result

/-- The scene after the work of a pass. -/
def sceneAfter (scene : Scene) : Work → Scene
  | .error _ => scene
  | .ok (name, outcome) => scene.withWorkspace name outcome.state.workspace

/-- The image that a pass hands back after its work. -/
def handing (work : Work) : Option Image :=
  (work.toOption.map (·.2.state.image)).filter Image.isConsistent

variable {session other : Session} {image : Image}

theorem handsBack?_worked (session : Session) (image : Image) :
    session.handsBack? image = handing (session.worked image) := by
  unfold handsBack? passed? handing worked
  cases (openScope (session.passOpening image) session).result <;> rfl

theorem worked_of_same (same : other.terms = session.terms)
    (own : ∀ name, session.scene.clientOf image = some name → other.workspace name = session.workspace name) :
    other.worked image = session.worked image := by
  have config : other.config = session.config := congrArg Terms.config same
  unfold worked
  rw [openScope_of_terms same, config]
  cases result : (openScope (session.passOpening image) session).result with
  | error fault => rfl
  | ok scope =>
    have client := (openScope_ok result).2.2.2
    simp only [Except.map, own scope.workspace client]

theorem closeScope_closing {scope : Scope} (unclosed : scope.closed = false)
    (current : scope.depot = session.current) :
    (closeScope scope session).result =
        .ok (closing scope.image session.store, { scope with closed := true }) ∧
      (closeScope scope session).state.workspace = session.workspace := by
  unfold closeScope closing Image.isConsistent
  simp only [unclosed, Bool.false_eq_true, ↓reduceIte, current]
  cases scope.image.status.isConsistent with
  | false => exact ⟨rfl, rfl⟩
  | true => exact ⟨rfl, rfl⟩

theorem workIn_answers {scope : Scope} (config : Config) (unclosed : scope.closed = false)
    (current : scope.depot = session.current) :
    let outcome := Pass.body config scope.voice ⟨scope.image, session.workspace scope.workspace⟩
    (workIn config scope session).result = answering session.store (.ok (scope.workspace, outcome)) ∧
      (workIn config scope session).state.workspace =
        (sceneAfter session.scene (.ok (scope.workspace, outcome))).workspaces := by
  intro outcome
  let visited := (visit scope (Pass.body config scope.voice) session).state
  have ran : visit scope (Pass.body config scope.voice) session =
      ⟨.ok (outcome.result, { scope with image := outcome.state.image }), visited, _⟩ := rfl
  have workspaces : visited.workspace = (sceneAfter session.scene (.ok (scope.workspace, outcome))).workspaces :=
    congrArg Scene.workspaces (scene_putWorkspace scope.workspace outcome.state.workspace session)
  obtain ⟨closes, untouched⟩ :=
    @closeScope_closing visited { scope with image := outcome.state.image } unclosed current
  unfold workIn
  rw [Attempt.bind_of_ok ran]
  rcases ended : closeScope { scope with image := outcome.state.image } visited with ⟨result, closed, notes⟩
  rw [ended] at closes untouched
  obtain rfl := closes
  dsimp only at untouched ⊢
  rw [Attempt.bind_of_ok ended, ← workspaces, ← untouched]
  change _ = (closing outcome.state.image visited.store >>= fun _ => outcome.result) ∧ _
  cases closing outcome.state.image visited.store with
  | error fault => exact ⟨rfl, rfl⟩
  | ok => exact ⟨rfl, rfl⟩

theorem opened_answers (session : Session) (image : Image) :
    let outcome := (openScope (session.passOpening image) >>= workIn session.config) session
    outcome.result = answering session.store (session.worked image) ∧
      outcome.state.workspace = (sceneAfter session.scene (session.worked image)).workspaces := by
  intro outcome
  have store := preserves_openScope store (session.passOpening image) session
  have scene := (openScope_copies (session.passOpening image) session).1
  unfold outcome worked
  rcases opening : openScope (session.passOpening image) session with ⟨fault | scope, opened, notes⟩
  all_goals rw [opening] at store scene
  · rw [Attempt.bind_of_error opening]
    exact ⟨rfl, congrArg Scene.workspaces scene⟩
  · obtain ⟨rfl, unclosed, current, -⟩ := openScope_ok (congrArg Outcome.result opening)
    have unmoved : scope.depot = opened.current := current.trans (congrArg Scene.current scene).symm
    have same : opened.workspace = session.workspace := congrArg Scene.workspaces scene
    have answers := workIn_answers session.config unclosed unmoved
    rw [store, scene, same] at answers
    rw [Attempt.bind_of_ok opening]
    exact answers

/-- What a pass over a stored image answers, and what it leaves of the workspaces. -/
theorem reconcile_answers {id : ObjectId} {key : ObjectKey} (known : id.key? = some key)
    (stored : session.scene.objects.get? key = some image) :
    (reconcile id session).result = answering session.store (session.worked image) ∧
      (reconcile id session).state.workspace = (sceneAfter session.scene (session.worked image)).workspaces := by
  have looking := looks_of_key known session
  rw [show session.store.objects.get? key = some image from stored] at looking
  let looked := (putDepot session.current session.store session).keepEvents []
  let said := looked.keepEvents [.log .passes .info ("Reconciling " ++ id.text)]
  have store : said.store = session.store := depot_putDepot_self session session.store
  have scene : said.scene = session.scene :=
    (scene_putDepot session session.store).trans (Scene.withObjects_of_eq rfl)
  have worked : said.worked image = session.worked image :=
    worked_of_same rfl fun name _ => congrFun (congrArg Scene.workspaces scene) name
  have answers := opened_answers said image
  rw [store, scene, worked] at answers
  unfold reconcile
  rw [Attempt.bind_of_ok looking]
  exact answers

/-- What a pass answers turns on the store only in what becomes of the image that it hands back. -/
theorem answering_of_same {work : Work} {one other : Depot}
    (same : ∀ image, handing work = some image →
      (Depot.persist image one).result = (Depot.persist image other).result) :
    answering one work = answering other work := by
  cases work with
  | error fault => rfl
  | ok visit =>
    obtain ⟨name, outcome⟩ := visit
    have closes : closing outcome.state.image one = closing outcome.state.image other := by
      unfold closing
      by_cases sound : outcome.state.image.isConsistent = true
      · rw [if_pos sound, if_pos sound]
        apply same
        exact Option.filter_eq_some_iff.mpr ⟨rfl, sound⟩
      · rw [if_neg sound, if_neg sound]
    simp only [answering, closes]

theorem sceneAfter_of_same {one other : Scene} {name : String} (same : one.workspaces name = other.workspaces name)
    (work : Work) :
    (sceneAfter one work).workspaces name = (sceneAfter other work).workspaces name := by
  cases work with
  | error fault => exact same
  | ok visit =>
    by_cases own : name = visit.1
    · simp only [sceneAfter, own, Scene.withWorkspace_self]
    · simp only [sceneAfter, Scene.withWorkspace_of_ne _ _ own, same]

theorem isHoused_of_kin {before after : Image} (kin : Image.Kin before after) : after.isHoused = before.isHoused := by
  have space : after.space = before.space := congrArg ObjectId.space kin.id
  have name : after.name = before.name := congrArg ObjectId.name kin.id
  rw [Image.isHoused, Image.isHoused, space, name]

section

variable {first second : Option Image} {key otherKey : ObjectKey} {store : Depot}

theorem get?_handOver (own : ∀ image, first = some image → image.id.key? = some key) (apart : otherKey ≠ key)
    (store : Depot) : (handOver first store).state.objects.get? otherKey = store.objects.get? otherKey := by
  cases first with
  | none => rfl
  | some image => exact (Depot.persist_persists image store).1.get?_of_ne (own image rfl) apart

/-- What two passes hand back can be handed over in either order. -/
theorem handOver_comm (own : ∀ image, first = some image → image.id.key? = some key)
    (other_own : ∀ image, second = some image → image.id.key? = some otherKey) (apart : key ≠ otherKey)
    (held : (store.objects.get? key).isSome = true) (other_held : (store.objects.get? otherKey).isSome = true)
    (housed : store.disk = none ∨ ∀ image, first = some image ∨ second = some image → image.isHoused = true) :
    (∀ image, first = some image → (Depot.persist image (handOver second store).state).result =
        (Depot.persist image store).result) ∧
      (∀ image, second = some image → (Depot.persist image (handOver first store).state).result =
        (Depot.persist image store).result) ∧
      SameStock (handOver second (handOver first store).state).state
        (handOver first (handOver second store).state).state := by
  have same (one : Depot) : SameStock one one := ⟨rfl, fun _ => rfl⟩
  cases first with
  | none => exact ⟨nofun, fun _ _ => rfl, same _⟩
  | some image =>
    cases second with
    | none => exact ⟨fun _ _ => rfl, nofun, same _⟩
    | some other =>
      obtain ⟨result, other_result, stock⟩ := Depot.persist_comm (own image rfl) (other_own other rfl) apart held
        other_held (housed.imp_right fun all => ⟨all image (.inl rfl), all other (.inr rfl)⟩)
      refine ⟨fun given same => ?_, fun given same => ?_, stock⟩
      · obtain rfl := Option.some.inj same
        exact result
      · obtain rfl := Option.some.inj same
        exact other_result

end

/-- What a pass over a stored image leaves, all of it decided by its work. -/
structure Passes (session : Session) (image : Image) (key : ObjectKey) (pass : Outcome Session Pass.Requeue) :
    Prop where
  terms : pass.state.terms = session.terms
  result : pass.result = answering session.store (session.worked image)
  workspaces : pass.state.workspace = (sceneAfter session.scene (session.worked image)).workspaces
  store : pass.state.store = (handOver (handing (session.worked image)) session.store).state
  own : ∀ handed, handing (session.worked image) = some handed → Image.Kin image handed ∧ handed.id.key? = some key

theorem reconcile_passes {id : ObjectId} {key : ObjectKey} (filed : session.store.IsFiled)
    (known : id.key? = some key) (stored : session.scene.objects.get? key = some image) :
    Passes session image key (reconcile id session) := by
  obtain ⟨result, workspaces⟩ := reconcile_answers known stored
  have hands := reconcile_handsOver known stored name_of_client
  refine ⟨preserves_reconcile terms id session, result, workspaces, ?_, fun handed back => ?_⟩
  · rw [← handsBack?_worked]
    exact hands.store
  · rw [← handsBack?_worked] at back
    have kin := handsBack?_kin back
    exact ⟨kin, kin.id ▸ filed _ (Catalog.mem_of_get? stored)⟩

section

variable {first second : Image} {key otherKey : ObjectKey} {pass : Outcome Session Pass.Requeue}

theorem Passes.elsewhere (passes : Passes session image key pass) (each : session.factory = .perWorkspace)
    {name : String} (apart : name ≠ image.spec.workspace) : pass.state.workspace name = session.workspace name := by
  rw [passes.workspaces]
  unfold worked
  cases opened : (openScope (session.passOpening image) session).result with
  | error fault => rfl
  | ok scope =>
    have client := (openScope_ok opened).2.2.2
    simp only [Scene.clientOf, scene, each, Option.some.injEq] at client
    exact Scene.withWorkspace_of_ne session.scene _ (client ▸ apart)

/-- A pass finds the same to work on after a pass over an object of another workspace. -/
theorem Passes.worked (passes : Passes session second otherKey pass) (each : session.factory = .perWorkspace)
    (apart : first.spec.workspace ≠ second.spec.workspace) : pass.state.worked first = session.worked first := by
  refine worked_of_same passes.terms fun name client => passes.elsewhere each ?_
  simp only [Scene.clientOf, scene, each, Option.some.injEq] at client
  exact client ▸ apart

theorem Passes.stored (passes : Passes session second otherKey pass) (apart : key ≠ otherKey) :
    pass.state.scene.objects.get? key = session.scene.objects.get? key := by
  have store : pass.state.scene.objects = (handOver (handing (session.worked second)) session.store).state.objects :=
    congrArg Depot.objects passes.store
  rw [store]
  exact get?_handOver (fun handed back => (passes.own handed back).2) apart session.store

end

/-- Two passes, each made first or after the other. -/
theorem reconcile_comm {id other : ObjectId} {first second : Image} (filed : session.Filed)
    (each : session.factory = .perWorkspace) (stored : session.stored? id = some first)
    (other_stored : session.stored? other = some second) (apart : id.key? ≠ other.key?)
    (workspaces : first.spec.workspace ≠ second.spec.workspace)
    (housed : session.disk = none ∨ first.isHoused = true ∧ second.isHoused = true) :
    let left := reconcile id session
    let right := reconcile other session
    let both := reconcile other left.state
    let back := reconcile id right.state
    back.result = left.result ∧ both.result = right.result ∧ SameStock both.state.store back.state.store ∧
      both.state.workspace = back.state.workspace := by
  intro left right both back
  obtain ⟨key, known, held⟩ := Option.bind_eq_some_iff.mp stored
  obtain ⟨otherKey, other_known, other_held⟩ := Option.bind_eq_some_iff.mp other_stored
  have keys : key ≠ otherKey := by
    rintro rfl
    exact apart (known.trans other_known.symm)
  have one := reconcile_passes (filed.depot session.current) known held
  have another := reconcile_passes (filed.depot session.current) other_known other_held
  have left_filed : left.state.Filed := maintains_reconcile id session filed
  have right_filed : right.state.Filed := maintains_reconcile other session filed
  have then_other : Passes left.state second otherKey both :=
    reconcile_passes (left_filed.depot _) other_known ((one.stored keys.symm).trans other_held)
  have then_one : Passes right.state first key back :=
    reconcile_passes (right_filed.depot _) known ((another.stored keys).trans held)
  have works : right.state.worked first = session.worked first := another.worked each workspaces
  have other_works : left.state.worked second = session.worked second := one.worked each workspaces.symm
  have all_housed : session.store.disk = none ∨ ∀ image, handing (session.worked first) = some image ∨
      handing (session.worked second) = some image → image.isHoused = true := by
    refine housed.imp_right fun houses image back => ?_
    rcases back with back | back
    · exact (isHoused_of_kin (one.own image back).1).trans houses.1
    · exact (isHoused_of_kin (another.own image back).1).trans houses.2
  obtain ⟨result, other_result, stock⟩ := @handOver_comm _ _ key otherKey session.store
    (fun image back => (one.own image back).2) (fun image back => (another.own image back).2) keys
    (Option.isSome_of_eq_some held) (Option.isSome_of_eq_some other_held) all_housed
  refine ⟨?_, ?_, ?_, ?_⟩
  · rw [then_one.result, works, another.store, answering_of_same result, one.result]
  · rw [then_other.result, other_works, one.store, answering_of_same other_result, another.result]
  · rw [then_other.store, then_one.store, works, other_works, one.store, another.store]
    exact stock
  · have left_each : left.state.factory = .perWorkspace := (congrArg Terms.factory one.terms).trans each
    have right_each : right.state.factory = .perWorkspace := (congrArg Terms.factory another.terms).trans each
    funext name
    by_cases own : name = first.spec.workspace
    · have elsewhere : name ≠ second.spec.workspace := own ▸ workspaces
      rw [then_other.elsewhere left_each elsewhere, one.workspaces, then_one.workspaces, works]
      exact sceneAfter_of_same (another.elsewhere each elsewhere).symm _
    · rw [then_one.elsewhere right_each own, another.workspaces, then_other.workspaces, other_works]
      exact sceneAfter_of_same (one.elsewhere each own) _

/-- Passes over two objects of different workspaces, each of which has a client of its own: whatever there is in the
clouds and whichever pass is made first, each answers the same, and the same objects in the same order, the same files
and the same workspaces are left. -/
theorem passes_commute {settings : Settings} {commands : List Command} {id other : ObjectId} {first second : Image}
    (clouds : List (String × Workspace)) (each : ((start settings).after commands).factory = .perWorkspace)
    (stored : ((start settings).after commands).stored? id = some first)
    (other_stored : ((start settings).after commands).stored? other = some second) (apart : id.key? ≠ other.key?)
    (workspaces : first.spec.workspace ≠ second.spec.workspace)
    (housed : ((start settings).after commands).disk = none ∨ first.isHoused = true ∧ second.isHoused = true) :
    let session := { (start settings).after commands with workspaces := clouds }
    let left := reconcile id session
    let right := reconcile other session
    let both := reconcile other left.state
    let back := reconcile id right.state
    back.result = left.result ∧ both.result = right.result ∧ SameStock both.state.store back.state.store ∧
      both.state.workspace = back.state.workspace := by
  have filed : ((start settings).after commands).Filed := after_filed (start_filed settings) commands
  exact @reconcile_comm { (start settings).after commands with workspaces := clouds } id other first second filed
    each stored other_stored apart workspaces housed

namespace Trial

/-- The settings with a directory and a second workspace. -/
def parted : Settings :=
  { filing with registry := ⟨"a", [("w", .text "dal12"), ("v", .text "wdc06")], none, none⟩ }

/-- The resource document of an image of a name in the second workspace. -/
def remote (name : String) : Value :=
  .mapping [(.text "apiVersion", .text Image.version), (.text "kind", .text Image.kind),
    (.text "metadata", .mapping [(.text "name", .text name), (.text "namespace", .text "s")]),
    (.text "spec", .mapping [(.text "serviceInstanceID", .text "v"), (.text "bucket", .text "b"),
      (.text "object", .text "o"), (.text "region", .text "r")])]

/-- One object, and one in the second workspace that is to be deleted. -/
def opposed : List Command :=
  [write "m", .addWritten (.document (remote "n")) none, .reconcile (id "n"), .requestDeletion (id "n")]

/-- A cloud that no job can be submitted to; the others have nothing in them. -/
def refusing : List (String × Workspace) :=
  [("w", { Workspace.empty "w" with failures := [(.createJob, "down")] })]

end Trial

theorem passes_commute_of_opposed :
    let session := { (start Trial.parted).after Trial.opposed with workspaces := Trial.refusing }
    let left := reconcile (Trial.id "m") session
    let right := reconcile (Trial.id "n") session
    let both := reconcile (Trial.id "n") left.state
    let back := reconcile (Trial.id "m") right.state
    ((∃ first second, session.stored? (Trial.id "m") = some first ∧ session.stored? (Trial.id "n") = some second ∧
        first.spec.workspace = "w" ∧ second.spec.workspace = "v" ∧
        first.isHoused = true ∧ second.isHoused = true) ∧
      left.result.isOk = false ∧ right.result = .ok none ∧ both.state.stored? (Trial.id "n") = none) ∧
    back.result = left.result ∧ both.result = right.result ∧ SameStock both.state.store back.state.store ∧
      both.state.workspace = back.state.workspace := by
  have held : ∃ first second, ((start Trial.parted).after Trial.opposed).stored? (Trial.id "m") = some first ∧
      ((start Trial.parted).after Trial.opposed).stored? (Trial.id "n") = some second ∧
      first.spec.workspace = "w" ∧ second.spec.workspace = "v" ∧
      first.isHoused = true ∧ second.isHoused = true := ⟨_, _, rfl, rfl, rfl, rfl, rfl, rfl⟩
  obtain ⟨first, second, stored, other_stored, near, far, housed, other_housed⟩ := held
  have apart : (Trial.id "m").key? ≠ (Trial.id "n").key? := by decide
  have workspaces : first.spec.workspace ≠ second.spec.workspace := by
    rw [near, far]
    decide
  refine ⟨⟨⟨first, second, stored, other_stored, near, far, housed, other_housed⟩, rfl, rfl, rfl⟩, ?_⟩
  exact passes_commute Trial.refusing rfl stored other_stored apart workspaces (.inr ⟨housed, other_housed⟩)

end Session

end ImageOperator
