import ImageOperator.Proofs.Scope.Notes
import ImageOperator.Proofs.Session.Filed
import ImageOperator.Proofs.Session.Run
import ImageOperator.Proofs.Session.Scopes
import ImageOperator.Proofs.Session.Trial
import ImageOperator.Proofs.Store.Documents
import ImageOperator.Proofs.Store.Notes

set_option autoImplicit false

/-!
A pass writes once at most, and to its own object. What it leaves of the stores is what handing its image back makes
of them, and before that it only makes calls.
-/

namespace ImageOperator

namespace Session

variable {α : Type}

/-- What a pass over an image of the store opens its scope with. -/
def passOpening (session : Session) (image : Image) : Opening :=
  { hasStore := true, image := some image, channel := some .passes, debug := session.config.debug }

/-- The image as it is once a pass is done on it, if the scope of the pass opens. -/
def passed? (session : Session) (image : Image) : Option Image :=
  match (openScope (session.passOpening image) session).result with
  | .ok scope => some (Pass.body session.config scope.voice ⟨image, session.workspace scope.workspace⟩).state.image
  | .error _ => none

/-- The image that a pass hands back to the store: the one that it is done on, if its status is consistent then. -/
def handsBack? (session : Session) (image : Image) : Option Image :=
  (session.passed? image).filter Image.isConsistent

/-- Hands an image to a store, if there is one to hand. -/
def handOver : Option Image → Attempt Depot Unit
  | some image => Depot.persist image
  | none => pure ()

theorem filter_shows_isOfStore (session : Session) (notes : List Note) :
    (notes.filter session.shows).filter Note.isOfStore = notes.filter Note.isOfStore := by
  rw [List.filter_filter]
  congr 1
  funext note
  cases note <;> rfl

theorem filterMap_shows_made? (session : Session) (notes : List Note) :
    (notes.filter session.shows).filterMap Note.made? = notes.filterMap Note.made? :=
  Note.filterMap_filter (fun note other => by cases note <;> first | rfl | cases other) notes

/-- Opening a scope turns on the registry, the clients and where events go. -/
theorem openScope_result (session : Session) (image : Image) (channel : Option Channel) (debug : Bool) :
    (openScope ⟨true, some image, channel, debug⟩ session).result =
      match session.registry.resolve image.spec.workspace
        (debug || session.thresholds.lets (channel.getD .scopes) .debug) with
      | .error fault => .error fault
      | .ok options =>
        (session.clientFor options).map fun workspace =>
          ⟨image, workspace, session.current, false,
            ⟨session.recorder.getD (.log (channel.getD .scopes)), channel.getD .scopes⟩⟩ := by
  unfold openScope
  simp only [Bool.not_true, Bool.false_eq_true, ↓reduceIte]
  rw [Attempt.read_then]
  cases session.registry.resolve image.spec.workspace
      (debug || session.thresholds.lets (channel.getD .scopes) .debug) with
  | error fault => rfl
  | ok options =>
    rw [Attempt.of_then rfl]
    dsimp only
    cases session.clientFor options <;> rfl

/-- The calls that a workspace has written down. -/
def callsOf (name : String) (session : Session) : List Call :=
  (session.workspace name).calls

theorem calls_emit {notes : List Note} (name : String) (silent : notes.filterMap Note.made? = [])
    (apart : notes.filter Note.isOfStore = []) : (emit notes).Calls (callsOf name) := by
  intro session
  change callsOf name session = callsOf name session ++ (notes.filter _).filterMap Note.made? ∧
    (notes.filter _).filter Note.isOfStore = []
  rw [filterMap_shows_made?, filter_shows_isOfStore, silent, List.append_nil]
  exact ⟨rfl, apart⟩

theorem openScope_calls (name : String) (opening : Opening) : (openScope opening).Calls (callsOf name) := by
  obtain ⟨hasStore, image, channel, debug⟩ := opening
  cases hasStore with
  | false => exact Attempt.calls_fail _ _
  | true =>
    cases image with
    | none => exact Attempt.calls_fail _ _
    | some image =>
      refine (Attempt.calls_read _).bind fun session => (Attempt.calls_of _ _).bind fun options => ?_
      refine (calls_emit name rfl rfl).bind fun _ => (calls_emit name rfl rfl).bind fun _ => ?_
      refine (Attempt.calls_of _ _).bind fun workspace => ?_
      refine Attempt.Calls.bind (Attempt.calls_update fun before => ?_) fun _ => Attempt.calls_pure _ _
      have same := (scene_putWorkspace workspace (before.workspace workspace) before).trans
        (Scene.withWorkspace_of_eq rfl)
      exact congrArg (fun scene => (scene.workspaces name).calls) same

/-- A scope is left with its image, and its workspace has written the calls down. -/
theorem visit_calls {scope : Scope} {attempt : Attempt Bench α} (calls : attempt.Calls Bench.callLog) :
    (visit scope attempt).Calls (callsOf scope.workspace) := by
  intro session
  obtain ⟨written, apart⟩ := calls ⟨scope.image, session.workspace scope.workspace⟩
  have put := congrArg (Scene.workspaces · scope.workspace) (scene_putWorkspace scope.workspace
    (attempt ⟨scope.image, session.workspace scope.workspace⟩).state.workspace session)
  rw [Scene.withWorkspace_self] at put
  refine ⟨?_, (filter_shows_isOfStore session _).trans apart⟩
  change (Session.workspace (putWorkspace _ _ session) scope.workspace).calls =
    callsOf scope.workspace session ++ ((attempt _).notes.filter _).filterMap Note.made?
  rw [filterMap_shows_made?]
  exact (congrArg Workspace.calls put).trans written

/-- Outcomes that leave the stores and their notes as handing an image over does, and of which one workspace has
written the calls down. -/
structure HandsOver (name : String) (session : Session) (handed : Option Image) (outcome : Outcome Session α) :
    Prop where
  store : outcome.state.store = (handOver handed session.store).state
  notes : outcome.notes.filter Note.isOfStore = (handOver handed session.store).notes.filter Note.isOfStore
  calls : callsOf name outcome.state = callsOf name session ++ outcome.notes.filterMap Note.made?

section

variable {β : Type} {name : String} {session middle : Session} {handed : Option Image}

/-- What has nothing to do with stores may come first. -/
theorem HandsOver.after {first : Attempt Session α} {next : α → Attempt Session β} {value : α} {notes : List Note}
    (hands : HandsOver name middle handed (next value middle)) (ran : first session = ⟨.ok value, middle, notes⟩)
    (same : middle.store = session.store)
    (apart : callsOf name middle = callsOf name session ++ notes.filterMap Note.made? ∧
      notes.filter Note.isOfStore = []) :
    HandsOver name session handed ((first >>= next) session) := by
  rw [Attempt.bind_of_ok ran]
  refine ⟨same ▸ hands.store, ?_, ?_⟩
  · rw [List.filter_append, apart.2, List.nil_append, hands.notes, same]
  · rw [List.filterMap_append, ← List.append_assoc, ← apart.1]
    exact hands.calls

/-- What is answered at the end changes nothing of that. -/
theorem HandsOver.answered {attempt : Attempt Session α} {answer : α → Attempt Session β}
    (hands : HandsOver name session handed (attempt middle))
    (answers : ∀ value after, (answer value after).state = after ∧ (answer value after).notes = []) :
    HandsOver name session handed ((attempt >>= answer) middle) := by
  rcases ran : attempt middle with ⟨fault | value, after, notes⟩
  all_goals rw [ran] at hands
  · rw [Attempt.bind_of_error ran]
    exact ⟨hands.store, hands.notes, hands.calls⟩
  · rw [Attempt.bind_of_ok ran, (answers value after).1, (answers value after).2, List.append_nil]
    exact ⟨hands.store, hands.notes, hands.calls⟩

end

theorem persist_handsOver (name : String) (session : Session) (image : Image) :
    HandsOver name session (some image) (inDepot session.current (Depot.persist image) session) := by
  refine ⟨depot_putDepot_self session _, filter_shows_isOfStore _ _, ?_⟩
  change callsOf name session = callsOf name session ++
    ((Depot.persist image session.store).notes.filter (Session.shows _)).filterMap Note.made?
  rw [filterMap_shows_made?, Depot.persist_made?, List.append_nil]

theorem closeScope_handsOver (name : String) {session : Session} {scope : Scope} (unclosed : scope.closed = false)
    (current : scope.depot = session.current) :
    HandsOver name session ((some scope.image).filter Image.isConsistent) (closeScope scope session) := by
  have filtered : (some scope.image).filter Image.isConsistent =
      if scope.image.status.isConsistent then some scope.image else none := rfl
  unfold closeScope
  simp only [unclosed, Bool.false_eq_true, ↓reduceIte, current, filtered]
  cases scope.image.status.isConsistent with
  | false => exact ⟨rfl, rfl, (List.append_nil _).symm⟩
  | true =>
    simp only [Bool.not_true, Bool.false_eq_true, ↓reduceIte]
    obtain ⟨store, notes, calls⟩ := persist_handsOver name session scope.image
    have tried : HandsOver name session (some scope.image)
        ((inDepot session.current (Depot.persist scope.image)).tried session) := ⟨store, notes, calls⟩
    exact tried.answered fun _ _ => ⟨rfl, rfl⟩

theorem workIn_handsOver {session : Session} {scope : Scope} (config : Config) (unclosed : scope.closed = false)
    (current : scope.depot = session.current) :
    let bench := (Pass.body config scope.voice ⟨scope.image, session.workspace scope.workspace⟩).state
    HandsOver scope.workspace session ((some bench.image).filter Image.isConsistent)
      (workIn config scope session) := by
  intro bench
  have apart := @visit_calls _ scope _ (Pass.calls_body config scope.voice) session
  unfold workIn
  refine HandsOver.after ?_ (rfl : visit scope _ session = ⟨.ok (_, { scope with image := bench.image }), _, _⟩) rfl
    apart
  have closes := @closeScope_handsOver scope.workspace (visit scope (Pass.body config scope.voice) session).state
    { scope with image := bench.image } unclosed current
  refine closes.answered fun closed after => ?_
  cases closed.1 <;> exact ⟨rfl, rfl⟩

theorem openScope_ok {session : Session} {image : Image} {channel : Option Channel} {debug : Bool} {scope : Scope}
    (opened : (openScope ⟨true, some image, channel, debug⟩ session).result = .ok scope) :
    scope.image = image ∧ scope.closed = false ∧ scope.depot = session.current ∧
      session.scene.clientOf image = some scope.workspace := by
  have opens := openScope_opens session image channel debug
  rw [← Attempt.bare_result] at opened
  generalize (openScope ⟨true, some image, channel, debug⟩).bare session = outcome at opens opened
  cases opens with
  | refused other same => cases opened
  | opened served same =>
    cases opened
    exact ⟨rfl, rfl, rfl, served⟩

theorem opened_handsOver {name : String} {session : Session} {image : Image}
    (served : ∀ other, session.scene.clientOf image = some other → other = name) :
    HandsOver name session (session.handsBack? image)
      ((openScope (session.passOpening image) >>= workIn session.config) session) := by
  have store := preserves_openScope store (session.passOpening image) session
  have scene := (openScope_copies (session.passOpening image) session).1
  have apart := openScope_calls name (session.passOpening image) session
  rcases opening : openScope (session.passOpening image) session with ⟨fault | scope, opened, notes⟩
  all_goals rw [opening] at store scene apart
  · have unopened : session.handsBack? image = none := by
      simp only [handsBack?, passed?, opening, Option.filter_none]
    rw [unopened, Attempt.bind_of_error opening]
    exact ⟨store, apart.2, apart.1⟩
  · have result : (openScope (session.passOpening image) session).result = .ok scope := by rw [opening]
    obtain ⟨rfl, unclosed, current, client⟩ := openScope_ok result
    have handed : session.handsBack? scope.image = (some (Pass.body session.config scope.voice
        ⟨scope.image, opened.workspace scope.workspace⟩).state.image).filter Image.isConsistent := by
      have same : opened.workspace = session.workspace := congrArg Scene.workspaces scene
      simp only [handsBack?, passed?, opening, same]
    have unmoved : scope.depot = opened.current := current.trans (congrArg Scene.current scene).symm
    obtain rfl := served _ client
    rw [handed]
    exact (workIn_handsOver session.config unclosed unmoved).after opening store apart

theorem name_of_client {scene : Scene} {image : Image} (other : String) (client : scene.clientOf image = some other) :
    other = (scene.clientOf image).getD "" := by
  rw [client]
  rfl

/-- What decides, besides stores and clouds, what a pass does. -/
structure Terms where
  registry : Registry
  thresholds : Thresholds
  recorder : Option Recorder
  factory : Factory
  home : String
  config : Config
  current : Nat

def terms (session : Session) : Terms :=
  ⟨session.registry, session.thresholds, session.recorder, session.factory, session.home, session.config,
    session.current⟩

instance : Unstored terms where
  recorded _ _ := rfl
  workspaces _ _ := rfl
  stores _ _ _ := rfl

theorem openScope_of_terms {session other : Session} (same : other.terms = session.terms) (image : Image) :
    (openScope (other.passOpening image) other).result = (openScope (session.passOpening image) session).result := by
  obtain ⟨registry, thresholds, recorder, factory, home, config, current⟩ := Terms.mk.inj same
  have clients : other.clientFor = session.clientFor := by
    funext options
    simp only [clientFor, factory, home]
  simp only [passOpening, openScope_result, registry, thresholds, recorder, clients, config, current]

/-- Sessions in which passes over the same image hand the same back. -/
theorem handsBack?_of_same {session other : Session} (same : other.terms = session.terms)
    (workspaces : other.workspace = session.workspace) (image : Image) :
    other.handsBack? image = session.handsBack? image := by
  have config : other.config = session.config := congrArg Terms.config same
  simp only [handsBack?, passed?, openScope_of_terms same, config, workspaces]

theorem looks_of_key {id : ObjectId} {key : ObjectKey} (known : id.key? = some key) (session : Session) :
    inStore (Depot.getObject id) session =
      ⟨.ok (session.store.objects.get? key), (putDepot session.current session.store session).keepEvents [], []⟩ := by
  have got : Depot.getObject id session.store = ⟨.ok (session.store.objects.get? key), session.store, []⟩ := by
    unfold Depot.getObject
    rw [Depot.keyOf_of known]
    rfl
  unfold inStore
  rw [Attempt.read_then]
  simp only [inDepot, through, show session.depot session.current = session.store from rfl, got]
  rfl

/-- A pass over a stored image hands the image over that the pass is done on, if any. -/
theorem reconcile_handsOver {id : ObjectId} {key : ObjectKey} {name : String} {session : Session} {image : Image}
    (known : id.key? = some key) (stored : session.scene.objects.get? key = some image)
    (served : ∀ other, session.scene.clientOf image = some other → other = name) :
    HandsOver name session (session.handsBack? image) (reconcile id session) := by
  have looking := looks_of_key known session
  rw [show session.store.objects.get? key = some image from stored] at looking
  let looked := (putDepot session.current session.store session).keepEvents []
  have store : looked.store = session.store := depot_putDepot_self session session.store
  have scene : looked.scene = session.scene :=
    (scene_putDepot session session.store).trans (Scene.withObjects_of_eq rfl)
  let said := looked.keepEvents [.log .passes .info ("Reconciling " ++ id.text)]
  have handed : said.handsBack? image = session.handsBack? image :=
    @handsBack?_of_same session said rfl (congrArg Scene.workspaces scene) image
  have saying := @calls_emit [.log .passes .info ("Reconciling " ++ id.text)] name rfl rfl looked
  unfold reconcile
  refine HandsOver.after ?_ looking store ⟨(List.append_nil _).symm, rfl⟩
  refine HandsOver.after ?_ (rfl : say .passes .info ("Reconciling " ++ id.text) looked = ⟨.ok (), said, _⟩) rfl saying
  rw [Attempt.read_then, ← handed]
  refine @opened_handsOver name said image fun other client => served other ?_
  rw [← client]
  exact congrArg (·.clientOf image) scene.symm

theorem handsBack?_kin {session : Session} {image handed : Image} (hands : session.handsBack? image = some handed) :
    Image.Kin image handed := by
  obtain ⟨passed, _⟩ := Option.filter_eq_some_iff.mp hands
  unfold passed? at passed
  split at passed
  · rename_i scope _
    obtain rfl := Option.some.inj passed
    exact (Pass.body_works session.config scope.voice ⟨image, session.workspace scope.workspace⟩).kin
  · cases passed

theorem looks_of_unknown {id : ObjectId} (unknown : id.key? = none) (session : Session) :
    inStore (Depot.getObject id) session =
      ⟨.error .type, (putDepot session.current session.store session).keepEvents [], []⟩ := by
  have got : Depot.getObject id session.store = ⟨.error .type, session.store, []⟩ := by
    unfold Depot.getObject
    rw [Depot.keyOf_of_none unknown]
    rfl
  unfold inStore
  rw [Attempt.read_then]
  simp only [inDepot, through, show session.depot session.current = session.store from rfl, got]
  rfl

/-- Every pass hands one image over at most: one that is handed back for the object that it looked for. -/
theorem reconcile_hands (id : ObjectId) (session : Session) :
    ∃ name handed, HandsOver name session handed (reconcile id session) ∧
      ∀ image, handed = some image → ∃ key stored, id.key? = some key ∧
        session.store.objects.get? key = some stored ∧ session.handsBack? stored = some image := by
  cases known : id.key? with
  | none =>
    refine ⟨session.home, none, ?_, nofun⟩
    unfold reconcile
    rw [Attempt.bind_of_error (looks_of_unknown known session)]
    exact ⟨depot_putDepot_self session session.store, rfl, (List.append_nil _).symm⟩
  | some key =>
    cases stored : session.store.objects.get? key with
    | none =>
      have looking := looks_of_key known session
      rw [stored] at looking
      let looked := (putDepot session.current session.store session).keepEvents []
      have saying := @calls_emit [.log .passes .info ("Image " ++ id.text ++ " not found in store, skipping")]
        session.home rfl rfl looked
      refine ⟨session.home, none, ?_, nofun⟩
      unfold reconcile
      refine HandsOver.after ?_ looking (depot_putDepot_self session session.store) ⟨(List.append_nil _).symm, rfl⟩
      refine HandsOver.after ?_ (rfl : say .passes .info _ looked = ⟨.ok (), looked.keepEvents _, _⟩) rfl saying
      exact ⟨rfl, rfl, (List.append_nil _).symm⟩
    | some image =>
      have hands := reconcile_handsOver known stored name_of_client
      exact ⟨_, _, hands, fun handed back => ⟨key, image, rfl, stored, back⟩⟩

section

variable {name : String} {session : Session} {handed : Option Image} {outcome : Outcome Session α}

theorem HandsOver.submitted (hands : HandsOver name session handed outcome) :
    outcome.notes.filterMap Note.submitted? = handed.toList := by
  rw [← Note.filterMap_filter Depot.submitted_of_apart, hands.notes, Note.filterMap_filter Depot.submitted_of_apart]
  cases handed with
  | none => rfl
  | some image => exact Depot.persist_submitted image session.store

theorem HandsOver.fired (hands : HandsOver name session handed outcome) {listener : String} {change : Change}
    {about : ObjectId} {given : Image} (fired : .fired listener change about given ∈ outcome.notes) :
    handed = some given ∧ about = given.id := by
  have ofStore : .fired listener change about given ∈ outcome.notes.filter Note.isOfStore :=
    List.mem_filter.mpr ⟨fired, rfl⟩
  rw [hands.notes] at ofStore
  cases handed with
  | none => cases ofStore
  | some image =>
    obtain ⟨told, notes, isTold⟩ := Depot.persist_tells image session.store
    rw [handOver, notes] at ofStore
    rcases List.mem_cons.mp ofStore with other | member
    · cases other
    · obtain ⟨_, _, same⟩ := isTold _ member
      cases same
      exact ⟨rfl, rfl⟩

end

/-- What a pass makes of the objects, in terms of the image that it hands over. -/
theorem HandsOver.objects {name : String} {session : Session} {handed : Option Image} {outcome : Outcome Session α}
    (hands : HandsOver name session handed outcome) {key : ObjectKey}
    (own : ∀ image, handed = some image → image.id.key? = some key) :
    outcome.state.scene.objects.filter (·.1 ≠ key) = session.scene.objects.filter (·.1 ≠ key) ∧
      ∀ last, outcome.state.scene.objects.get? key = some last →
        outcome.state.scene.objects.map (·.1) = session.scene.objects.map (·.1) ∧
          (handed = some last ∨ session.scene.objects.get? key = some last) := by
  have store : outcome.state.scene.objects = (handOver handed session.store).state.objects :=
    congrArg Depot.objects hands.store
  rw [store]
  cases handed with
  | none => exact ⟨rfl, fun last stored => ⟨rfl, .inr stored⟩⟩
  | some image =>
    have files := Depot.persist_files image session.store
    refine ⟨files.others (own image rfl), fun last stored => ?_⟩
    obtain ⟨keys, new | old⟩ := files.last (own image rfl) stored
    · exact ⟨keys, .inl (congrArg some new.symm)⟩
    · exact ⟨keys, .inr old⟩

/-- A pass whose image is not handed over, or refused, leaves objects and documents as they are. -/
theorem HandsOver.refused {name : String} {session : Session} {handed : Option Image} {outcome : Outcome Session α}
    (hands : HandsOver name session handed outcome)
    (refused : ∀ image, handed = some image → ∃ fault, (Depot.persist image session.store).result = .error fault) :
    outcome.state.scene.objects = session.scene.objects ∧
      ∀ location, Depot.isDocument location = true →
        Depot.file? outcome.state.disk location = Depot.file? session.disk location := by
  have objects : outcome.state.scene.objects = (handOver handed session.store).state.objects :=
    congrArg Depot.objects hands.store
  have disk : outcome.state.disk = (handOver handed session.store).state.disk := congrArg Depot.disk hands.store
  rw [objects, disk]
  cases handed with
  | none => exact ⟨rfl, fun location document => rfl⟩
  | some image =>
    obtain ⟨fault, failed⟩ := refused image rfl
    exact (Depot.persist_files image session.store).refuses failed

/-- Workspaces whose client does not serve the image are left alone. -/
theorem Attends.elsewhere {scene after : Scene} {image : Image} {result : Except Fault Pass.Requeue}
    {notes : List Note} (attends : Attends scene image result after notes) {own other : String}
    (served : scene.clientOf image = some own) (different : other ≠ own) :
    after.workspaces other = scene.workspaces other := by
  cases attends with
  | unopened foreign => rfl
  | refused client works broken | handed client works sound persists =>
    obtain rfl := Option.some.inj (served.symm.trans client)
    exact Scene.withWorkspace_of_ne scene _ different

theorem start_filed (settings : Settings) : (start settings).Filed := by
  intro depot held
  obtain rfl := List.mem_singleton.mp held
  exact fun entry member => absurd member List.not_mem_nil

theorem after_filed {session : Session} (filed : session.Filed) (commands : List Command) :
    (session.after commands).Filed := by
  induction commands generalizing session with
  | nil => exact filed
  | cons command rest ih => exact ih (step_filed command session filed)

/-- A pass over a stored image writes once at most, and to its own object. -/
structure WritesOnce (session : Session) (id : ObjectId) (image : Image) (pass : Outcome Session Pass.Requeue) :
    Prop where
  /-- An image is handed to the store exactly if the scope opens and the status that the pass leaves is consistent. -/
  submitted : pass.notes.filterMap Note.submitted? = (session.handsBack? image).toList
  /-- Listeners are told about no other object. -/
  fired : ∀ listener change about given, .fired listener change about given ∈ pass.notes → about.key? = id.key?
  /-- Other objects are as they were, one after the other. -/
  others : pass.state.scene.objects.filter (some ·.1 ≠ id.key?) = session.scene.objects.filter (some ·.1 ≠ id.key?)
  /-- The object stands where it stood, if it still does, and is of the same name and wanted as before. -/
  own : ∀ last, pass.state.stored? id = some last →
    pass.state.scene.objects.map (·.1) = session.scene.objects.map (·.1) ∧ Image.Kin image last
  /-- Where every workspace has a client of its own, the calls are made in the workspace of the object only. -/
  called : session.factory = .perWorkspace →
    (∀ name ≠ image.spec.workspace, pass.state.workspace name = session.workspace name) ∧
      callsOf image.spec.workspace pass.state =
        callsOf image.spec.workspace session ++ pass.notes.filterMap Note.made?
  /-- If nothing was handed to the store, or the store refused it, all objects and documents are as they were. -/
  refused :
    (∀ handed, session.handsBack? image = some handed →
      ∃ fault, (Depot.persist handed session.store).result = .error fault) →
    pass.state.scene.objects = session.scene.objects ∧
      ∀ location, Depot.isDocument location = true →
        Depot.file? pass.state.disk location = Depot.file? session.disk location

theorem one_write_per_pass {settings : Settings} {commands : List Command} {id : ObjectId} {image : Image}
    (stored : ((start settings).after commands).stored? id = some image) :
    WritesOnce ((start settings).after commands) id image (reconcile id ((start settings).after commands)) := by
  generalize reached : (start settings).after commands = session at stored
  have filed : session.Filed := reached ▸ after_filed (start_filed settings) commands
  obtain ⟨key, known, held⟩ := Option.bind_eq_some_iff.mp stored
  have own : image.id.key? = some key := filed.depot session.current _ (Catalog.mem_of_get? held)
  have clients (other : String) (client : session.scene.clientOf image = some other) :
      other = (session.scene.clientOf image).getD "" := by
    rw [client]
    rfl
  have hands := reconcile_handsOver known held clients
  have handed_own (handed : Image) (back : session.handsBack? image = some handed) : handed.id.key? = some key := by
    rw [(handsBack?_kin back).id]
    exact own
  obtain ⟨others, last⟩ := hands.objects handed_own
  refine { submitted := hands.submitted, refused := hands.refused, fired := ?_, others := ?_, own := ?_, called := ?_ }
  · intro listener change about given fired
    obtain ⟨back, rfl⟩ := hands.fired fired
    rw [known]
    exact handed_own given back
  · simpa only [known, ne_eq, Option.some.injEq] using others
  · intro found after_stored
    have reread : (reconcile id session).state.scene.objects.get? key = some found := by
      simpa only [stored?, known, Option.bind_some] using after_stored
    obtain ⟨keys, back | same⟩ := last found reread
    · exact ⟨keys, handsBack?_kin back⟩
    · obtain rfl := Option.some.inj (held.symm.trans same)
      exact ⟨keys, rfl, rfl, rfl, rfl⟩
  · intro apart
    have served : session.scene.clientOf image = some image.spec.workspace := by
      simp only [Scene.clientOf, scene, apart]
    refine ⟨fun other different => ?_, ?_⟩
    · exact (reconcile_attends known held).elsewhere served different
    · have calls := hands.calls
      rw [served] at calls
      exact calls

/-- Two objects with documents, and calls that fail from the second pass on. -/
def Trial.strained : List Command :=
  [Trial.write "m", Trial.write "n", .reconcile (Trial.id "m"), Trial.failing .latestJob]

theorem one_write_per_pass_of_strained :
    ∃ image, ((start Trial.filing).after Trial.strained).stored? (Trial.id "m") = some image ∧
      image.status.phase = .importing ∧
      WritesOnce ((start Trial.filing).after Trial.strained) (Trial.id "m") image
        (reconcile (Trial.id "m") ((start Trial.filing).after Trial.strained)) := by
  have held : ∃ image, ((start Trial.filing).after Trial.strained).stored? (Trial.id "m") = some image ∧
      image.status.phase = .importing := ⟨_, rfl, rfl⟩
  obtain ⟨image, stored, importing⟩ := held
  exact ⟨image, stored, importing, one_write_per_pass stored⟩

end Session

end ImageOperator
