import ImageOperator.Proofs.Session.Entered
import ImageOperator.Proofs.Session.Within

set_option autoImplicit false

/-!
Opening a scope. The steps are taken in their order, and the first that meets with a fault ends it: nothing is changed
then, and no client was asked for unless all that one is asked for with was known.
-/

namespace ImageOperator

/-- The steps of opening a scope. -/
inductive Stage
  | store
  | image
  | account
  | resource
  | region
  | client
deriving DecidableEq

namespace Stage

/-- The place of a step among the others. -/
def order : Stage → Nat
  | .store => 0
  | .image => 1
  | .account => 2
  | .resource => 3
  | .region => 4
  | .client => 5

theorem order_injective : Function.Injective order := by
  intro stage other same
  cases stage <;> cases other <;> first | rfl | cases same

/-- What faults of a step are told with. -/
def text : Stage → String
  | .store => "failed to generate new scope from missing store"
  | .image => "failed to generate new scope from missing image"
  | .account => "failed to get account"
  | .resource => "failed to get resource instance"
  | .region => "failed to get region"
  | .client => "failed to create cloud image client"

/-- How a step tells of a fault that it meets with. -/
inductive Tells : Stage → Fault → Fault → Prop
  | missing {stage : Stage} {fault : Fault} (first : stage = .store ∨ stage = .image) (scope : fault.category = .scope)
      (message : fault.message = stage.text) : Tells stage fault fault
  | wrapped {stage : Stage} {fault told : Fault}
      (wraps : stage = .client ∨ (stage = .account ∨ stage = .resource ∨ stage = .region) ∧ fault.isOwn = true)
      (scope : told.category = .scope) (message : told.message = stage.text ++ ": " ++ fault.message)
      (cause : told.cause? = some fault) : Tells stage fault told
  | unchanged {stage : Stage} {fault : Fault} (lookup : stage = .account ∨ stage = .resource ∨ stage = .region)
      (foreign : fault.isOwn = false) : Tells stage fault fault

/-- What a step makes of a fault. -/
def told : Stage → Fault → Fault
  | .store, fault | .image, fault => fault
  | .account, fault => if fault.isOwn then .account fault else fault
  | .resource, fault => if fault.isOwn then .resource fault else fault
  | .region, fault => if fault.isOwn then .region fault else fault
  | .client, fault => .client fault

end Stage

/-- The fault of what failed. -/
def faultOf? {α : Type} : Except Fault α → Option Fault
  | .ok _ => none
  | .error fault => some fault

theorem faultOf?_eq_some {α : Type} {result : Except Fault α} {fault : Fault} :
    faultOf? result = some fault ↔ result = .error fault := by
  cases result <;> simp [faultOf?]

theorem faultOf?_eq_none {α : Type} {result : Except Fault α} :
    faultOf? result = none ↔ ∃ value, result = .ok value := by
  cases result <;> simp [faultOf?]

namespace Registry

variable {registry : Registry} {fault : Fault} {account workspace zone region : String} {value : Value}

theorem resolve_of_account (refused : registry.getAccount = .error fault) (workspace : String) (debug : Bool) :
    registry.resolve workspace debug = .error (Stage.account.told fault) := by
  unfold resolve
  rw [refused]
  rfl

theorem resolve_of_resource (known : registry.getAccount = .ok account)
    (refused : registry.getZone workspace = .error fault) (debug : Bool) :
    registry.resolve workspace debug = .error (Stage.resource.told fault) := by
  unfold resolve
  rw [known, refused]
  rfl

theorem resolve_of_region (known : registry.getAccount = .ok account) (found : registry.getZone workspace = .ok value)
    (refused : regionOf value = .error fault) (debug : Bool) :
    registry.resolve workspace debug = .error (Stage.region.told fault) := by
  unfold resolve
  rw [known, found]
  change (step .region (regionOf value) >>= _) = _
  rw [refused]
  rfl

theorem resolve_of_placed (known : registry.getAccount = .ok account) (found : registry.getZone workspace = .ok value)
    (placed : regionOf value = .ok (zone, region)) (debug : Bool) :
    registry.resolve workspace debug = .ok ⟨account, region, zone, workspace, debug⟩ := by
  unfold resolve
  rw [known, found]
  change (step .region (regionOf value) >>= _) = _
  rw [placed]
  rfl

end Registry

namespace Session

/-- The fault that a step of opening a scope meets with, where it can be taken. -/
def meets? (session : Session) (opening : Opening) : Stage → Option Fault
  | .store => if opening.hasStore then none else some .storeAbsent
  | .image => if opening.image.isSome then none else some .imageAbsent
  | .account => faultOf? session.registry.getAccount
  | .resource => opening.image.bind fun image => faultOf? (session.registry.getZone image.spec.workspace)
  | .region => opening.image.bind fun image =>
    match session.registry.getZone image.spec.workspace with
    | .ok zone => faultOf? (Registry.regionOf zone)
    | .error _ => none
  | .client =>
    match session.factory with
    | .failing fault => some fault
    | .shared | .perWorkspace => none

/-- The first step that meets with a fault. -/
structure StopsAt (session : Session) (opening : Opening) (stage : Stage) (fault : Fault) : Prop where
  met : session.meets? opening stage = some fault
  first : ∀ earlier : Stage, earlier.order < stage.order → session.meets? opening earlier = none

/-- What a client is asked for with once account, zone and region are known. -/
inductive Resolves (session : Session) (opening : Opening) : ClientOptions → Prop
  | options {image : Image} {account zone region : String} {value : Value} (asked : opening.image = some image)
      (known : session.registry.getAccount = .ok account)
      (found : session.registry.getZone image.spec.workspace = .ok value)
      (placed : Registry.regionOf value = .ok (zone, region)) :
      Resolves session opening ⟨account, region, zone, image.spec.workspace,
        opening.debug || session.thresholds.lets (opening.channel.getD .scopes) .debug⟩

/-- Notes of the log and of clients that are asked for, and no others. -/
def Aside (notes : List Note) : Prop :=
  ∀ note ∈ notes, note.log?.isSome = true ∨ note.options?.isSome = true

variable {session : Session} {opening : Opening} {stage : Stage} {fault : Fault}

theorem tells_told (met : session.meets? opening stage = some fault) : stage.Tells fault (stage.told fault) := by
  have looked {wrap : Fault → Fault} (lookup : stage = .account ∨ stage = .resource ∨ stage = .region)
      (scope : (wrap fault).category = .scope) (message : (wrap fault).message = stage.text ++ ": " ++ fault.message)
      (cause : (wrap fault).cause? = some fault) :
      stage.Tells fault (if fault.isOwn then wrap fault else fault) := by
    cases own : fault.isOwn with
    | true => exact .wrapped (.inr ⟨lookup, own⟩) scope message cause
    | false => exact .unchanged lookup own
  cases stage with
  | store =>
    change (if opening.hasStore then none else some Fault.storeAbsent) = some fault at met
    cases there : opening.hasStore with
    | true => simp [there] at met
    | false =>
      obtain rfl : Fault.storeAbsent = fault := by simpa [there] using met
      exact .missing (.inl rfl) rfl rfl
  | image =>
    change (if opening.image.isSome then none else some Fault.imageAbsent) = some fault at met
    cases there : opening.image.isSome with
    | true => simp [there] at met
    | false =>
      obtain rfl : Fault.imageAbsent = fault := by simpa [there] using met
      exact .missing (.inr rfl) rfl rfl
  | account => exact looked (.inl rfl) rfl rfl rfl
  | resource => exact looked (.inr (.inl rfl)) rfl rfl rfl
  | region => exact looked (.inr (.inr rfl)) rfl rfl rfl
  | client => exact .wrapped (.inl rfl) rfl rfl rfl

theorem StopsAt.unique {other : Stage} {cause : Fault} (first : StopsAt session opening stage fault)
    (second : StopsAt session opening other cause) : stage = other ∧ fault = cause := by
  have same : stage = other := by
    rcases Nat.lt_trichotomy stage.order other.order with before | level | after
    · have clear := second.first stage before
      rw [first.met] at clear
      cases clear
    · exact Stage.order_injective level
    · have clear := first.first other after
      rw [second.met] at clear
      cases clear
  subst same
  exact ⟨rfl, Option.some.inj (first.met.symm.trans second.met)⟩

/-- By induction on the place of a step that meets with a fault: an earlier one does, or it is the first. -/
theorem exists_stopsAt (met : session.meets? opening stage = some fault) :
    ∃ stage fault, StopsAt session opening stage fault := by
  induction place : stage.order using Nat.strongRecOn generalizing stage fault with
  | ind place_stage ih =>
    by_cases clear : ∀ earlier : Stage, earlier.order < stage.order → session.meets? opening earlier = none
    · exact ⟨stage, fault, met, clear⟩
    · simp only [Classical.not_forall] at clear
      obtain ⟨earlier, before, other⟩ := clear
      obtain ⟨cause, found⟩ := Option.ne_none_iff_exists'.mp other
      exact ih earlier.order (place ▸ before) found rfl

theorem clear_or_stopsAt (session : Session) (opening : Opening) :
    (∀ stage, session.meets? opening stage = none) ∨ ∃ stage fault, StopsAt session opening stage fault := by
  by_cases clear : ∀ stage, session.meets? opening stage = none
  · exact .inl clear
  · obtain ⟨stage, other⟩ := Classical.not_forall.mp clear
    obtain ⟨fault, met⟩ := Option.ne_none_iff_exists'.mp other
    exact .inr (exists_stopsAt met)

/-- What is noted while a client is asked for. -/
def askNotes (session : Session) (options : ClientOptions) : List Note :=
  [.log .options .debug ("Resolved workspace " ++ options.workspace ++ " in zone " ++ options.zone ++ " (region " ++
    options.region ++ ")")].filter session.shows ++ [.requested options]

theorem askNotes_aside (session : Session) (options : ClientOptions) : Aside (session.askNotes options) := by
  intro note noted
  rcases List.mem_append.mp noted with said | asked
  · obtain rfl := List.mem_singleton.mp (List.mem_filter.mp said).1
    exact .inl rfl
  · obtain rfl := List.mem_singleton.mp asked
    exact .inr rfl

theorem askNotes_options (session : Session) (options : ClientOptions) :
    (session.askNotes options).filterMap Note.options? = [options] := by
  have said : ([.log .options .debug ("Resolved workspace " ++ options.workspace ++ " in zone " ++ options.zone ++
      " (region " ++ options.region ++ ")")].filter session.shows).filterMap Note.options? = [] := by
    rw [List.filterMap_eq_nil_iff]
    intro note noted
    obtain rfl := List.mem_singleton.mp (List.mem_filter.mp noted).1
    rfl
  rw [askNotes, List.filterMap_append, said]
  rfl

/-- What is no event is noted and nothing else. -/
theorem emit_of_silent {notes : List Note} (silent : notes.filterMap Note.event? = []) (session : Session) :
    emit notes session = ⟨.ok (), session, notes.filter session.shows⟩ := by
  have kept : session.keepEvents notes = session := by
    unfold keepEvents
    rw [silent, List.append_nil]
  change (⟨.ok (), session.keepEvents notes, notes.filter session.shows⟩ : Outcome Session Unit) = _
  rw [kept]

theorem openScope_of_unresolved {image : Image} {channel : Option Channel} {debug : Bool}
    (failed : session.registry.resolve image.spec.workspace
      (debug || session.thresholds.lets (channel.getD .scopes) .debug) = .error fault) :
    openScope ⟨true, some image, channel, debug⟩ session = ⟨.error fault, session, []⟩ := by
  change (Attempt.of (session.registry.resolve image.spec.workspace
      (debug || session.thresholds.lets (channel.getD .scopes) .debug)) >>= _) session = _
  rw [failed]
  rfl

/-- Once account, zone and region are known, a client is asked for, once. -/
theorem openScope_of_resolved {image : Image} {channel : Option Channel} {debug : Bool} {options : ClientOptions}
    (resolved : session.registry.resolve image.spec.workspace
      (debug || session.thresholds.lets (channel.getD .scopes) .debug) = .ok options) :
    openScope ⟨true, some image, channel, debug⟩ session =
      match session.clientFor options with
      | .error fault => ⟨.error fault, session, session.askNotes options⟩
      | .ok workspace => ⟨.ok ⟨image, workspace, session.current, false,
          ⟨session.recorder.getD (.log (channel.getD .scopes)), channel.getD .scopes⟩⟩,
          putWorkspace workspace (session.workspace workspace) session, session.askNotes options⟩ := by
  unfold openScope
  simp only [Bool.not_true, Bool.false_eq_true, ↓reduceIte]
  rw [Attempt.read_then, Attempt.of_then resolved, say, Attempt.bind_of_ok (emit_of_silent rfl session),
    Attempt.bind_of_ok (emit_of_silent rfl session)]
  cases session.clientFor options with
  | error fault => rfl
  | ok workspace => rfl

section Steps

variable {image : Image} {channel : Option Channel} {debug : Bool} {value : Value}

theorem hasStore_of_met (met : session.meets? opening .store = none) : opening.hasStore = true := by
  change (if opening.hasStore then none else some Fault.storeAbsent) = none at met
  simpa using met

theorem image_of_met (met : session.meets? opening .image = none) : ∃ image, opening.image = some image := by
  change (if opening.image.isSome then none else some Fault.imageAbsent) = none at met
  exact Option.ne_none_iff_exists'.mp (by simpa using met)

theorem meets?_region (found : session.registry.getZone image.spec.workspace = .ok value) (channel : Option Channel)
    (debug : Bool) :
    session.meets? ⟨true, some image, channel, debug⟩ .region = faultOf? (Registry.regionOf value) := by
  change (match session.registry.getZone image.spec.workspace with
    | .ok zone => faultOf? (Registry.regionOf zone)
    | .error _ => none) = _
  rw [found]

theorem clientFor_of_met (met : session.meets? opening .client = some fault) (options : ClientOptions) :
    session.clientFor options = .error (.client fault) := by
  unfold clientFor
  cases factory : session.factory <;> simp [meets?, factory] at met ⊢
  exact met

theorem clientFor_of_clear (clear : session.meets? opening .client = none) (options : ClientOptions) :
    ∃ workspace, session.clientFor options = .ok workspace := by
  unfold clientFor
  cases factory : session.factory <;> simp [meets?, factory] at clear ⊢

/-- Where no step before the last meets with a fault, account, zone and region are known. -/
theorem resolves_of_met (earlier : ∀ stage : Stage, stage.order < Stage.client.order →
      session.meets? ⟨true, some image, channel, debug⟩ stage = none) :
    ∃ options, Resolves session ⟨true, some image, channel, debug⟩ options ∧
      session.registry.resolve image.spec.workspace
        (debug || session.thresholds.lets (channel.getD .scopes) .debug) = .ok options := by
  obtain ⟨account, known⟩ := faultOf?_eq_none.mp (earlier .account (by decide))
  obtain ⟨value, found⟩ := faultOf?_eq_none.mp (earlier .resource (by decide))
  have region := earlier .region (by decide)
  rw [meets?_region found] at region
  obtain ⟨⟨zone, region⟩, placed⟩ := faultOf?_eq_none.mp region
  exact ⟨_, .options rfl known found placed, Registry.resolve_of_placed known found placed _⟩

end Steps

/-- An opening in which neither the store nor the image is missing. -/
theorem opening_of_met (store : session.meets? opening .store = none) (image : session.meets? opening .image = none) :
    ∃ image channel debug, opening = ⟨true, some image, channel, debug⟩ := by
  have there := hasStore_of_met store
  obtain ⟨held, given⟩ := image_of_met image
  obtain ⟨hasStore, image, channel, debug⟩ := opening
  dsimp only at there given
  subst there given
  exact ⟨held, channel, debug, rfl⟩

/-- Sessions under the same settings, with the same stores, workspaces and scopes. -/
structure Intact (session after : Session) : Prop extends session.Untouched after where
  terms : after.terms = session.terms
  workspaces : after.workspaces = session.workspaces
  scopes : after.scopes = session.scopes

theorem Intact.refl (session : Session) : session.Intact session :=
  ⟨⟨fun _ => rfl, rfl, rfl⟩, rfl, rfl, rfl⟩

theorem Intact.trans {middle after : Session} (first : session.Intact middle) (second : middle.Intact after) :
    session.Intact after :=
  ⟨first.toUntouched.trans second.toUntouched, second.terms.trans first.terms,
    second.workspaces.trans first.workspaces, second.scopes.trans first.scopes⟩

/-- What an opening comes to that a step has stopped: the fault is told, and what is kept is as it was. A client was
asked for if the step is the last, once and with all that was found out, and not at all before. -/
structure Stopped {α : Type} (session : Session) (opening : Opening) (stage : Stage) (told : Fault)
    (outcome : Outcome Session α) : Prop where
  result : outcome.result = .error told
  intact : session.Intact outcome.state
  aside : Aside outcome.notes
  early : stage ≠ .client → outcome.notes.filterMap Note.options? = []
  last : stage = .client →
    ∃ options, Resolves session opening options ∧ outcome.notes.filterMap Note.options? = [options]

/-- The first step that meets with a fault stops the opening, and the fault is told as that of the step. -/
theorem openScope_stops (stops : StopsAt session opening stage fault) :
    (openScope opening session).state = session ∧
      Stopped session opening stage (stage.told fault) (openScope opening session) := by
  obtain ⟨met, first⟩ := stops
  have quiet (early : stage ≠ .client)
      (failed : openScope opening session = ⟨.error (stage.told fault), session, []⟩) :
      (openScope opening session).state = session ∧
        Stopped session opening stage (stage.told fault) (openScope opening session) := by
    rw [failed]
    exact ⟨rfl, rfl, .refl session, nofun, fun _ => rfl, fun last => absurd last early⟩
  cases stage with
  | store =>
    refine quiet nofun ?_
    obtain ⟨hasStore, image, channel, debug⟩ := opening
    cases hasStore with
    | true => cases met
    | false =>
      cases met
      rfl
  | image =>
    refine quiet nofun ?_
    have there := hasStore_of_met (first .store (by decide))
    obtain ⟨hasStore, image, channel, debug⟩ := opening
    dsimp only at there
    subst there
    cases image with
    | some image => cases met
    | none =>
      cases met
      rfl
  | account =>
    obtain ⟨image, channel, debug, rfl⟩ := opening_of_met (first .store (by decide)) (first .image (by decide))
    exact quiet nofun (openScope_of_unresolved (Registry.resolve_of_account (faultOf?_eq_some.mp met) _ _))
  | resource =>
    obtain ⟨image, channel, debug, rfl⟩ := opening_of_met (first .store (by decide)) (first .image (by decide))
    obtain ⟨account, known⟩ := faultOf?_eq_none.mp (first .account (by decide))
    exact quiet nofun (openScope_of_unresolved (Registry.resolve_of_resource known (faultOf?_eq_some.mp met) _))
  | region =>
    obtain ⟨image, channel, debug, rfl⟩ := opening_of_met (first .store (by decide)) (first .image (by decide))
    obtain ⟨account, known⟩ := faultOf?_eq_none.mp (first .account (by decide))
    obtain ⟨value, found⟩ := faultOf?_eq_none.mp (first .resource (by decide))
    rw [meets?_region found] at met
    exact quiet nofun (openScope_of_unresolved (Registry.resolve_of_region known found (faultOf?_eq_some.mp met) _))
  | client =>
    obtain ⟨image, channel, debug, rfl⟩ := opening_of_met (first .store (by decide)) (first .image (by decide))
    obtain ⟨options, resolves, resolved⟩ := resolves_of_met first
    rw [openScope_of_resolved resolved, clientFor_of_met met options]
    exact ⟨rfl, rfl, .refl session, askNotes_aside session options, fun early => absurd rfl early,
      fun _ => ⟨options, resolves, askNotes_options session options⟩⟩

/-- Where no step meets with a fault a scope is opened, and a client is asked for once. -/
theorem openScope_clear (clear : ∀ stage, session.meets? opening stage = none) :
    ∃ scope after notes options, openScope opening session = ⟨.ok scope, after, notes⟩ ∧
      Resolves session opening options ∧ notes.filterMap Note.options? = [options] := by
  obtain ⟨image, channel, debug, rfl⟩ := opening_of_met (clear .store) (clear .image)
  obtain ⟨options, resolves, resolved⟩ := resolves_of_met fun stage _ => clear stage
  obtain ⟨workspace, served⟩ := clientFor_of_clear (clear .client) options
  have opened := openScope_of_resolved resolved
  rw [served] at opened
  exact ⟨_, _, _, options, opened, resolves, askNotes_options session options⟩

/-! ### Commands that open scopes -/

section Commands

variable {α β : Type} {middle : Session} {told : Fault}

theorem StopsAt.of_terms (stops : StopsAt session opening stage fault) (same : middle.terms = session.terms) :
    StopsAt middle opening stage fault := by
  obtain ⟨registry, -, -, factory, -⟩ := Terms.mk.inj same
  have meets : middle.meets? opening = session.meets? opening := by
    funext stage
    cases stage <;> simp only [meets?, registry, factory]
  obtain ⟨met, first⟩ := stops
  rw [← meets] at met first
  exact ⟨met, first⟩

theorem Resolves.of_terms {options : ClientOptions} (resolves : Resolves middle opening options)
    (same : middle.terms = session.terms) : Resolves session opening options := by
  obtain ⟨registry, thresholds, -⟩ := Terms.mk.inj same
  cases resolves with
  | options asked known found placed =>
    rw [registry] at known found
    rw [thresholds]
    exact .options asked known found placed

/-- What would go on after an opening does not once that is stopped. -/
theorem Stopped.ends {attempt : Attempt Session α} (stopped : Stopped session opening stage told (attempt middle))
    (next : α → Attempt Session β) : Stopped session opening stage told ((attempt >>= next) middle) := by
  rcases ran : attempt middle with ⟨fault | value, after, notes⟩
  all_goals
    rw [ran] at stopped
    obtain ⟨result, intact, aside, early, last⟩ := stopped
    cases result
  rw [Attempt.bind_of_error ran]
  exact ⟨rfl, intact, aside, early, last⟩

/-- What goes before an opening and changes nothing, but for what is logged, makes no difference to how it stops. -/
theorem Stopped.after {start : Session} {attempt : Attempt Session α} {value : α} {notes : List Note}
    {next : α → Attempt Session β} (ran : attempt start = ⟨.ok value, middle, notes⟩) (intact : session.Intact middle)
    (logged : ∀ note ∈ notes, note.log?.isSome = true)
    (stopped : Stopped middle opening stage told (next value middle)) :
    Stopped session opening stage told ((attempt >>= next) start) := by
  have unasked : notes.filterMap Note.options? = [] := by
    rw [List.filterMap_eq_nil_iff]
    intro note noted
    have log := logged note noted
    cases note <;> first | rfl | cases log
  have options : (notes ++ (next value middle).notes).filterMap Note.options? =
      (next value middle).notes.filterMap Note.options? := by
    rw [List.filterMap_append, unasked, List.nil_append]
  rw [Attempt.bind_of_ok ran]
  refine ⟨stopped.result, intact.trans stopped.intact, ?_, ?_, ?_⟩
  · intro note noted
    rcases List.mem_append.mp noted with earlier | later
    · exact .inl (logged note earlier)
    · exact stopped.aside note later
  · intro early
    exact options.trans (stopped.early early)
  · intro last
    obtain ⟨asked, resolves, once⟩ := stopped.last last
    exact ⟨asked, resolves.of_terms intact.terms, options.trans once⟩

theorem intact_look (session : Session) :
    session.Intact ((putDepot session.current session.store session).keepEvents []) :=
  ⟨⟨fun other => depot_putDepot_own session session.current other, rfl, List.append_nil _⟩, rfl, rfl, rfl⟩

/-- A pass over a stored image stops as the opening of its scope does. -/
theorem reconcile_stops {id : ObjectId} {image : Image} (stored : session.stored? id = some image)
    (stops : StopsAt session (session.passOpening image) stage fault) :
    Stopped session (session.passOpening image) stage (stage.told fault) (reconcile id session) := by
  obtain ⟨key, known, held⟩ := Option.bind_eq_some_iff.mp stored
  have looking := looks_of_key known session
  rw [show session.store.objects.get? key = some image from held] at looking
  have intact := intact_look session
  have saying := @emit_of_silent [.log .passes .info ("Reconciling " ++ id.text)] rfl
    ((putDepot session.current session.store session).keepEvents [])
  unfold reconcile
  refine Stopped.after looking intact nofun ?_
  refine Stopped.after saying (.refl _) ?_ ?_
  · intro note noted
    obtain rfl := List.mem_singleton.mp (List.mem_filter.mp noted).1
    rfl
  · exact (openScope_stops (stops.of_terms intact.terms)).2.ends _

/-- Taking the image of a request is at most to keep it. -/
theorem takeSubject_of (subject : Subject) (name : Option String) (session : Session) :
    ∃ result after, takeSubject subject name session = ⟨result, after, []⟩ ∧ session.Intact after := by
  cases subject with
  | absent => exact ⟨_, _, rfl, .refl session⟩
  | source source =>
    obtain ⟨result, drafts, kept, taken⟩ := takeSource_of source name session
    refine ⟨result.map some, { session with drafts, kept }, ?_, ⟨fun _ => rfl, rfl, rfl⟩, rfl, rfl, rfl⟩
    cases result with
    | error fault => exact Attempt.bind_of_error taken _
    | ok image => exact Attempt.bind_of_ok taken _
  | stored id =>
    have intact := intact_look session
    cases known : id.key? with
    | none => exact ⟨_, _, Attempt.bind_of_error (looks_of_unknown known session) _, intact⟩
    | some key =>
      have looking := looks_of_key known session
      cases held : session.store.objects.get? key with
      | none =>
        rw [held] at looking
        exact ⟨_, _, Attempt.bind_of_ok looking _, intact⟩
      | some image =>
        rw [held] at looking
        obtain ⟨drafts, kept, keeping⟩ := keep_of name image none
          ((putDepot session.current session.store session).keepEvents [])
        refine ⟨.ok (some image), { (putDepot session.current session.store session).keepEvents [] with drafts, kept },
          (Attempt.bind_of_ok looking _).trans ?_, intact.trans ⟨⟨fun _ => rfl, rfl, rfl⟩, rfl, rfl, rfl⟩⟩
        have keeps := Attempt.bind_of_ok keeping fun _ => pure (some image)
        simp only [keeps, Attempt.pure_apply, List.append_nil]

/-- The opening that a request asks for, if its image can be taken, with the session that it is asked for in. -/
def requested? (session : Session) (request : OpenRequest) : Option (Session × Opening) :=
  match (takeSubject request.subject request.keep (session.heard request)).result with
  | .ok image => some (session.heard request, requestOpening request image)
  | .error _ => none

/-- The opening that a command asks for. -/
def opening? (session : Session) : Command → Option (Session × Opening)
  | .reconcile id => (session.stored? id).map fun image => (session, session.passOpening image)
  | .open request | .within request _ _ => session.requested? request
  | _ => none

theorem openNamed_stops {request : OpenRequest} (asks : session.requested? request = some (middle, opening))
    (stops : StopsAt middle opening stage fault) :
    Stopped middle opening stage (stage.told fault) (openNamed request session) := by
  obtain ⟨result, after, taking, intact⟩ := takeSubject_of request.subject request.keep (session.heard request)
  unfold requested? at asks
  rw [taking] at asks
  cases result with
  | error fault => cases asks
  | ok image =>
    cases asks
    rw [openNamed_eq]
    refine Stopped.after taking intact nofun ?_
    exact (openScope_stops (stops.of_terms intact.terms)).2.ends _

/-- Nothing of a command goes on once its opening is stopped. -/
theorem step_stops {command : Command} (asks : session.opening? command = some (middle, opening))
    (stops : StopsAt middle opening stage fault) :
    Stopped middle opening stage (stage.told fault) (step command session) := by
  cases command with
  | reconcile id =>
    obtain ⟨image, stored, same⟩ := Option.map_eq_some_iff.mp asks
    cases same
    exact (reconcile_stops stored stops).ends _
  | «open» request => exact (openNamed_stops asks stops).ends _
  | within request body raised =>
    rw [step_within]
    exact (openNamed_stops asks stops).ends _
  | add | addWritten | persist | get | list | kept | changeKept | requestDeletion | modify | listen | unlisten | setNow
  | writeFile | makeFolder | deleteFile | deleteRoot | files | pathFor | load | reopen | cloud | scope | setRegistry
  | state => cases asks

end Commands

/-- Opening a scope is all or nothing. Either no step meets with a fault, and a scope is opened for which a client is
asked for once; or the first step that does stops it, and with it whatever command the opening is asked for by. -/
theorem opening_all_or_nothing (session : Session) (opening : Opening) :
    ((∀ stage, session.meets? opening stage = none) ∧
      ∃ scope options, (openScope opening session).result = .ok scope ∧ Resolves session opening options ∧
        (openScope opening session).notes.filterMap Note.options? = [options]) ∨
    ∃ stage fault told, StopsAt session opening stage fault ∧ stage.Tells fault told ∧
      (openScope opening session).state = session ∧
      Stopped session opening stage told (openScope opening session) ∧
      ∀ command before, before.opening? command = some (session, opening) →
        Stopped session opening stage told (step command before) := by
  rcases clear_or_stopsAt session opening with clear | ⟨stage, fault, stops⟩
  · obtain ⟨scope, after, notes, options, opened, resolves, once⟩ := openScope_clear clear
    rw [opened]
    exact .inl ⟨clear, scope, options, rfl, resolves, once⟩
  · have ⟨same, stopped⟩ := openScope_stops stops
    exact .inr ⟨stage, fault, stage.told fault, stops, tells_told stops.met, same, stopped,
      fun command before asks => step_stops asks stops⟩

/-- The zone of the workspace is in no region. -/
def Trial.adrift : Session :=
  { Trial.lone with registry := ⟨"a", [("w", .text "moon")], none, none⟩ }

open Trial (adrift)

theorem opening_all_or_nothing_of_adrift :
    ∃ image told, adrift.stored? (Trial.id "m") = some image ∧ told.category = .scope ∧
      told.message = "failed to get region: Region not found for zone 'moon'" ∧
      Stopped adrift (adrift.passOpening image) .region told (step (.reconcile (Trial.id "m")) adrift) := by
  have there : ∃ image, adrift.stored? (Trial.id "m") = some image ∧ image.spec.workspace = "w" := ⟨_, rfl, rfl⟩
  obtain ⟨image, stored, workspace⟩ := there
  have asks : adrift.opening? (.reconcile (Trial.id "m")) = some (adrift, adrift.passOpening image) := by
    rw [opening?, stored]
    rfl
  have lost : StopsAt adrift (adrift.passOpening image) .region (.regionUnknown "moon") := by
    refine ⟨?_, fun earlier before => ?_⟩
    · change (match adrift.registry.getZone image.spec.workspace with
        | .ok zone => faultOf? (Registry.regionOf zone)
        | .error _ => none) = _
      rw [workspace]
      rfl
    · cases earlier with
      | store | image | account => rfl
      | resource =>
        change faultOf? (adrift.registry.getZone image.spec.workspace) = none
        rw [workspace]
        rfl
      | region | client => exact absurd before (by decide)
  rcases opening_all_or_nothing adrift (adrift.passOpening image) with
    ⟨clear, -⟩ | ⟨stage, fault, told, stops, tells, -, -, commands⟩
  · have met := lost.met
    rw [clear .region] at met
    cases met
  · obtain ⟨rfl, rfl⟩ := stops.unique lost
    have stopped := commands _ _ asks
    cases tells with
    | missing first => rcases first with first | first <;> cases first
    | wrapped wraps scope message cause => exact ⟨image, told, stored, scope, message, stopped⟩
    | unchanged lookup foreign => cases foreign

end Session

end ImageOperator
