import ImageOperator.Proofs.Session.ClosedOnce
import ImageOperator.Proofs.Session.Run

set_option autoImplicit false

/-!
Commands and the scopes that they work in. What a run of commands does to a scope are the calls that it makes on it, in
the bodies of commands too, and the close at the end of a body is one more of them.
-/

namespace ImageOperator

namespace Session

mutual

/-- The calls that a command makes on the scope at a place, each with the session that it is made in. -/
def callsIn (index : Nat) : Command → Session → List (Session × ScopeCall)
  | .scope name call, session => if session.scopeNames.lookup name = some index then [(session, call)] else []
  | .within request body raised, session =>
    match openNamed request session with
    | ⟨.ok own, opened, _⟩ =>
      callsInBody index body opened ++
        if own = index then [((runBody body raised opened).state, .close)] else []
    | ⟨.error _, _, _⟩ => []
  | .add _ _, _ | .addWritten _ _, _ | .persist _ _, _ | .get _ _, _ | .list _ _, _ | .kept _, _ | .changeKept _ _, _
  | .requestDeletion _, _ | .modify _ _ _, _ | .listen _ _ _ _, _ | .unlisten _, _ | .setNow _, _ | .writeFile _ _, _
  | .makeFolder _, _ | .deleteFile _, _ | .deleteRoot, _ | .files, _ | .pathFor _, _ | .load, _ | .reopen, _
  | .cloud _ _, _ | .open _, _ | .reconcile _, _ | .setRegistry _, _ | .state, _ => []

/-- Those of a body of commands, which the first that fails leaves. -/
def callsInBody (index : Nat) : List Command → Session → List (Session × ScopeCall)
  | [], _ => []
  | command :: rest, session =>
    callsIn index command session ++
      match step command session with
      | ⟨.ok _, after, _⟩ => callsInBody index rest after
      | ⟨.error _, _, _⟩ => []

end

/-- Those of a whole run. -/
def callsMade (index : Nat) (history : List (Session × Command)) : List (Session × ScopeCall) :=
  history.reverse.flatMap fun given => callsIn index given.2 given.1

/-- Work in a scope that is open: the scope is closed at the end, and a fault of closing it takes the place of what the
work came to. -/
def withScope (index : Nat) (body : Attempt Session Unit) : Attempt Session Unit := do
  let result ← body.tried
  closeAt index
  Attempt.of result

theorem step_within (request : OpenRequest) (body : List Command) (raised : Option Fault) :
    step (.within request body raised) = (do
      let index ← openNamed request
      withScope index (runBody body raised)
      return .done) := by
  rw [step]
  simp only [withScope, bind_assoc]

variable {index : Nat} {session : Session}

theorem preserves_editStored {τ : Type} (view : Session → τ) [Unstored view] (id : ObjectId) (writes : Bool)
    (edit : Edit) : (editStored id writes edit).Preserves view := by
  refine (preserves_inStore view _).bind fun stored => ?_
  cases stored with
  | none => exact Attempt.preserves_pure view _
  | some image =>
    refine (Attempt.preserves_of view _).bind fun edited => (preserves_emit view _).bind fun _ => ?_
    cases writes with
    | false => exact Attempt.preserves_pure view _
    | true => exact (preserves_inStore view _).bind fun _ => Attempt.preserves_pure view _

theorem preserves_takeSubject {τ : Type} (view : Session → τ) [Unstored view] [Overlooks view] (subject : Subject)
    (name : Option String) : (takeSubject subject name).Preserves view := by
  cases subject with
  | absent => exact Attempt.preserves_pure view _
  | source source => exact (preserves_takeSource view source name).bind fun _ => Attempt.preserves_pure view _
  | stored id =>
    refine (preserves_inStore view _).bind fun stored => ?_
    cases stored with
    | none => exact Attempt.preserves_pure view _
    | some image => exact (preserves_keep view name image none).bind fun _ => Attempt.preserves_pure view _

/-- The session once the logger of a request, if it has one, is set. -/
def heard (request : OpenRequest) (session : Session) : Session :=
  match request.logger with
  | some (name, level) => { session with thresholds := session.thresholds.set name level }
  | none => session

/-- What a request opens its scope with. -/
def requestOpening (request : OpenRequest) (image : Option Image) : Opening where
  hasStore := request.hasStore
  image := image
  channel := request.logger.map fun logger => .custom logger.1
  debug := request.debug

/-- Puts a scope among the others under a name. -/
def enter (name : String) (scope : Scope) : Attempt Session Nat := do
  let index := (← Attempt.state).scopes.length
  Attempt.update fun session =>
    { session with
      scopes := session.scopes ++ [scope]
      scopeNames := (name, index) :: session.scopeNames }
  return index

theorem openNamed_eq (request : OpenRequest) (session : Session) :
    openNamed request session = (do
      let image ← takeSubject request.subject request.keep
      enter request.scope (← openScope (requestOpening request image))) (session.heard request) := by
  obtain ⟨name, subject, hasStore, debug, logger, keep⟩ := request
  cases logger <;> rfl

/-- The ways of opening a scope under a name: nothing comes to the scopes, or one that is not closed. -/
inductive Joins (session : Session) : Except Fault Nat → Session → Prop
  | refused {fault : Fault} {after : Session} (scopes : after.scopes = session.scopes) :
      Joins session (.error fault) after
  | opened {scope : Scope} {after : Session} (scopes : after.scopes = session.scopes ++ [scope])
      (unclosed : scope.closed = false) : Joins session (.ok session.scopes.length) after

theorem openScope_unclosed {opening : Opening} {scope : Scope}
    (opened : (openScope opening session).result = .ok scope) : scope.closed = false := by
  obtain ⟨hasStore, image, channel, debug⟩ := opening
  cases hasStore with
  | false => cases opened
  | true =>
    cases image with
    | none => cases opened
    | some image => exact (openScope_ok opened).2.1

theorem openNamed_joins (request : OpenRequest) (session : Session) :
    Joins session (openNamed request session).result (openNamed request session).state := by
  have same : (session.heard request).scopes = session.scopes := by
    unfold heard
    cases request.logger <;> rfl
  rw [openNamed_eq]
  have taken_scopes := preserves_takeSubject Session.scopes request.subject request.keep (session.heard request)
  rcases taken : takeSubject request.subject request.keep (session.heard request) with ⟨fault | image, middle, notes⟩
  all_goals
    rw [taken] at taken_scopes
    have kept : middle.scopes = session.scopes := taken_scopes.trans same
  · rw [Attempt.bind_of_error taken]
    exact .refused kept
  · rw [Attempt.bind_of_ok taken]
    have opened_scopes := preserves_openScope Session.scopes (requestOpening request image) middle
    rcases opening : openScope (requestOpening request image) middle with ⟨fault | scope, after, told⟩
    all_goals
      rw [opening] at opened_scopes
      have still : after.scopes = session.scopes := opened_scopes.trans kept
    · rw [Attempt.bind_of_error opening]
      exact .refused still
    · rw [Attempt.bind_of_ok opening]
      have unclosed : scope.closed = false := openScope_unclosed (by rw [opening])
      have placed : after.scopes.length = session.scopes.length := congrArg List.length still
      change Joins session (.ok after.scopes.length) _
      rw [placed]
      exact .opened (congrArg (· ++ [scope]) still) unclosed

/-- A scope that is there is none that is opened now, and stays as it is. -/
theorem Joins.elsewhere {result : Except Fault Nat} {after : Session} (joins : Joins session result after)
    (there : (closedAt? index session).isSome = true) :
    closedAt? index after = closedAt? index session ∧ ∀ own, result = .ok own → own ≠ index := by
  have inside : index < session.scopes.length := by
    unfold closedAt? at there
    rw [Option.isSome_map] at there
    obtain ⟨scope, held⟩ := Option.isSome_iff_exists.mp there
    exact (List.getElem?_eq_some_iff.mp held).1
  cases joins with
  | refused scopes => exact ⟨congrArg (fun scopes : List Scope => scopes[index]?.map Scope.closed) scopes, nofun⟩
  | opened scopes unclosed =>
    refine ⟨?_, ?_⟩
    · unfold closedAt?
      rw [scopes, List.getElem?_append_left inside]
    · rintro own ⟨⟩
      omega

theorem Joins.unclosed {own : Nat} {after : Session} (joins : Joins session (.ok own) after) :
    closedAt? own after = some false := by
  cases joins with
  | opened scopes unclosed =>
    unfold closedAt?
    rw [scopes, List.getElem?_concat_length, Option.map_some, unclosed]

/-- A changed image of a scope is put into it, and the scope stays closed or not. -/
theorem closedAt?_setHeld (session : Session) (image : Image) (held : Held) :
    closedAt? index (session.setHeld image held) = closedAt? index session := by
  cases held with
  | draft place => rfl
  | scope place =>
    cases there : session.scopes[place]? with
    | none => simp only [setHeld, there]
    | some scope =>
      simp only [setHeld, there]
      have same : { scope with image }.closed = scope.closed := rfl
      exact closedAt?_set there same

/-- Commands that open no scope and make no call on one leave the closing of all scopes alone. -/
def leavesScopes : Command → Bool
  | .open _ | .within _ _ _ | .scope _ _ => false
  | _ => true

theorem preserves_closedAt? {command : Command} (leaves : leavesScopes command = true) (index : Nat) :
    (step command).Preserves (closedAt? index) := by
  have done (answer : Answer) : (pure answer : Attempt Session Answer).Preserves (closedAt? index) :=
    Attempt.preserves_pure _ answer
  have routine (own : command.isRoutine = true) : (step command).Preserves (closedAt? index) := fun session =>
    congrArg (fun scopes : List Scope => scopes[index]?.map Scope.closed) (step_preserves own session)
  cases command with
  | persist source keep =>
    exact (preserves_takeSource (closedAt? index) source keep).bind fun image =>
      (preserves_inStore (closedAt? index) _).bind fun _ => done _
  | changeKept name edit =>
    refine (preserves_keptImage (closedAt? index) name).bind fun held => (Attempt.preserves_of _ _).bind fun edited => ?_
    refine (preserves_emit (closedAt? index) _).bind fun _ => Attempt.Preserves.bind ?_ fun _ => done _
    exact Attempt.preserves_update fun session => closedAt?_setHeld session edited.1 held.1
  | modify id writes edit => exact preserves_editStored (closedAt? index) id writes edit
  | load => exact (preserves_inStore (closedAt? index) _).bind fun _ => done _
  | reopen => exact Attempt.Preserves.bind (Attempt.preserves_update fun _ => rfl) fun _ => done _
  | «open» | within | scope => cases leaves
  | add | addWritten | get | requestDeletion | listen | unlisten | writeFile | makeFolder | deleteFile | deleteRoot
  | reconcile | list | kept | setNow | setRegistry | files | pathFor | cloud | state => exact routine rfl

/-- What is answered at the end changes nothing. -/
theorem answered_state {α : Type} (attempt : Attempt Session α) (answer : Answer) (session : Session) :
    ((attempt >>= fun _ => pure answer) session).state = (attempt session).state := by
  rcases ran : attempt session with ⟨fault | value, after, notes⟩
  · rw [Attempt.bind_of_error ran]
  · rw [Attempt.bind_of_ok ran]
    rfl

/-- Work in a scope ends with a close of the scope, and comes to what the work came to if that succeeds. -/
theorem withScope_ends (own : Nat) (body : Attempt Session Unit) (session : Session) :
    let closing := callScope own .close (body session).state
    (withScope own body session).state = closing.state ∧
      (withScope own body session).result = closing.result >>= fun _ => (body session).result := by
  have tried : body.tried session = ⟨.ok (body session).result, (body session).state, (body session).notes⟩ := rfl
  have closes : callScope own .close = closeAt own >>= fun _ => pure Answer.done := rfl
  unfold withScope
  rw [Attempt.bind_of_ok tried, closes]
  rcases ran : closeAt own (body session).state with ⟨fault | done, after, notes⟩
  · rw [Attempt.bind_of_error ran, Attempt.bind_of_error ran]
    exact ⟨rfl, rfl⟩
  · rw [Attempt.bind_of_ok ran, Attempt.bind_of_ok ran]
    exact ⟨rfl, rfl⟩

-- By recursion on the command, since one that opens a scope has a body of commands.
mutual

/-- What a command does to a scope that is there are the calls that it makes on it. -/
theorem step_handles (command : Command) {session : Session} (there : (closedAt? index session).isSome = true) :
    Handling index session (callsIn index command session) (step command session).state := by
  cases command with
  | scope name call =>
    rw [callsIn, step, Attempt.read_then]
    cases named : session.scopeNames.lookup name with
    | none => exact .rest
    | some own =>
      by_cases here : own = index
      · subst here
        rw [if_pos rfl]
        exact .call .rest call
      · rw [if_neg fun same => here (Option.some.inj same)]
        exact .aside (callScope_elsewhere here call)
  | «open» request =>
    rw [callsIn, step, answered_state]
    exact .aside ((openNamed_joins request session).elsewhere there).1
  | within request body raised =>
    have joins := (openNamed_joins request session).elsewhere there
    rw [callsIn, step_within]
    rcases ran : openNamed request session with ⟨fault | own, opened, notes⟩
    all_goals
      rw [ran] at joins
      have entered : Handling index session [] opened := .aside joins.1
    · rw [Attempt.bind_of_error ran]
      exact entered
    · rw [Attempt.bind_of_ok ran]
      have other : own ≠ index := joins.2 own rfl
      have worked := entered.trans (runBody_handles body raised (entered.there there))
      have closed := (withScope_ends own (runBody body raised) opened).1
      simp only [other, ↓reduceIte, List.append_nil, answered_state, closed]
      exact worked.between (callScope_elsewhere other .close)
  | add | addWritten | persist | get | list | kept | changeKept | requestDeletion | modify | listen | unlisten | setNow
  | writeFile | makeFolder | deleteFile | deleteRoot | files | pathFor | load | reopen | cloud | reconcile | setRegistry
  | state => exact .aside (preserves_closedAt? rfl index session)

theorem runBody_handles (commands : List Command) (raised : Option Fault) {session : Session}
    (there : (closedAt? index session).isSome = true) :
    Handling index session (callsInBody index commands session) (runBody commands raised session).state := by
  cases commands with
  | nil =>
    rw [callsInBody]
    cases raised <;> exact .rest
  | cons command rest =>
    have first := step_handles command there
    rw [callsInBody, runBody]
    rcases ran : step command session with ⟨fault | answer, after, notes⟩
    all_goals rw [ran] at first
    · rw [Attempt.bind_of_error ran, List.append_nil]
      exact first
    · rw [Attempt.bind_of_ok ran]
      exact first.trans (runBody_handles rest raised (first.there there))

end

/-- By induction on the run: every command adds the calls that it makes. -/
theorem Run.handles {permitted : Session → Command → Bool} {start : Session} {history : List (Session × Command)}
    (ran : Run permitted start history session) (there : (closedAt? index start).isSome = true) :
    Handling index start (callsMade index history) session := by
  induction ran with
  | rest => exact .rest
  | @step history session command ran allowed ih =>
    have latest := step_handles command (ih.there there)
    have made : callsMade index ((session, command) :: history) =
        callsMade index history ++ callsIn index command session := by
      rw [callsMade, callsMade, List.reverse_cons, List.flatMap_append, List.flatMap_singleton]
    rw [made]
    exact ih.trans latest

/-- A scope is written at its first close at most. This holds however an open scope is handled, and whatever commands
are given are a way of handling it; in a body of commands the scope is closed at the end, and what the body comes to
is what the whole comes to, unless the closing fails. -/
theorem scope_writes_once :
    (∀ {index start history session}, closedAt? index start = some false → Handling index start history session →
      (∃ flag, closedAt? index session = some flag ∧ Once index flag history) ∧
        (history.flatMap (handedBy index)).length ≤ 1) ∧
    (∀ {permitted index start history session}, closedAt? index start = some false →
      Run permitted start history session → Handling index start (callsMade index history) session) ∧
    (∀ {request session own opened notes}, openNamed request session = ⟨.ok own, opened, notes⟩ →
      closedAt? own opened = some false ∧
      (∀ commands raised,
        Handling own opened (callsInBody own commands opened) (runBody commands raised opened).state) ∧
      ∀ {body history}, Handling own opened history (body opened).state →
        let closing := callScope own .close (body opened).state
        Once own true (history ++ [((body opened).state, .close)]) ∧
        (withScope own body opened).state = closing.state ∧
        (∀ answer, closing.result = .ok answer → (withScope own body opened).result = (body opened).result) ∧
        ∀ fault, closing.result = .error fault → (withScope own body opened).result = .error fault) ∧
    ∀ request body raised, step (.within request body raised) = (do
      let index ← openNamed request
      withScope index (runBody body raised)
      return .done) := by
  refine ⟨?_, ?_, ?_, step_within⟩
  · intro index start history session unclosed handled
    obtain ⟨flag, known, once⟩ := handled.once unclosed
    exact ⟨⟨flag, known, once⟩, once.handed_length_le⟩
  · intro permitted index start history session unclosed ran
    exact ran.handles (by rw [unclosed]; rfl)
  · intro request session own opened notes ran
    have unclosed : closedAt? own opened = some false := by
      have joins := openNamed_joins request session
      rw [ran] at joins
      exact joins.unclosed
    have there : (closedAt? own opened).isSome = true := by rw [unclosed]; rfl
    refine ⟨unclosed, fun commands raised => runBody_handles commands raised there, ?_⟩
    intro body history handled closing
    obtain ⟨state, result⟩ := withScope_ends own body opened
    refine ⟨?_, state, ?_, ?_⟩
    · obtain ⟨flag, known, once⟩ := (handled.call .close).once unclosed
      have closed := closed_of_close (handled.there there)
      rw [known] at closed
      exact Option.some.inj closed ▸ once
    · intro answer succeeded
      rw [result]
      change (closing.result >>= _) = _
      rw [succeeded]
      rfl
    · intro fault failed
      rw [result]
      change (closing.result >>= _) = _
      rw [failed]
      rfl

namespace Trial

/-- Opens a scope on the image of the store. -/
def entry : OpenRequest where
  scope := "k"
  subject := .stored (id "m")
  hasStore := true
  debug := false
  logger := none
  keep := none

/-- The scope is closed by the body already, and then worked in still. -/
def restless : List Command :=
  [.scope "k" (.setJobId "job-1"), .scope "k" .close, .scope "k" (.setJobId "job-2")]

def boom : Fault :=
  .foreign .runtime "boom"

end Trial

open Trial (lone entry restless boom)

theorem scope_writes_once_of_restless :
    ∃ opened notes, openNamed entry lone = ⟨.ok 0, opened, notes⟩ ∧
      Once 0 true (callsInBody 0 restless opened ++ [((runBody restless (some boom) opened).state, .close)]) ∧
      (runBody restless (some boom) opened).result = .error boom ∧
      (withScope 0 (runBody restless (some boom)) opened).result = .error (.closed "s/m") := by
  obtain ⟨-, -, context, -⟩ := scope_writes_once
  have ran : openNamed entry lone = ⟨.ok 0, (openNamed entry lone).state, (openNamed entry lone).notes⟩ := rfl
  obtain ⟨-, commands, whole⟩ := context ran
  obtain ⟨once, -, -, failed⟩ := whole (commands restless (some boom))
  exact ⟨_, _, ran, once, rfl, failed _ rfl⟩

end Session

end ImageOperator
