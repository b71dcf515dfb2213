import ImageOperator.Proofs.Session.Benches
import ImageOperator.Proofs.Session.OneWrite

set_option autoImplicit false

/-!
Closing a scope. A scope hands its image to the store when it is closed first, and only if the status is consistent
then; until then it leaves the stores alone, and every later close is refused and changes nothing. This holds of any
sequence of calls on a scope, whatever happens in between, and also of the close at the end of a body of commands.
-/

namespace ImageOperator

namespace Session

variable {α β : Type}

/-- Whether the scope at a place is closed, if there is one. -/
def closedAt? (index : Nat) (session : Session) : Option Bool :=
  (session.scopes[index]?).map Scope.closed

/-- What leaves the stores and the closing of a scope alone, and of which no store tells. -/
structure Spared (index : Nat) (session : Session) (outcome : Outcome Session α) : Prop where
  depots : outcome.state.depots = session.depots
  disk : outcome.state.disk = session.disk
  closed : closedAt? index outcome.state = closedAt? index session
  silent : outcome.notes.filter Note.isOfStore = []

/-- The session once a scope of it is closed. -/
def shut (index : Nat) (scope : Scope) (session : Session) : Session :=
  { session with scopes := session.scopes.set index { scope with closed := true } }

/-- What the first close of a scope comes to: it is refused, or the image is handed to the store of the scope. -/
inductive Shuts (index : Nat) (session : Session) (scope : Scope) : Outcome Session Answer → Prop
  | refused (broken : scope.image.isConsistent = false) :
      Shuts index session scope ⟨.error (.inconsistent scope.image.path scope.image.status.ready
        scope.image.status.imageId), session.shut index scope, []⟩
  | written {result : Except Fault Unit} {after : Session} {notes : List Note}
      (sound : scope.image.isConsistent = true)
      (wrote : inDepot scope.depot (Depot.persist scope.image) session = ⟨result, after, notes⟩) :
      Shuts index session scope ⟨result.map fun _ => .done, after.shut index scope, notes⟩

/-- Calls on a scope before it is closed. -/
def Works (index : Nat) (made : Session × ScopeCall) : Prop :=
  made.2 ≠ .close ∧ Spared index made.1 (callScope index made.2 made.1)

/-- Calls on a scope that has been closed: closing it again is refused with nothing changed, and other calls do not turn
to the stores. -/
inductive Spent (index : Nat) : Session × ScopeCall → Prop
  | refused {session : Session} {scope : Scope} (held : session.scopes[index]? = some scope)
      (refused : callScope index .close session = ⟨.error (.closed scope.image.path), session, []⟩)
      (own : (Fault.closed scope.image.path).category = .scope) : Spent index (session, .close)
  | works {made : Session × ScopeCall} (works : Works index made) : Spent index made

/-- The images that a call on a scope hands to a store. -/
def handedBy (index : Nat) (made : Session × ScopeCall) : List Image :=
  (callScope index made.2 made.1).notes.filterMap Note.submitted?

/-- The calls on a scope, each with the session that it was made in, and whether they leave it closed: the first close
is the only one that turns to the stores. -/
inductive Once (index : Nat) : Bool → List (Session × ScopeCall) → Prop
  | unclosed {history : List (Session × ScopeCall)} (works : ∀ made ∈ history, Works index made) :
      Once index false history
  | closed {history before later : List (Session × ScopeCall)} {session : Session} {scope : Scope}
      (split : history = before ++ (session, .close) :: later) (works : ∀ made ∈ before, Works index made)
      (held : session.scopes[index]? = some scope) (unclosed : scope.closed = false)
      (shuts : Shuts index session scope (callScope index .close session)) (spent : ∀ made ∈ later, Spent index made)
      (handed : history.flatMap (handedBy index) = ((some scope.image).filter Image.isConsistent).toList) :
      Once index true history

/-- How a scope is handled: calls on it, and in between whatever else leaves its closing alone. -/
inductive Handling (index : Nat) (start : Session) : List (Session × ScopeCall) → Session → Prop
  | rest : Handling index start [] start
  | call {history : List (Session × ScopeCall)} {session : Session} (handled : Handling index start history session)
      (call : ScopeCall) : Handling index start (history ++ [(session, call)]) (callScope index call session).state
  | between {history : List (Session × ScopeCall)} {session after : Session}
      (handled : Handling index start history session) (same : closedAt? index after = closedAt? index session) :
      Handling index start history after

instance (index : Nat) : Unstored (closedAt? index) where
  recorded _ _ := rfl
  workspaces _ _ := rfl
  stores _ _ _ := rfl

instance (index : Nat) : Overlooks (closedAt? index) where
  recorded _ _ := rfl
  workspaces _ _ := rfl
  kept _ _ _ := rfl
  set _ _ _ := rfl

section Calls

variable {index own : Nat} {session : Session} {scope : Scope}

theorem scope_of_closedAt? {flag : Bool} (known : closedAt? index session = some flag) :
    ∃ scope, session.scopes[index]? = some scope ∧ scope.closed = flag := by
  unfold closedAt? at known
  exact Option.map_eq_some_iff.mp known

/-- A scope that is put in the place of one that is closed or not as it is itself. -/
theorem closedAt?_set {other : Scope} (held : session.scopes[own]? = some scope) (same : other.closed = scope.closed) :
    closedAt? index { session with scopes := session.scopes.set own other } = closedAt? index session := by
  unfold closedAt?
  by_cases here : own = index
  · subst here
    have there := (List.getElem?_eq_some_iff.mp held).1
    rw [List.getElem?_set_self there, held, Option.map_some, Option.map_some, same]
  · rw [List.getElem?_set_ne here]

theorem closedAt?_shut_self (held : session.scopes[index]? = some scope) :
    closedAt? index (session.shut index scope) = some true := by
  unfold closedAt? shut
  rw [List.getElem?_set_self (List.getElem?_eq_some_iff.mp held).1, Option.map_some]

theorem closedAt?_shut_of_ne (other : own ≠ index) (scope : Scope) :
    closedAt? index (session.shut own scope) = closedAt? index session := by
  unfold closedAt? shut
  rw [List.getElem?_set_ne other]

theorem Spared.same (result : Except Fault α) : Spared index session ⟨result, session, []⟩ :=
  ⟨rfl, rfl, rfl, rfl⟩

/-- What is answered at the end is nothing to the stores. -/
theorem Spared.answered {attempt : Attempt Session α} {answer : α → Attempt Session β}
    (spared : Spared index session (attempt session))
    (answers : ∀ value after, ∃ result, answer value after = ⟨result, after, []⟩) :
    Spared index session ((attempt >>= answer) session) := by
  obtain ⟨depots, disk, closed, silent⟩ := spared
  rcases ran : attempt session with ⟨fault | value, after, notes⟩
  all_goals rw [ran] at depots disk closed silent
  · rw [Attempt.bind_of_error ran]
    exact ⟨depots, disk, closed, silent⟩
  · obtain ⟨result, answered⟩ := answers value after
    rw [Attempt.bind_of_ok ran, answered, List.append_nil]
    exact ⟨depots, disk, closed, silent⟩

/-- What is done on the bench of a scope, where the workspace tells nothing of stores. -/
theorem atBench_spared {attempt : Voice → Attempt Bench α} (calls : ∀ voice, (attempt voice).Calls Bench.callLog) :
    Spared index session (atBench own attempt session) := by
  unfold atBench
  cases held : session.scopes[own]? with
  | none =>
    rw [Attempt.bind_of_error (scopeAt_of_none held)]
    exact .same _
  | some scope =>
    rw [Attempt.bind_of_ok (scopeAt_of held)]
    have silent := (calls scope.voice ⟨scope.image, session.workspace scope.workspace⟩).2
    refine ⟨rfl, rfl, closedAt?_set held rfl, ?_⟩
    change ([] ++ (_ ++ ([] ++ []))).filter Note.isOfStore = []
    rw [List.nil_append, List.append_nil, List.append_nil, filter_shows_isOfStore]
    exact silent

/-- Calls that are no close leave the stores alone. -/
theorem callScope_spared {call : ScopeCall} (other : call ≠ .close) :
    Spared index session (callScope own call session) := by
  have answered {attempt : Attempt Session Unit} (spared : Spared index session (attempt session)) :
      Spared index session ((attempt >>= fun _ => pure Answer.done) session) :=
    spared.answered fun _ _ => ⟨_, rfl⟩
  have asked (answer : Scope → Answer) :
      Spared index session ((scopeAt own >>= fun scope => pure (answer scope)) session) := by
    refine Spared.answered ?_ fun _ _ => ⟨_, rfl⟩
    cases held : session.scopes[own]? with
    | none =>
      rw [scopeAt_of_none held]
      exact .same _
    | some scope =>
      rw [scopeAt_of held]
      exact .same _
  cases call with
  | close => exact absurd rfl other
  | ensureImage => exact (atBench_spared Bench.calls_ensureImage).answered fun _ _ => ⟨_, rfl⟩
  | latestJob =>
    refine (atBench_spared Bench.calls_latestJob).answered fun job _ => ?_
    cases job <;> exact ⟨_, rfl⟩
  | deleteImage => exact answered (atBench_spared Bench.calls_deleteImage)
  | deleteJob => exact answered (atBench_spared Bench.calls_deleteJob)
  | setReady ready => exact answered (atBench_spared fun _ => Bench.calls_setReady ready)
  | setJobId jobId => exact answered (atBench_spared fun _ => Bench.calls_setJobId jobId)
  | setImageId imageId =>
    cases imageId with
    | none => exact .same _
    | some imageId => exact answered (atBench_spared fun _ => Bench.calls_setImageId imageId)
  | setPhase text =>
    cases known : Phase.ofText? text with
    | none =>
      simp only [callScope, known]
      exact .same _
    | some phase =>
      simp only [callScope, known]
      exact answered (atBench_spared fun _ => Bench.calls_setPhase phase)
  | addFinalizer name => exact answered (atBench_spared fun _ => Bench.calls_addFinalizer name)
  | removeFinalizer name => exact answered (atBench_spared fun _ => Bench.calls_removeFinalizer name)
  | closed | image | client | isReady | imageId | phase | jobId | hasFinalizer => exact asked _
  | keepImage name =>
    cases held : session.scopes[own]? with
    | none =>
      rw [callScope, Attempt.bind_of_error (scopeAt_of_none held)]
      exact .same _
    | some scope =>
      rw [callScope, Attempt.bind_of_ok (scopeAt_of held)]
      exact ⟨rfl, rfl, rfl, rfl⟩

/-- Closing a scope by its place comes to what closing it comes to, and keeps it as that leaves it. -/
theorem callScope_close {other : Scope} {result : Except Fault Unit} {after : Session} {notes : List Note}
    (held : session.scopes[index]? = some scope)
    (closing : closeScope scope session = ⟨.ok (result, other), after, notes⟩) :
    callScope index .close session =
      ⟨result.map fun _ => .done, { after with scopes := after.scopes.set index other }, notes⟩ := by
  have closed : closeAt index session =
      ⟨result, { after with scopes := after.scopes.set index other }, notes⟩ := by
    unfold closeAt
    rw [Attempt.bind_of_ok (scopeAt_of held), Attempt.bind_of_ok closing]
    change (⟨_, _, [] ++ (notes ++ [])⟩ : Outcome Session Unit) = _
    rw [List.nil_append, List.append_nil]
    rfl
  change (closeAt index >>= fun _ => pure Answer.done) session = _
  cases result with
  | error fault =>
    rw [Attempt.bind_of_error closed]
    rfl
  | ok =>
    rw [Attempt.bind_of_ok closed, Attempt.pure_apply, List.append_nil]
    rfl

/-- A scope that has been closed is not closed again. -/
theorem close_of_closed (held : session.scopes[index]? = some scope) (closed : scope.closed = true) :
    callScope index .close session = ⟨.error (.closed scope.image.path), session, []⟩ := by
  have refused : closeScope scope session = ⟨.ok (.error (.closed scope.image.path), scope), session, []⟩ := by
    unfold closeScope
    rw [closed]
    rfl
  have unchanged : session.scopes.set index scope = session.scopes := by
    obtain ⟨there, rfl⟩ := List.getElem?_eq_some_iff.mp held
    exact List.set_getElem_self there
  rw [callScope_close held refused, unchanged]
  rfl

theorem close_of_unclosed (held : session.scopes[index]? = some scope) (unclosed : scope.closed = false) :
    Shuts index session scope (callScope index .close session) := by
  cases sound : scope.image.isConsistent with
  | false =>
    have broken : scope.image.status.isConsistent = false := sound
    have refused : closeScope scope session = ⟨.ok (.error (.inconsistent scope.image.path scope.image.status.ready
        scope.image.status.imageId), { scope with closed := true }), session, []⟩ := by
      unfold closeScope
      simp only [unclosed, broken, Bool.false_eq_true, ↓reduceIte]
      rfl
    rw [callScope_close held refused]
    exact .refused sound
  | true =>
    have consistent : scope.image.status.isConsistent = true := sound
    rcases wrote : inDepot scope.depot (Depot.persist scope.image) session with ⟨result, after, notes⟩
    have tried : (inDepot scope.depot (Depot.persist scope.image)).tried session = ⟨.ok result, after, notes⟩ := by
      simp only [Attempt.tried, wrote]
    have closing : closeScope scope session = ⟨.ok (result, { scope with closed := true }), after, notes⟩ := by
      unfold closeScope
      simp only [unclosed, consistent, Bool.not_true, Bool.false_eq_true, ↓reduceIte]
      rw [Attempt.bind_of_ok tried, Attempt.pure_apply, List.append_nil]
    rw [callScope_close held closing]
    exact .written sound wrote

theorem Shuts.closed {outcome : Outcome Session Answer} (held : session.scopes[index]? = some scope)
    (shuts : Shuts index session scope outcome) : closedAt? index outcome.state = some true := by
  cases shuts with
  | refused broken => exact closedAt?_shut_self held
  | @written result after notes sound wrote =>
    have scopes : after.scopes = session.scopes := by
      have preserved := preserves_inDepot Session.scopes scope.depot (Depot.persist scope.image) session
      rw [wrote] at preserved
      exact preserved
    exact closedAt?_shut_self (scopes ▸ held)

/-- The first close hands over the image as it is then, if its status is consistent, and nothing otherwise. -/
theorem Shuts.handed {outcome : Outcome Session Answer} (shuts : Shuts index session scope outcome) :
    outcome.notes.filterMap Note.submitted? = ((some scope.image).filter Image.isConsistent).toList := by
  cases shuts with
  | refused broken => simp [broken]
  | @written result after notes sound wrote =>
    have shown : (inDepot scope.depot (Depot.persist scope.image) session).notes = notes := by rw [wrote]
    have told : notes.filter Note.isOfStore =
        (Depot.persist scope.image (session.depot scope.depot)).notes.filter Note.isOfStore :=
      shown ▸ filter_shows_isOfStore _ _
    have one : notes.filterMap Note.submitted? = [scope.image] := by
      rw [← Note.filterMap_filter Depot.submitted_of_apart, told, Note.filterMap_filter Depot.submitted_of_apart]
      exact Depot.persist_submitted scope.image _
    rw [one, Option.filter_some, sound]
    rfl

theorem Works.nothing {made : Session × ScopeCall} (works : Works index made) : handedBy index made = [] := by
  unfold handedBy
  rw [← Note.filterMap_filter Depot.submitted_of_apart, works.2.silent]
  rfl

theorem Spent.nothing {made : Session × ScopeCall} (spent : Spent index made) : handedBy index made = [] := by
  cases spent with
  | refused held refused own =>
    unfold handedBy
    rw [refused]
    rfl
  | works works => exact works.nothing

/-- A call on a scope that is not closed: it leaves the stores alone, or is the close. -/
theorem Once.call_unclosed {history : List (Session × ScopeCall)} (works : ∀ made ∈ history, Works index made)
    (unclosed : closedAt? index session = some false) (call : ScopeCall) :
    ∃ flag, closedAt? index (callScope index call session).state = some flag ∧
      Once index flag (history ++ [(session, call)]) := by
  by_cases closing : call = .close
  · subst closing
    obtain ⟨scope, held, closed⟩ := scope_of_closedAt? unclosed
    have shuts := close_of_unclosed held closed
    refine ⟨true, shuts.closed held, .closed rfl works held closed shuts (by simp) ?_⟩
    have earlier : history.flatMap (handedBy index) = [] :=
      List.flatMap_eq_nil_iff.mpr fun made given => (works made given).nothing
    rw [List.flatMap_append, earlier, List.flatMap_singleton]
    exact shuts.handed
  · have spared : Spared index session (callScope index call session) := callScope_spared closing
    refine ⟨false, spared.closed.trans unclosed, .unclosed fun made given => ?_⟩
    rcases List.mem_append.mp given with before | last
    · exact works made before
    · obtain rfl := List.mem_singleton.mp last
      exact ⟨closing, spared⟩

/-- A call on a scope that has been closed. -/
theorem spent_of_closed (closed : closedAt? index session = some true) (call : ScopeCall) :
    Spent index (session, call) ∧ closedAt? index (callScope index call session).state = some true := by
  by_cases closing : call = .close
  · subst closing
    obtain ⟨scope, held, flag⟩ := scope_of_closedAt? closed
    have refused := close_of_closed held flag
    exact ⟨.refused held refused rfl, by rw [refused]; exact closed⟩
  · have spared : Spared index session (callScope index call session) := callScope_spared closing
    exact ⟨.works ⟨closing, spared⟩, spared.closed.trans closed⟩

/-- Whatever a close comes to, the scope is closed after it. -/
theorem closed_of_close (there : (closedAt? index session).isSome = true) :
    closedAt? index (callScope index .close session).state = some true := by
  obtain ⟨flag, known⟩ := Option.isSome_iff_exists.mp there
  cases flag with
  | false =>
    obtain ⟨scope, held, unclosed⟩ := scope_of_closedAt? known
    exact (close_of_unclosed held unclosed).closed held
  | true => exact (spent_of_closed known .close).2

theorem Once.call {flag : Bool} {history : List (Session × ScopeCall)} (once : Once index flag history)
    (known : closedAt? index session = some flag) (call : ScopeCall) :
    ∃ flag, closedAt? index (callScope index call session).state = some flag ∧
      Once index flag (history ++ [(session, call)]) := by
  cases once with
  | unclosed works => exact call_unclosed works known call
  | @closed _ before later first scope split works held unclosed shuts spent handed =>
    obtain ⟨last, closed⟩ := spent_of_closed known call
    have split_later : history ++ [(session, call)] = before ++ (first, .close) :: (later ++ [(session, call)]) := by
      rw [split, List.append_assoc, List.cons_append]
    refine ⟨true, closed, .closed split_later works held unclosed shuts ?_ ?_⟩
    · intro made given
      rcases List.mem_append.mp given with earlier | here
      · exact spent made earlier
      · exact List.mem_singleton.mp here ▸ last
    · rw [List.flatMap_append, handed, List.flatMap_singleton, last.nothing, List.append_nil]

/-- By induction on how the scope is handled: the history so far, with whether the scope is closed by now. -/
theorem Handling.once {start : Session} {history : List (Session × ScopeCall)}
    (unclosed : closedAt? index start = some false) (handled : Handling index start history session) :
    ∃ flag, closedAt? index session = some flag ∧ Once index flag history := by
  induction handled with
  | rest => exact ⟨false, unclosed, .unclosed (by simp)⟩
  | call handled call ih =>
    obtain ⟨flag, known, once⟩ := ih
    exact once.call known call
  | between handled same ih =>
    obtain ⟨flag, known, once⟩ := ih
    exact ⟨flag, same.trans known, once⟩

theorem Once.handed_length_le {flag : Bool} {history : List (Session × ScopeCall)} (once : Once index flag history) :
    (history.flatMap (handedBy index)).length ≤ 1 := by
  cases once with
  | unclosed works =>
    rw [List.flatMap_eq_nil_iff.mpr fun made given => (works made given).nothing]
    exact Nat.zero_le 1
  | closed split works held unclosed shuts spent handed =>
    rw [handed]
    exact Option.length_toList_le

theorem Handling.trans {start middle : Session} {history later : List (Session × ScopeCall)}
    (handled : Handling index start history middle) (further : Handling index middle later session) :
    Handling index start (history ++ later) session := by
  induction further with
  | rest =>
    rw [List.append_nil]
    exact handled
  | call further call ih =>
    rw [← List.append_assoc]
    exact ih.call call
  | between further same ih => exact ih.between same

theorem Handling.aside {after : Session} (same : closedAt? index after = closedAt? index session) :
    Handling index session [] after :=
  .between .rest same

/-- A scope that is there stays there. -/
theorem Handling.there {start : Session} {history : List (Session × ScopeCall)}
    (handled : Handling index start history session) (there : (closedAt? index start).isSome = true) :
    (closedAt? index session).isSome = true := by
  induction handled with
  | rest => exact there
  | @call history session handled call ih =>
    obtain ⟨flag, known⟩ := Option.isSome_iff_exists.mp ih
    cases flag with
    | false =>
      have works : ∀ made ∈ ([] : List (Session × ScopeCall)), Works index made := by simp
      obtain ⟨flag, after, -⟩ := Once.call_unclosed works known call
      rw [after]
      rfl
    | true =>
      rw [(spent_of_closed known call).2]
      rfl
  | between handled same ih => rw [same, ih]

/-- Calls on another scope. -/
theorem callScope_elsewhere (other : own ≠ index) (call : ScopeCall) :
    closedAt? index (callScope own call session).state = closedAt? index session := by
  by_cases closing : call = .close
  · subst closing
    cases held : session.scopes[own]? with
    | none =>
      change closedAt? index ((closeAt own >>= fun _ => pure Answer.done) session).state = _
      unfold closeAt
      rw [Attempt.bind_of_error (Attempt.bind_of_error (scopeAt_of_none held) _)]
    | some scope =>
      cases flag : scope.closed with
      | true => rw [close_of_closed held flag]
      | false =>
        have shuts := close_of_unclosed held flag
        generalize callScope own .close session = outcome at shuts
        cases shuts with
        | refused broken => exact closedAt?_shut_of_ne other scope
        | @written result after notes sound wrote =>
          have preserved := preserves_inDepot (closedAt? index) scope.depot (Depot.persist scope.image) session
          rw [wrote] at preserved
          exact (closedAt?_shut_of_ne other scope).trans preserved
  · exact (callScope_spared closing).closed

end Calls

end Session

end ImageOperator
