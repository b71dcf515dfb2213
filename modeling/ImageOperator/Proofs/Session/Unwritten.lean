import ImageOperator.Proofs.Session.Within

set_option autoImplicit false

/-!
What a scope says of itself. It says that it is closed from its first close on, whatever that close comes to, and its
image is written by the first close or not at all. So a scope that is closed is unwritten exactly if its first close was
refused for the status or failed in the store.
-/

namespace ImageOperator

def ScopeCall.isClose : ScopeCall → Bool
  | .close => true
  | _ => false

namespace Session

variable {index : Nat} {session : Session} {history : List (Session × ScopeCall)}

/-- A call on a scope that writes its image: it hands the image to the store of the scope, which takes it. -/
def Writes (index : Nat) (made : Session × ScopeCall) : Prop :=
  ∃ scope, made.1.scopes[index]? = some scope ∧ handedBy index made = [scope.image] ∧
    (inDepot scope.depot (Depot.persist scope.image) made.1).result = .ok ()

/-- The session that a scope was closed in first, if it was closed. -/
def firstClosed? (history : List (Session × ScopeCall)) : Option Session :=
  (history.find? fun made => made.2.isClose).map Prod.fst

/-- What a close breaks with that is the first: the status is not consistent, or the store fails. -/
inductive Breaks (index : Nat) (session : Session) : Fault → Prop
  | inconsistent {scope : Scope} (held : session.scopes[index]? = some scope)
      (broken : scope.image.isConsistent = false) :
      Breaks index session (.inconsistent scope.image.path scope.image.status.ready scope.image.status.imageId)
  | unstored {scope : Scope} {fault : Fault} (held : session.scopes[index]? = some scope)
      (sound : scope.image.isConsistent = true)
      (failed : (inDepot scope.depot (Depot.persist scope.image) session).result = .error fault) :
      Breaks index session fault

theorem isClose_iff {call : ScopeCall} : call.isClose = true ↔ call = .close := by
  cases call <;> simp [ScopeCall.isClose]

/-- What a scope says is what its closing is. -/
theorem closed_shown {flag : Bool} (known : closedAt? index session = some flag) :
    callScope index .closed session = ⟨.ok (.truth flag), session, []⟩ := by
  obtain ⟨scope, held, rfl⟩ := scope_of_closedAt? known
  rw [callScope, Attempt.bind_of_ok (scopeAt_of held)]
  rfl

theorem firstClosed?_isSome_iff : (firstClosed? history).isSome = true ↔ ∃ made ∈ history, made.2 = .close := by
  rw [firstClosed?, Option.isSome_map, List.find?_isSome]
  simp only [isClose_iff]

theorem firstClosed?_of_unclosed (unclosed : ∀ made ∈ history, made.2 ≠ .close) : firstClosed? history = none := by
  rw [← Option.not_isSome_iff_eq_none, firstClosed?_isSome_iff]
  rintro ⟨made, given, close⟩
  exact unclosed made given close

theorem firstClosed?_of_split {before later : List (Session × ScopeCall)}
    (unclosed : ∀ made ∈ before, made.2 ≠ .close) :
    firstClosed? (before ++ (session, .close) :: later) = some session := by
  have earlier : before.find? (fun made => made.2.isClose) = none :=
    Option.map_eq_none_iff.mp (firstClosed?_of_unclosed unclosed)
  rw [firstClosed?, List.find?_append, earlier]
  rfl

theorem Writes.handed {made : Session × ScopeCall} (writes : Writes index made) : handedBy index made ≠ [] := by
  obtain ⟨scope, -, handed, -⟩ := writes
  rw [handed]
  exact List.cons_ne_nil _ _

theorem Works.unwritten {made : Session × ScopeCall} (works : Works index made) : ¬ Writes index made :=
  fun writes => writes.handed works.nothing

theorem Spent.unwritten {made : Session × ScopeCall} (spent : Spent index made) : ¬ Writes index made :=
  fun writes => writes.handed spent.nothing

section FirstClose

variable {scope : Scope} {outcome : Outcome Session Answer}

/-- The first close breaks with what makes it break, and with nothing else. -/
theorem Shuts.breaks_iff (held : session.scopes[index]? = some scope) (shuts : Shuts index session scope outcome)
    (fault : Fault) : outcome.result = .error fault ↔ Breaks index session fault := by
  have own {other : Scope} (found : session.scopes[index]? = some other) : other = scope :=
    Option.some.inj (found.symm.trans held)
  cases shuts with
  | refused broken =>
    constructor
    · rintro ⟨⟩
      exact .inconsistent held broken
    · rintro (⟨found, -⟩ | ⟨found, sound, -⟩)
      · rw [own found]
      · rw [own found, broken] at sound
        cases sound
  | @written result after notes sound wrote =>
    have stored : (inDepot scope.depot (Depot.persist scope.image) session).result = result := by rw [wrote]
    constructor
    · intro failed
      cases result with
      | error other =>
        obtain rfl := Except.error.inj failed
        exact .unstored held sound stored
      | ok => cases failed
    · rintro (⟨found, broken⟩ | ⟨found, -, failed⟩)
      · rw [own found, sound] at broken
        cases broken
      · rw [own found, stored] at failed
        rw [failed]
        rfl

/-- The first close writes the image if it does not break. -/
theorem Shuts.writes_iff (held : session.scopes[index]? = some scope)
    (shuts : Shuts index session scope (callScope index .close session)) :
    Writes index (session, .close) ↔ ∀ fault, (callScope index .close session).result ≠ .error fault := by
  have handed : handedBy index (session, .close) = ((some scope.image).filter Image.isConsistent).toList :=
    shuts.handed
  generalize callScope index .close session = outcome at shuts
  cases shuts with
  | refused broken =>
    have nothing : handedBy index (session, .close) = [] := by simp [handed, broken]
    exact ⟨fun writes => absurd nothing writes.handed, fun done => absurd rfl (done _)⟩
  | @written result after notes sound wrote =>
    have stored : (inDepot scope.depot (Depot.persist scope.image) session).result = result := by rw [wrote]
    constructor
    · rintro ⟨other, found, -, done⟩ fault failed
      obtain rfl : other = scope := Option.some.inj (found.symm.trans held)
      obtain rfl : result = .ok () := stored.symm.trans done
      cases failed
    · intro done
      cases result with
      | error fault => exact absurd rfl (done fault)
      | ok => exact ⟨scope, held, by simp [handed, sound], stored⟩

end FirstClose

/-- What the calls on a scope come to: none of them closes it and none writes its image, or there is a first close, and
no other call writes it. -/
theorem Once.first {flag : Bool} (once : Once index flag history) :
    (flag = false ∧ firstClosed? history = none ∧ ∀ made ∈ history, ¬ Writes index made) ∨
    (flag = true ∧ ∃ closing scope, firstClosed? history = some closing ∧ closing.scopes[index]? = some scope ∧
      Shuts index closing scope (callScope index .close closing) ∧
      ((∃ made ∈ history, Writes index made) ↔ Writes index (closing, .close))) := by
  cases once with
  | unclosed works =>
    exact .inl ⟨rfl, firstClosed?_of_unclosed fun made given => (works made given).1,
      fun made given => (works made given).unwritten⟩
  | @closed _ before later closing scope split works held unclosed shuts spent handed =>
    subst split
    -- the calls before and after the first close hand nothing to a store
    refine .inr ⟨rfl, closing, scope, firstClosed?_of_split fun made given => (works made given).1, held, shuts, ?_⟩
    constructor
    · rintro ⟨made, given, writes⟩
      rcases List.mem_append.mp given with earlier | rest
      · exact absurd writes (works made earlier).unwritten
      · rcases List.mem_cons.mp rest with rfl | after
        · exact writes
        · exact absurd writes (spent made after).unwritten
    · intro writes
      exact ⟨_, List.mem_append_right before List.mem_cons_self, writes⟩

/-- A scope says that it is closed from its first close on. If its image was written, it says so; it says so of an image
that was not written exactly if the first close broke, and that is because the status was not consistent or the store
failed. -/
theorem closed_unwritten_iff_first_close_breaks {start : Session} (unclosed : closedAt? index start = some false)
    (handled : Handling index start history session) :
    ∃ flag, callScope index .closed session = ⟨.ok (.truth flag), session, []⟩ ∧
      (flag = true ↔ ∃ made ∈ history, made.2 = .close) ∧
      ((∃ made ∈ history, Writes index made) → flag = true) ∧
      (flag = true ∧ (¬ ∃ made ∈ history, Writes index made) ↔
        ∃ closing fault, firstClosed? history = some closing ∧
          (callScope index .close closing).result = .error fault) ∧
      ∀ closing fault, firstClosed? history = some closing →
        ((callScope index .close closing).result = .error fault ↔ Breaks index closing fault) := by
  obtain ⟨flag, known, once⟩ := handled.once unclosed
  refine ⟨flag, closed_shown known, ?_⟩
  rw [← firstClosed?_isSome_iff]
  rcases once.first with ⟨rfl, never, unwritten⟩ | ⟨rfl, closing, scope, first, held, shuts, written⟩
  · have nowhere : ¬ ∃ made ∈ history, Writes index made := fun ⟨made, given, writes⟩ => unwritten made given writes
    simp [never, nowhere]
  · rw [written, shuts.writes_iff held, first]
    refine ⟨by simp, fun _ => rfl, ?_, ?_⟩
    · simp
    · rintro _ fault ⟨⟩
      exact shuts.breaks_iff held fault

namespace Trial

/-- Opens a scope on an image that no store holds. -/
def stray : OpenRequest :=
  { entry with subject := .source (.fields (.mapping [(.text "name", .text "m"), (.text "namespace", .text "s"),
      (.text "spec", spec)])) }

end Trial

open Trial (first lone entry stray)

/-- The store does not hold the image, so it refuses it. -/
theorem closed_unwritten_iff_of_stray :
    ∃ opened notes, openNamed stray first = ⟨.ok 0, opened, notes⟩ ∧ closedAt? 0 opened = some false ∧
      (callScope 0 .closed (callScope 0 .close opened).state).result = .ok (.truth true) ∧
      (¬ ∃ made ∈ [(opened, .close)], Writes 0 made) ∧ Breaks 0 opened (.objectAbsent (Trial.id "m")) := by
  have ran : openNamed stray first = ⟨.ok 0, (openNamed stray first).state, (openNamed stray first).notes⟩ := rfl
  generalize opening : (openNamed stray first).state = opened at ran
  have unclosed : closedAt? 0 opened = some false := by rw [← opening]; rfl
  have refused : (callScope 0 .close opened).result = .error (.objectAbsent (Trial.id "m")) := by rw [← opening]; rfl
  obtain ⟨flag, shown, closes, -, breaks, why⟩ :=
    closed_unwritten_iff_first_close_breaks unclosed (.call .rest .close)
  have unwritten := breaks.mpr ⟨opened, _, rfl, refused⟩
  refine ⟨_, _, ran, unclosed, ?_, unwritten.2, (why opened _ rfl).mp refused⟩
  rw [shown, unwritten.1]

/-- A scope says that it is closed although its close was refused for the status, and its image was not written. -/
theorem unwritten_scope_says_closed :
    ∃ opened notes, openNamed entry lone = ⟨.ok 0, opened, notes⟩ ∧
      let readied := (callScope 0 (.setReady true) opened).state
      let refused := callScope 0 .close readied
      refused.result = .error (.inconsistent "s/m" true "") ∧ refused.state.depots = lone.depots ∧
      (callScope 0 .closed refused.state).result = .ok (.truth true) ∧
      ¬ ∃ made ∈ [(opened, .setReady true), (readied, .close)], Writes 0 made := by
  refine ⟨_, _, rfl, rfl, rfl, rfl, ?_⟩
  rintro ⟨made, given, writes⟩
  have nothing : handedBy 0 made = [] := by
    rcases List.mem_cons.mp given with rfl | given
    · rfl
    · rw [List.mem_singleton.mp given]
      rfl
  exact writes.handed nothing

end Session

end ImageOperator
