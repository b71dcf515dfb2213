import ImageOperator.Proofs.Scope.Voices
import ImageOperator.Session.Step

set_option autoImplicit false

/-!
A recorder is heard by nobody: two sessions that differ in their recorders only do the same, command by command. They
end each command alike, and have the same stores, files, clouds, calls and changes told to listeners.
-/

namespace ImageOperator

open Attempt

/-- A scope, but for the recorder that it tells its events to. -/
def Scope.unheard (scope : Scope) : Scope :=
  { scope with voice := { scope.voice with recorder := .memory } }

/-- An answer, but for what a recorder kept. -/
def Answer.unheard : Answer → Answer
  | .view shown => .view { shown with reasons := none }
  | answer => answer

namespace Session

/-- A session, but for its recorder and what that kept. -/
def unheard (session : Session) : Session :=
  { session with recorder := none, recorded := [], scopes := session.scopes.map Scope.unheard }

variable {α β γ τ : Type}

/-- Attempts on sessions that go alike where the sessions differ in their recorders only. -/
abbrev Unheard (read : α → γ) (first second : Attempt Session α) : Prop :=
  Matches unheard read first second

/-- Sessions that differ in their recorders only agree in every part that recorders have no part in. -/
theorem agree {session other : Session} (seen : session.unheard = other.unheard) (part : Session → τ)
    (apart : ∀ session, part session.unheard = part session := by exact fun _ => rfl) : part session = part other := by
  rw [← apart session, seen, apart other]

theorem filter_isOpen_shows (session : Session) (notes : List Note) :
    (notes.filter session.shows).filter Note.isOpen = notes.filter Note.isOpen := by
  rw [List.filter_filter]
  apply List.filter_congr
  intro note told
  cases note <;> rfl

theorem unheard_through {part : Session → τ} {put : τ → Session → Session} (attempt : Attempt τ α)
    (parts : ∀ session, part session.unheard = part session)
    (puts : ∀ value session, (put value session).unheard = put value session.unheard) :
    Unheard id (through part put attempt) (through part put attempt) := by
  intro session other seen
  unfold through
  rw [agree seen part parts]
  refine ⟨rfl, ?_, ?_⟩
  · change (put _ session).unheard = (put _ other).unheard
    rw [puts, seen, puts]
  · dsimp only
    rw [filter_isOpen_shows, filter_isOpen_shows]

theorem unheard_change {change : Session → Session}
    (apart : ∀ session, (change session).unheard = change session.unheard) :
    Unheard id (Attempt.update change) (Attempt.update change) :=
  matches_update fun session other seen => by rw [apart, seen, apart]

theorem unheard_emit (notes : List Note) : Unheard id (emit notes) (emit notes) :=
  unheard_through _ (fun _ => rfl) fun _ _ => rfl

theorem unheard_say (channel : Channel) (level : Level) (message : String) :
    Unheard id (say channel level message) (say channel level message) :=
  unheard_emit _

theorem unheard_inDepot (index : Nat) (attempt : Attempt Depot α) :
    Unheard id (inDepot index attempt) (inDepot index attempt) :=
  unheard_through attempt (fun _ => rfl) fun _ _ => rfl

theorem unheard_inStore (attempt : Attempt Depot α) : Unheard id (inStore attempt) (inStore attempt) := by
  apply matches_read.bind
  intro session other seen
  rw [agree seen current]
  exact unheard_inDepot _ attempt

theorem unheard_inWorkspace (name : String) (attempt : Attempt Workspace α) :
    Unheard id (inWorkspace name attempt) (inWorkspace name attempt) :=
  unheard_through attempt (fun _ => rfl) fun _ _ => rfl

theorem unheard_openScope (opening : Opening) : Unheard Scope.unheard (openScope opening) (openScope opening) := by
  unfold openScope
  cases opening.hasStore with
  | false => exact matches_fail _
  | true =>
    cases opening.image with
    | none => exact matches_fail _
    | some image =>
      apply matches_read.bind
      intro session other seen
      simp only [agree seen registry, agree seen thresholds, agree seen current, agree seen clientFor]
      apply Matches.andThen (matches_of rfl)
      intro options
      apply (unheard_say _ _ _).andThen
      intro _
      apply (unheard_emit _).andThen
      intro _
      apply Matches.andThen (matches_of rfl)
      intro workspace
      exact Matches.andThen (unheard_change fun _ => rfl) fun _ => matches_pure rfl

theorem unheard_visit {scope other : Scope} (alike : scope.unheard = other.unheard) {attempt follow : Attempt Bench α}
    (same : Bench.Same attempt follow) :
    Unheard (Prod.map id Scope.unheard) (visit scope attempt) (visit other follow) := by
  obtain ⟨image, workspace, depot, closed, voice⟩ := scope
  obtain ⟨otherImage, otherWorkspace, otherDepot, otherClosed, otherVoice⟩ := other
  obtain ⟨rfl, rfl, rfl, rfl, channel⟩ := Scope.mk.inj alike
  intro session other seen
  have there : session.workspace workspace = other.workspace workspace := agree seen (·.workspace workspace)
  obtain ⟨result, state, notes⟩ := same ⟨image, session.workspace workspace⟩ ⟨image, other.workspace workspace⟩
    (congrArg (Bench.mk image) there)
  simp only [Except.map_id, id_eq] at result state
  unfold visit
  refine ⟨?_, ?_, ?_⟩
  · simp only [Except.map, Prod.map, id_eq, Scope.unheard, result, state, channel]
  · change (putWorkspace workspace _ session).unheard = (putWorkspace workspace _ other).unheard
    rw [state]
    exact congrArg (putWorkspace workspace _) seen
  · dsimp only
    rw [filter_isOpen_shows, filter_isOpen_shows]
    exact notes

theorem unheard_closeScope {scope other : Scope} (alike : scope.unheard = other.unheard) :
    Unheard (Prod.map id Scope.unheard) (closeScope scope) (closeScope other) := by
  obtain ⟨image, workspace, depot, closed, voice⟩ := scope
  obtain ⟨otherImage, otherWorkspace, otherDepot, otherClosed, otherVoice⟩ := other
  obtain ⟨rfl, rfl, rfl, rfl, channel⟩ := Scope.mk.inj alike
  have same : ({ image, workspace, depot, closed := true, voice } : Scope).unheard =
      ({ image, workspace, depot, closed := true, voice := otherVoice } : Scope).unheard :=
    congrArg (Scope.mk image workspace depot true) channel
  unfold closeScope
  cases closed with
  | true => exact matches_pure (Prod.ext rfl same)
  | false =>
    cases sound : image.status.isConsistent with
    | false =>
      simp only [sound]
      exact matches_pure (Prod.ext rfl same)
    | true =>
      simp only [sound]
      apply (unheard_inDepot depot (Depot.persist image)).tried.bind
      rintro result followed read
      rw [Except.map_id] at read
      exact matches_pure (Prod.ext read same)

theorem unheard_workIn (config : Config) {scope other : Scope} (alike : scope.unheard = other.unheard) :
    Unheard id (workIn config scope) (workIn config other) := by
  apply (unheard_visit alike (Pass.same_body config scope.voice other.voice)).bind
  rintro ⟨result, worked⟩ ⟨_, otherWorked⟩ read
  obtain ⟨rfl, worked⟩ := Prod.mk.inj read
  apply (unheard_closeScope worked).bind
  rintro ⟨closing, closed⟩ ⟨_, otherClosed⟩ read
  obtain ⟨rfl, closed⟩ := Prod.mk.inj read
  cases closing with
  | error fault => exact matches_fail fault
  | ok done => exact matches_of rfl

theorem unheard_reconcile (id : ObjectId) : Unheard (fun requeue => requeue) (reconcile id) (reconcile id) := by
  apply (unheard_inStore (Depot.getObject id)).andThen
  intro stored
  cases stored with
  | none => exact (unheard_say _ _ _).andThen fun _ => matches_pure rfl
  | some image =>
    apply (unheard_say _ _ _).andThen
    intro _
    apply matches_read.bind
    intro session other seen
    rw [agree seen config]
    apply (unheard_openScope _).bind
    intro scope opened alike
    exact unheard_workIn _ alike

theorem heldImage?_unheard (held : Held) (session : Session) :
    session.unheard.heldImage? held = session.heldImage? held := by
  cases held with
  | draft index => rfl
  | scope index => simp [heldImage?, unheard, Scope.unheard, List.getElem?_map, Function.comp_def]

theorem setHeld_unheard (image : Image) (held : Held) (session : Session) :
    (session.setHeld image held).unheard = session.unheard.setHeld image held := by
  cases held with
  | draft index => rfl
  | scope index =>
    cases there : session.scopes[index]? <;>
      simp [setHeld, unheard, Scope.unheard, List.getElem?_map, List.map_set, there]

theorem unheard_keptImage (name : String) : Unheard id (keptImage name) (keptImage name) := by
  apply matches_read.bind
  intro session other seen
  rw [agree seen kept]
  cases other.kept.lookup name with
  | none => exact matches_fail _
  | some held =>
    dsimp only
    rw [agree seen (·.heldImage? held) (heldImage?_unheard held)]
    cases other.heldImage? held with
    | none => exact matches_fail _
    | some image => exact matches_pure rfl

theorem unheard_keep (name : Option String) (image : Image) (held : Option Held) :
    Unheard id (keep name image held) (keep name image held) := by
  cases name with
  | none => exact matches_pure rfl
  | some name => cases held <;> exact unheard_change fun _ => rfl

theorem unheard_takeSource (source : Source) (name : Option String) :
    Unheard id (takeSource source name) (takeSource source name) := by
  cases source with
  | document value =>
    exact Matches.andThen (matches_of rfl) fun image => (unheard_keep name image none).andThen fun _ => matches_pure rfl
  | fields value =>
    exact Matches.andThen (matches_of rfl) fun image => (unheard_keep name image none).andThen fun _ => matches_pure rfl
  | kept kept =>
    exact (unheard_keptImage kept).andThen fun found =>
      (unheard_keep name found.2 (some found.1)).andThen fun _ => matches_pure rfl

theorem unheard_takeSubject (subject : Subject) (name : Option String) :
    Unheard id (takeSubject subject name) (takeSubject subject name) := by
  cases subject with
  | absent => exact matches_pure rfl
  | source source => exact (unheard_takeSource source name).andThen fun _ => matches_pure rfl
  | stored id =>
    apply (unheard_inStore (Depot.getObject id)).andThen
    intro stored
    cases stored with
    | none => exact matches_pure rfl
    | some image => exact (unheard_keep name image none).andThen fun _ => matches_pure rfl

theorem unheard_openNamed (request : OpenRequest) : Unheard id (openNamed request) (openNamed request) := by
  obtain ⟨name, subject, hasStore, debug, logger, keep⟩ := request
  have opens (channel : Option Channel) : Unheard id (do
      let image ← takeSubject subject keep
      let scope ← openScope ⟨hasStore, image, channel, debug⟩
      let index := (← Attempt.state).scopes.length
      Attempt.update fun session =>
        { session with
          scopes := session.scopes ++ [scope]
          scopeNames := (name, index) :: session.scopeNames }
      return index : Attempt Session Nat) (do
      let image ← takeSubject subject keep
      let scope ← openScope ⟨hasStore, image, channel, debug⟩
      let index := (← Attempt.state).scopes.length
      Attempt.update fun session =>
        { session with
          scopes := session.scopes ++ [scope]
          scopeNames := (name, index) :: session.scopeNames }
      return index : Attempt Session Nat) := by
    apply (unheard_takeSubject subject keep).andThen
    intro image
    apply (unheard_openScope _).bind
    intro scope otherScope alike
    apply matches_read.bind
    intro session other seen
    rw [agree seen (·.scopes.length) fun session => List.length_map _]
    refine Matches.andThen (matches_update fun before after met => ?_) fun _ => matches_pure rfl
    have both := congrArg (fun session : Session => { session with
      scopes := session.scopes ++ [scope.unheard]
      scopeNames := (name, other.scopes.length) :: session.scopeNames }) met
    simpa [unheard, alike] using both
  cases logger with
  | none => exact opens _
  | some logger => exact Matches.andThen (unheard_change fun _ => rfl) fun _ => opens _

theorem unheard_scopeAt (index : Nat) : Unheard Scope.unheard (scopeAt index) (scopeAt index) := by
  apply matches_read.bind
  intro session other seen
  have there : (session.scopes[index]?).map Scope.unheard = (other.scopes[index]?).map Scope.unheard := by
    rw [← List.getElem?_map, ← List.getElem?_map]
    exact congrArg (fun session : Session => session.scopes[index]?) seen
  cases scope : session.scopes[index]? <;> cases otherScope : other.scopes[index]? <;>
    simp only [scope, otherScope, Option.map_none, Option.map_some, reduceCtorEq] at there
  · exact matches_fail _
  · exact matches_pure (Option.some.inj there)

theorem unheard_setScope (index : Nat) {scope other : Scope} (alike : scope.unheard = other.unheard) :
    Unheard id (setScope index scope) (setScope index other) := by
  apply matches_update
  intro before after met
  have both := congrArg (fun session : Session => { session with
    scopes := session.scopes.set index scope.unheard }) met
  simpa [unheard, alike, List.map_set] using both

theorem unheard_atBench (index : Nat) {attempt : Voice → Attempt Bench α}
    (same : ∀ voice other, Bench.Same (attempt voice) (attempt other)) :
    Unheard id (atBench index attempt) (atBench index attempt) := by
  apply (unheard_scopeAt index).bind
  intro scope other alike
  apply (unheard_visit alike (same scope.voice other.voice)).bind
  rintro ⟨result, worked⟩ ⟨_, otherWorked⟩ read
  obtain ⟨rfl, worked⟩ := Prod.mk.inj read
  exact (unheard_setScope index worked).andThen fun _ => matches_of rfl

theorem unheard_closeAt (index : Nat) : Unheard id (closeAt index) (closeAt index) := by
  apply (unheard_scopeAt index).bind
  intro scope other alike
  apply (unheard_closeScope alike).bind
  rintro ⟨result, closed⟩ ⟨_, otherClosed⟩ read
  obtain ⟨rfl, closed⟩ := Prod.mk.inj read
  exact (unheard_setScope index closed).andThen fun _ => matches_of rfl

/-- What a scope answers of its own does not depend on its recorder. -/
theorem unheard_asked (index : Nat) {answer : Scope → Answer} (apart : ∀ scope, answer scope.unheard = answer scope) :
    Unheard id (do return answer (← scopeAt index)) (do return answer (← scopeAt index)) := by
  apply (unheard_scopeAt index).bind
  intro scope other alike
  exact matches_pure (by rw [← apart scope, alike, apart other])

theorem unheard_callScope (index : Nat) (call : ScopeCall) :
    Unheard id (callScope index call) (callScope index call) := by
  have self {α : Type} (attempt : Attempt Bench α) (voice other : Voice) : Bench.Same attempt attempt :=
    Bench.same_self attempt
  cases call with
  | ensureImage => exact (unheard_atBench index Bench.same_ensureImage).andThen fun _ => matches_pure rfl
  | latestJob =>
    apply (unheard_atBench index Bench.same_latestJob).andThen
    intro latest
    cases latest <;> exact matches_pure rfl
  | deleteImage => exact (unheard_atBench index Bench.same_deleteImage).andThen fun _ => matches_pure rfl
  | deleteJob => exact (unheard_atBench index Bench.same_deleteJob).andThen fun _ => matches_pure rfl
  | close => exact (unheard_closeAt index).andThen fun _ => matches_pure rfl
  | keepImage name =>
    apply (unheard_scopeAt index).bind
    intro scope other alike
    rw [(Scope.mk.inj alike).1]
    exact (unheard_keep _ _ _).andThen fun _ => matches_pure rfl
  | setImageId imageId =>
    cases imageId with
    | none => exact matches_pure rfl
    | some imageId => exact (unheard_atBench index (self _)).andThen fun _ => matches_pure rfl
  | setPhase text =>
    simp only [callScope]
    cases Phase.ofText? text with
    | none => exact Matches.andThen (matches_fail _) fun _ => matches_pure rfl
    | some phase => exact (unheard_atBench index (self _)).andThen fun _ => matches_pure rfl
  | setReady | setJobId | addFinalizer | removeFinalizer =>
    exact (unheard_atBench index (self _)).andThen fun _ => matches_pure rfl
  | closed | image | client | isReady | imageId | phase | jobId | hasFinalizer =>
    exact unheard_asked index fun _ => rfl

theorem unheard_callCloud (workspace : String) (command : CloudCommand) :
    Unheard id (callCloud workspace command) (callCloud workspace command) := by
  cases command with
  | createJob request =>
    apply (unheard_inWorkspace workspace _).andThen
    intro _
    apply Matches.andThen (matches_of rfl)
    intro request
    exact (unheard_inWorkspace workspace _).andThen fun _ => matches_pure rfl
  | latestJob instanceId =>
    apply (unheard_inWorkspace workspace _).andThen
    intro latest
    cases latest <;> exact matches_pure rfl
  | _ => exact (unheard_inWorkspace workspace _).andThen fun _ => matches_pure rfl

theorem unheard_listen (change listener handle : String) (reaction : Reaction) :
    Unheard id (listen change listener handle reaction) (listen change listener handle reaction) := by
  unfold listen
  cases Change.ofText? change with
  | none => exact matches_fail _
  | some change =>
    apply matches_read.bind
    intro session other seen
    simp only [agree seen reactions]
    exact Matches.andThen (unheard_change fun _ => rfl) fun _ => unheard_inStore _

theorem unheard_unlisten (handle : String) : Unheard id (unlisten handle) (unlisten handle) := by
  apply matches_read.bind
  intro session other seen
  rw [agree seen handles]
  cases other.handles.lookup handle with
  | none => exact matches_fail _
  | some index => exact unheard_inDepot index _

theorem unheard_onTree (steps : Tree → Except FileFault Unit × Tree) : Unheard id (onTree steps) (onTree steps) := by
  apply matches_read.bind
  intro session other seen
  rw [agree seen disk]
  cases other.disk with
  | none => exact matches_fail _
  | some disk =>
    dsimp only
    rcases steps disk.tree with ⟨fault | done, tree⟩
    · exact Matches.andThen (unheard_change fun _ => rfl) fun _ => matches_fail _
    · exact unheard_change fun _ => rfl

theorem unheard_editStored (id : ObjectId) (writes : Bool) (edit : Edit) :
    Unheard (fun answer => answer) (editStored id writes edit) (editStored id writes edit) := by
  apply (unheard_inStore (Depot.getObject id)).andThen
  intro stored
  cases stored with
  | none => exact matches_pure rfl
  | some image =>
    apply Matches.andThen (matches_of rfl)
    intro edited
    apply (unheard_emit _).andThen
    intro _
    cases writes with
    | false => exact matches_pure rfl
    | true => exact (unheard_inStore _).andThen fun _ => matches_pure rfl

theorem unheard_listStored (name : Option String) (index : Nat) :
    Unheard id (listStored name index) (listStored name index) := by
  apply matches_read.bind
  intro session other seen
  rw [agree seen fun session => session.depot session.current]
  cases name with
  | none => exact matches_pure rfl
  | some name =>
    simp only [Option.isSome_some, ↓reduceIte]
    cases ((other.depot other.current).listObjects)[index]? with
    | none => exact matches_fail _
    | some image => exact (unheard_keep _ _ _).andThen fun _ => matches_pure rfl

-- By recursion on the command, since one that opens a scope has a body of commands.
mutual

theorem step_unheard (command : Command) : Unheard Answer.unheard (step command) (step command) := by
  cases command with
  | add source name | addWritten source name | persist source name =>
    exact (unheard_takeSource source name).andThen fun _ => (unheard_inStore _).andThen fun _ => matches_pure rfl
  | get id name =>
    apply (unheard_inStore (Depot.getObject id)).andThen
    intro stored
    cases stored with
    | none => exact matches_pure rfl
    | some image => exact (unheard_keep name image none).andThen fun _ => matches_pure rfl
  | list name index => exact (unheard_listStored name index).weaken
  | kept name => exact (unheard_keptImage name).andThen fun _ => matches_pure rfl
  | changeKept name edit =>
    apply (unheard_keptImage name).andThen
    intro found
    apply Matches.andThen (matches_of rfl)
    intro edited
    apply (unheard_emit _).andThen
    intro _
    exact Matches.andThen (unheard_change fun session => setHeld_unheard _ _ session) fun _ => matches_pure rfl
  | requestDeletion id =>
    apply matches_read.bind
    intro session other seen
    rw [agree seen now]
    exact (unheard_inStore _).andThen fun _ => matches_pure rfl
  | modify id writes edit => exact (unheard_editStored id writes edit).weaken
  | listen change listener handle reaction =>
    exact (unheard_listen change listener handle reaction).andThen fun _ => matches_pure rfl
  | unlisten handle => exact (unheard_unlisten handle).andThen fun _ => matches_pure rfl
  | setNow now => exact Matches.andThen (unheard_change fun _ => rfl) fun _ => matches_pure rfl
  | setRegistry registry => exact Matches.andThen (unheard_change fun _ => rfl) fun _ => matches_pure rfl
  | writeFile | makeFolder | deleteFile | deleteRoot =>
    exact (unheard_onTree _).andThen fun _ => matches_pure rfl
  | files =>
    apply matches_read.bind
    intro session other seen
    rw [agree seen files]
    cases other.files with
    | none => exact matches_fail _
    | some files => exact matches_pure rfl
  | pathFor id =>
    apply matches_read.bind
    intro session other seen
    rw [agree seen disk]
    cases other.disk with
    | none => exact matches_fail _
    | some disk => exact Matches.andThen (matches_of rfl) fun path => matches_pure rfl
  | load => exact (unheard_inStore _).andThen fun _ => matches_pure rfl
  | reopen => exact Matches.andThen (unheard_change fun _ => rfl) fun _ => matches_pure rfl
  | cloud workspace command =>
    apply matches_read.bind
    intro session other seen
    rw [agree seen home]
    exact (unheard_callCloud _ command).weaken
  | «open» request => exact (unheard_openNamed request).andThen fun _ => matches_pure rfl
  | within request body raised =>
    apply (unheard_openNamed request).andThen
    intro index
    apply (runBody_unheard body raised).tried.bind
    intro result other read
    simp only [Except.map_id, id_eq] at read
    subst read
    apply (unheard_closeAt index).andThen
    intro _
    exact Matches.andThen (matches_of rfl) fun _ => matches_pure rfl
  | scope name call =>
    apply matches_read.bind
    intro session other seen
    rw [agree seen scopeNames]
    cases other.scopeNames.lookup name with
    | none => exact matches_fail _
    | some index => exact (unheard_callScope index call).weaken
  | reconcile id => exact (unheard_reconcile id).andThen fun _ => matches_pure rfl
  | state =>
    apply matches_read.bind
    intro session other seen
    apply matches_pure
    simp only [Answer.unheard, view, agree seen fun session => session.depot session.current, agree seen workspaces,
      agree seen files]

theorem runBody_unheard (commands : List Command) (raised : Option Fault) :
    Unheard id (runBody commands raised) (runBody commands raised) := by
  cases commands with
  | nil =>
    cases raised with
    | none => exact matches_pure rfl
    | some fault => exact matches_fail fault
  | cons command rest => exact (step_unheard command).bind fun _ _ _ => runBody_unheard rest raised

end

/-- All that is to be seen as a session is given commands, but for what recorders have a part in: for each command how
it ended, the open notes, and the session after it. -/
def overt (session : Session) : List Command → List (Except Fault Answer × List Note × Session)
  | [] => []
  | command :: rest =>
    let outcome := step command session
    (outcome.result.map Answer.unheard, outcome.notes.filter Note.isOpen, outcome.state.unheard) ::
      outcome.state.overt rest

theorem overt_of_unheard {session other : Session} (seen : session.unheard = other.unheard) (commands : List Command) :
    session.overt commands = other.overt commands := by
  induction commands generalizing session other with
  | nil => rfl
  | cons command rest ih =>
    obtain ⟨result, state, notes⟩ := step_unheard command session other seen
    simp only [overt, result, notes, state, ih state]

/-- Whatever the recorders of two sessions are, if any, and whenever they fail: each command ends alike, with the same
calls, requests for clients, images handed to stores and changes told to listeners, and leaves the same stores, files,
clouds and open scopes. -/
theorem recorder_unheard (settings : Settings) (recorder other : Option Recorder) (commands : List Command) :
    (start { settings with recorder }).overt commands = (start { settings with recorder := other }).overt commands := by
  apply overt_of_unheard
  rfl

end Session

end ImageOperator
