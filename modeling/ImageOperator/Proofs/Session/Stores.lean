import ImageOperator.Proofs.Session.Scene
import ImageOperator.Proofs.Session.Views

set_option autoImplicit false

/-!
What holds of the objects of every store. A property of catalogs that is left to hold by whatever can be done to one
store holds in a session, store by store, whatever commands are given.
-/

namespace ImageOperator

mutual

/-- Commands that put objects into a store, or have others do so. -/
def Command.adds : Command → Bool
  | .add _ _ | .addWritten _ _ | .load => true
  | .within _ body _ => Command.anyAdds body
  | .persist _ _ | .get _ _ | .list _ _ | .kept _ | .changeKept _ _ | .requestDeletion _ | .modify _ _ _
  | .listen _ _ _ _ | .unlisten _ | .setNow _ | .writeFile _ _ | .makeFolder _ | .deleteFile _ | .deleteRoot | .files
  | .pathFor _ | .reopen | .cloud _ _ | .open _ | .scope _ _ | .reconcile _ | .setRegistry _ | .state => false

def Command.anyAdds : List Command → Bool
  | [] => false
  | command :: rest => command.adds || Command.anyAdds rest

end

/-- Properties of the objects of a store, by the place of the store, that nothing is taken from by handing an image to
the store. -/
structure Lasts (own : Nat → Catalog → Prop) : Prop where
  vacant : ∀ index, own index []
  persists : ∀ {index : Nat} {objects after : Catalog} {image : Image} {result : Except Fault Unit},
    Depot.Persists objects image result after → own index objects → own index after

/-- Properties that nothing is taken from by adding an image either. -/
def Gains (own : Nat → Catalog → Prop) : Prop :=
  ∀ ⦃index : Nat⦄ ⦃objects after : Catalog⦄ ⦃image : Image⦄ ⦃result : Except Fault Unit⦄,
    Depot.Adds objects image result after → own index objects → own index after

namespace Depot

/-- The property of the store that has a place. -/
def Has (own : Nat → Catalog → Prop) (index : Nat) (depot : Depot) : Prop :=
  own index depot.objects

variable {own : Nat → Catalog → Prop}

theorem has_persist (lasts : Lasts own) (index : Nat) (image : Image) : (persist image).Maintains (Has own index) :=
  fun depot held => lasts.persists (persist_persists image depot).1 held

theorem has_requestDeletion (lasts : Lasts own) (index : Nat) (id : ObjectId) (now : String) :
    (requestDeletion id now).Maintains (Has own index) := by
  intro depot held
  have deletes := requestDeletion_deletes id now depot
  generalize requestDeletion id now depot = outcome at deletes
  cases deletes with
  | unknown | absent => exact held
  | handed known stored => exact has_persist lasts index _ depot held

theorem has_getObject (index : Nat) (id : ObjectId) : (getObject id).Maintains (Has own index) :=
  (Attempt.maintains_of _ _).bind fun _ => (Attempt.maintains_read _).bind fun _ => Attempt.maintains_pure _ _

theorem has_addObject (gains : Gains own) (index : Nat) (image : Image) :
    (addObject image).Maintains (Has own index) :=
  fun depot held => gains (addObject_adds image depot).1 held

theorem has_addWritten (gains : Gains own) (index : Nat) (image : Image) :
    (addWritten image).Maintains (Has own index) :=
  fun depot held => gains (addWritten_adds image depot).1 held

theorem has_loadAll (gains : Gains own) (index : Nat) (disk : Disk) (paths : List Path) :
    (loadAll disk paths).Maintains (Has own index) := by
  induction paths with
  | nil => exact Attempt.maintains_pure _ ()
  | cons path rest ih =>
    refine Attempt.Maintains.bind ?_ fun _ => ih
    exact (Attempt.maintains_of _ _).bind fun image =>
      Attempt.Maintains.bind (fun _ held => held) fun _ => has_addObject gains index image

theorem has_load (gains : Gains own) (index : Nat) : load.Maintains (Has own index) := by
  refine (Attempt.maintains_read _).bind fun depot => ?_
  cases depot.disk with
  | none => exact Attempt.maintains_fail _ _
  | some disk => exact has_loadAll gains index disk _

end Depot

namespace Session

variable {α : Type} {own : Nat → Catalog → Prop}

/-- The property holds of every store, at its place. -/
def Each (own : Nat → Catalog → Prop) (session : Session) : Prop :=
  ∀ index, (session.depot index).Has own index

end Session

/-- What leaves the stores alone leaves their objects as they are. -/
theorem Attempt.Preserves.each {α : Type} {own : Nat → Catalog → Prop} {attempt : Attempt Session α}
    (apart : attempt.Preserves Session.depots) : attempt.Maintains (Session.Each own) := by
  intro session held index
  have same : ((attempt session).state.depot index).objects = (session.depot index).objects := by
    simp only [Session.depot, apart session]
  rw [Depot.Has, same]
  exact held index

namespace Session

variable {α : Type} {own : Nat → Catalog → Prop}

/-- A store that is put where there is one is there afterwards. -/
theorem depot_putDepot {session : Session} {index : Nat} (there : index < session.depots.length) (depot : Depot) :
    (putDepot index depot session).depot index = depot := by
  have put : (session.depots.set index depot)[index]? = some depot := List.getElem?_set_self there
  simp only [putDepot, Session.depot, put, Option.getD_some]

theorem objects_of_outside {session : Session} {index : Nat} (outside : session.depots.length ≤ index) :
    (session.depot index).objects = [] := by
  simp only [Session.depot, List.getElem?_eq_none outside, Option.getD_none]
  rfl

theorem each_inDepot (lasts : Lasts own) {index : Nat} {attempt : Attempt Depot α}
    (maintains : attempt.Maintains (Depot.Has own index)) : (inDepot index attempt).Maintains (Each own) := by
  intro session held other
  let put := putDepot index (attempt (session.depot index)).state session
  change (put.depot other).Has own other
  by_cases same : index = other
  · subst same
    rcases Nat.lt_or_ge index session.depots.length with there | outside
    · rw [depot_putDepot there]
      exact maintains _ (held index)
    · have length : put.depots.length = session.depots.length := List.length_set
      rw [Depot.Has, objects_of_outside (length ▸ outside)]
      exact lasts.vacant index
  · rw [Depot.Has, objects_putDepot_of_ne session _ same]
    exact held other

theorem each_inStore (lasts : Lasts own) {attempt : Attempt Depot α}
    (maintains : ∀ index, attempt.Maintains (Depot.Has own index)) : (inStore attempt).Maintains (Each own) :=
  (Attempt.maintains_read _).bind fun session => each_inDepot lasts (maintains session.current)

theorem each_change {change : Session → Session} (apart : ∀ session, (change session).depots = session.depots) :
    (Attempt.update change).Maintains (Each own) :=
  (Attempt.preserves_update apart).each

theorem each_closeScope (lasts : Lasts own) (scope : Scope) : (closeScope scope).Maintains (Each own) := by
  unfold closeScope
  cases scope.closed with
  | true => exact Attempt.maintains_pure _ _
  | false =>
    cases sound : scope.image.status.isConsistent with
    | false => simpa [sound] using Attempt.maintains_pure (Each own) _
    | true =>
      simp only [sound, Bool.not_true, Bool.false_eq_true, ↓reduceIte]
      exact (each_inDepot lasts (Depot.has_persist lasts _ _)).tried.bind fun _ => Attempt.maintains_pure _ _

theorem each_reconcile (lasts : Lasts own) (id : ObjectId) : (reconcile id).Maintains (Each own) := by
  refine (each_inStore lasts fun index => Depot.has_getObject index id).bind fun stored => ?_
  cases stored with
  | none => exact (preserves_emit depots _).each.bind fun _ => Attempt.maintains_pure _ _
  | some image =>
    refine (preserves_emit depots _).each.bind fun _ => (Attempt.maintains_read _).bind fun session => ?_
    refine (preserves_openScope depots _).each.bind fun scope => ?_
    refine (preserves_visit depots scope _).each.bind fun worked => ?_
    refine (each_closeScope lasts _).bind fun closed => ?_
    cases closed.1
    · exact Attempt.maintains_fail _ _
    · exact Attempt.maintains_of _ _

theorem each_takeSubject (lasts : Lasts own) (subject : Subject) (name : Option String) :
    (takeSubject subject name).Maintains (Each own) := by
  cases subject with
  | absent => exact Attempt.maintains_pure _ _
  | source source => exact (preserves_takeSource depots source name).each.bind fun _ => Attempt.maintains_pure _ _
  | stored id =>
    refine (each_inStore lasts fun index => Depot.has_getObject index id).bind fun stored => ?_
    cases stored with
    | none => exact Attempt.maintains_pure _ _
    | some image => exact (preserves_keep depots name image none).each.bind fun _ => Attempt.maintains_pure _ _

theorem each_openNamed (lasts : Lasts own) (request : OpenRequest) : (openNamed request).Maintains (Each own) := by
  obtain ⟨name, subject, hasStore, debug, logger, keep⟩ := request
  have opens (channel : Option Channel) : Attempt.Maintains (Each own) (do
      let image ← takeSubject subject keep
      let scope ← openScope ⟨hasStore, image, channel, debug⟩
      let index := (← Attempt.state).scopes.length
      Attempt.update fun session =>
        { session with
          scopes := session.scopes ++ [scope]
          scopeNames := (name, index) :: session.scopeNames }
      return index : Attempt Session Nat) := by
    refine (each_takeSubject lasts subject keep).bind fun image => ?_
    refine (preserves_openScope depots _).each.bind fun scope => (Attempt.maintains_read _).bind fun session => ?_
    exact Attempt.Maintains.bind (each_change fun _ => rfl) fun _ => Attempt.maintains_pure _ _
  cases logger with
  | none => exact opens _
  | some logger => exact Attempt.Maintains.bind (each_change fun _ => rfl) fun _ => opens _

theorem each_scopeAt (index : Nat) : (scopeAt index).Maintains (Each own) := by
  refine (Attempt.maintains_read _).bind fun session => ?_
  cases session.scopes[index]? with
  | none => exact Attempt.maintains_fail _ _
  | some scope => exact Attempt.maintains_pure _ _

theorem each_atBench (index : Nat) (attempt : Voice → Attempt Bench α) :
    (atBench index attempt).Maintains (Each own) :=
  (each_scopeAt index).bind fun scope => (preserves_visit depots scope _).each.bind fun _ =>
    Attempt.Maintains.bind (each_change fun _ => rfl) fun _ => Attempt.maintains_of _ _

theorem each_closeAt (lasts : Lasts own) (index : Nat) : (closeAt index).Maintains (Each own) :=
  (each_scopeAt index).bind fun scope => (each_closeScope lasts scope).bind fun _ =>
    Attempt.Maintains.bind (each_change fun _ => rfl) fun _ => Attempt.maintains_of _ _

theorem each_callScope (lasts : Lasts own) (index : Nat) (call : ScopeCall) :
    (callScope index call).Maintains (Each own) := by
  have done (answer : Answer) : (pure answer : Attempt Session Answer).Maintains (Each own) :=
    Attempt.maintains_pure _ answer
  cases call with
  | ensureImage => exact (each_atBench index _).bind fun _ => done _
  | latestJob => exact (each_atBench index _).bind fun job => by cases job <;> exact done _
  | close => exact (each_closeAt lasts index).bind fun _ => done _
  | keepImage name =>
    exact (each_scopeAt index).bind fun _ => (preserves_keep depots _ _ _).each.bind fun _ => done _
  | setImageId imageId =>
    cases imageId with
    | none => exact done _
    | some imageId => exact (each_atBench index _).bind fun _ => done _
  | setPhase text =>
    cases known : Phase.ofText? text with
    | none =>
      simp only [callScope, known]
      exact (Attempt.maintains_fail _ _).bind fun _ => done _
    | some phase =>
      simp only [callScope, known]
      exact (each_atBench index _).bind fun _ => done _
  | deleteImage | deleteJob | setReady | setJobId | addFinalizer | removeFinalizer =>
    exact (each_atBench index _).bind fun _ => done _
  | closed | image | client | isReady | imageId | phase | jobId | hasFinalizer =>
    exact (each_scopeAt index).bind fun _ => done _

theorem each_onTree (steps : Tree → Except FileFault Unit × Tree) : (onTree steps).Maintains (Each own) := by
  refine (Attempt.maintains_read _).bind fun session => ?_
  cases session.disk with
  | none => exact Attempt.maintains_fail _ _
  | some disk =>
    rcases taken : steps disk.tree with ⟨fault | done, tree⟩
    · simp only [taken]
      exact Attempt.Maintains.bind (each_change fun _ => rfl) fun _ => Attempt.maintains_fail _ _
    · simp only [taken]
      exact each_change fun _ => rfl

theorem each_listen (lasts : Lasts own) (change listener handle : String) (reaction : Reaction) :
    (listen change listener handle reaction).Maintains (Each own) := by
  unfold listen
  cases Change.ofText? change with
  | none => exact Attempt.maintains_fail _ _
  | some change =>
    refine (Attempt.maintains_read _).bind fun session => ?_
    refine Attempt.Maintains.bind (each_change fun _ => rfl) fun _ => ?_
    exact each_inStore lasts fun _ => Attempt.maintains_update fun _ held => held

theorem each_unlisten (lasts : Lasts own) (handle : String) : (unlisten handle).Maintains (Each own) := by
  refine (Attempt.maintains_read _).bind fun session => ?_
  cases session.handles.lookup handle with
  | none => exact Attempt.maintains_fail _ _
  | some index =>
    refine each_inDepot lasts (Attempt.maintains_update fun depot held => ?_)
    cases depot.audience.remover? handle <;> exact held

theorem each_editStored (lasts : Lasts own) (id : ObjectId) (writes : Bool) (edit : Edit) :
    (editStored id writes edit).Maintains (Each own) := by
  refine (each_inStore lasts fun index => Depot.has_getObject index id).bind fun stored => ?_
  cases stored with
  | none => exact Attempt.maintains_pure _ _
  | some image =>
    refine (Attempt.maintains_of _ _).bind fun edited => (preserves_emit depots _).each.bind fun _ => ?_
    cases writes with
    | false => exact Attempt.maintains_pure _ _
    | true =>
      exact (each_inStore lasts fun index => Depot.has_persist lasts index _).bind fun _ => Attempt.maintains_pure _ _

/-- A new store has no objects. -/
theorem each_reopen (lasts : Lasts own) : Attempt.Maintains (Each own) (Attempt.update fun session : Session =>
    { session with
      depots := session.depots ++ [Depot.empty session.disk]
      current := session.depots.length
      current_lt := by rw [List.length_append]; exact Nat.lt_succ_self _ }) := by
  intro session held index
  rcases Nat.lt_or_ge index session.depots.length with old | new
  · have there : (session.depots ++ [Depot.empty session.disk])[index]? = session.depots[index]? :=
      List.getElem?_append_left old
    have same := held index
    rw [Depot.Has, Session.depot] at same ⊢
    dsimp only [Attempt.update] at same ⊢
    rw [there]
    exact same
  · have objects : (((session.depots ++ [Depot.empty session.disk])[index]?).getD (Depot.empty none)).objects = [] := by
      rw [List.getElem?_append_right new]
      cases index - session.depots.length <;> rfl
    have vacant := lasts.vacant index
    rw [Depot.Has, Session.depot]
    dsimp only [Attempt.update]
    rw [objects]
    exact vacant

-- By recursion on the command, since one that opens a scope has a body of commands.
mutual

/-- Whatever a command does to the stores, what can be done to one of them leaves the property to hold. -/
theorem step_each (lasts : Lasts own) (command : Command) (gains : command.adds = true → Gains own) :
    (step command).Maintains (Each own) := by
  have done (answer : Answer) : (pure answer : Attempt Session Answer).Maintains (Each own) :=
    Attempt.maintains_pure _ answer
  cases command with
  | add source keep =>
    exact (preserves_takeSource depots source keep).each.bind fun image =>
      (each_inStore lasts fun index => Depot.has_addObject (gains rfl) index image).bind fun _ => done _
  | addWritten source keep =>
    exact (preserves_takeSource depots source keep).each.bind fun image =>
      (each_inStore lasts fun index => Depot.has_addWritten (gains rfl) index image).bind fun _ => done _
  | persist source keep =>
    exact (preserves_takeSource depots source keep).each.bind fun image =>
      (each_inStore lasts fun index => Depot.has_persist lasts index image).bind fun _ => done _
  | get id keep =>
    refine (each_inStore lasts fun index => Depot.has_getObject index id).bind fun stored => ?_
    cases stored with
    | none => exact done _
    | some image => exact (preserves_keep depots keep image none).each.bind fun _ => done _
  | changeKept name edit => exact (step_changeKept depots (fun _ _ => rfl) name edit).each
  | requestDeletion id =>
    exact (Attempt.maintains_read _).bind fun session =>
      (each_inStore lasts fun index => Depot.has_requestDeletion lasts index id _).bind fun _ => done _
  | modify id writes edit => exact each_editStored lasts id writes edit
  | listen change listener handle reaction => exact (each_listen lasts _ _ _ _).bind fun _ => done _
  | unlisten handle => exact (each_unlisten lasts handle).bind fun _ => done _
  | writeFile path text => exact (each_onTree _).bind fun _ => done _
  | makeFolder path => exact (each_onTree _).bind fun _ => done _
  | deleteFile path => exact (each_onTree _).bind fun _ => done _
  | deleteRoot => exact (each_onTree _).bind fun _ => done _
  | load => exact (each_inStore lasts fun index => Depot.has_load (gains rfl) index).bind fun _ => done _
  | reopen => exact (each_reopen lasts).bind fun _ => done _
  | «open» request => exact (each_openNamed lasts request).bind fun _ => done _
  | within request body raised =>
    exact (each_openNamed lasts request).bind fun index =>
      (runBody_each lasts body raised gains).tried.bind fun _ => (each_closeAt lasts index).bind fun _ =>
        (Attempt.maintains_of _ _).bind fun _ => done _
  | scope name call =>
    refine (Attempt.maintains_read _).bind fun session => ?_
    cases session.scopeNames.lookup name with
    | none => exact Attempt.maintains_fail _ _
    | some index => exact each_callScope lasts index call
  | reconcile id => exact (each_reconcile lasts id).bind fun _ => done _
  | list | kept | setNow | setRegistry | files | pathFor | cloud | state => exact (step_aside depots rfl).each

theorem runBody_each (lasts : Lasts own) (commands : List Command) (raised : Option Fault)
    (gains : Command.anyAdds commands = true → Gains own) : (runBody commands raised).Maintains (Each own) := by
  cases commands with
  | nil =>
    cases raised with
    | none => exact Attempt.maintains_pure _ _
    | some fault => exact Attempt.maintains_fail _ _
  | cons command rest =>
    have first (adds : command.adds = true) : Gains own := gains (by simp [Command.anyAdds, adds])
    have later (adds : Command.anyAdds rest = true) : Gains own := gains (by simp [Command.anyAdds, adds])
    exact (step_each lasts command first).bind fun _ => runBody_each lasts rest raised later

end

end Session

end ImageOperator
