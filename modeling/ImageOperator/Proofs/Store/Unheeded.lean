import ImageOperator.Proofs.Store.Request

set_option autoImplicit false

/-!
Listeners are not heeded: whoever is registered with a store, and whatever they do when they are told of a change, the
store answers its operations alike and has the same objects and files.
-/

namespace ImageOperator.Depot

/-- The operations of a store. -/
inductive Operation
  /-- Puts an image into the store, without writing its document. -/
  | put (image : Image)
  | request (request : Request)
  | get (id : ObjectId)
  | list
  | load

/-- What operations answer. -/
inductive Reply
  | done
  | found (image : Option Image)
  | listed (images : List Image)

def Operation.run : Operation → Attempt Depot Reply
  | .put image => do
    addObject image
    return .done
  | .request asked => do
    asked.run
    return .done
  | .get id => return .found (← getObject id)
  | .list => return .listed (listObjects (← Attempt.state))
  | .load => do
    Depot.load
    return .done

/-- What happens to a store: it is used, a listener is registered, or a remover is called. -/
inductive Happening
  | used (operation : Operation)
  | listened (registration : Registration) (handle : String)
  | unlistened (remover : Remover)

namespace Happening

def operation? : Happening → Option Operation
  | .used operation => some operation
  | .listened _ _ | .unlistened _ => none

/-- The store once something has happened. -/
def after (depot : Depot) : Happening → Depot
  | .used operation => (operation.run depot).state
  | .listened registration handle => { depot with audience := depot.audience.register registration handle }
  | .unlistened remover => { depot with audience := depot.audience.remove remover }

/-- The answer to an operation; who listens or stops listening gets none. -/
def answers (depot : Depot) : Happening → List (Except Fault Reply)
  | .used operation => [(operation.run depot).result]
  | .listened _ _ | .unlistened _ => []

end Happening

/-- The store after all that happens. -/
def afterAll (depot : Depot) (happenings : List Happening) : Depot :=
  happenings.foldl Happening.after depot

/-- The answers to all operations, in their order. -/
def answersAll (depot : Depot) : List Happening → List (Except Fault Reply)
  | [] => []
  | happening :: rest => happening.answers depot ++ (happening.after depot).answersAll rest

variable {α β : Type}

/-- Attempts that are made of steps which do not look at who listens, and of telling them. -/
inductive Deaf : {α : Type} → Attempt Depot α → Prop
  | of {α : Type} (result : Except Fault α) : Deaf (Attempt.of result)
  | note (notes : List Note) : Deaf (Attempt.note notes)
  /-- The listeners are left alone. -/
  | update {change : Depot → Depot}
      (apart : ∀ depot audience, change { depot with audience } = { change depot with audience }) :
      Deaf (Attempt.update change)
  /-- What is gone on with may depend on the store, but not on who listens. -/
  | read {α : Type} {next : Depot → Attempt Depot α}
      (apart : ∀ depot audience, next { depot with audience } = next depot) (later : ∀ depot, Deaf (next depot)) :
      Deaf (Attempt.state >>= next)
  | fire (change : Change) (image : Image) : Deaf (fire change image)
  | bind {α β : Type} {first : Attempt Depot α} {next : α → Attempt Depot β} (begins : Deaf first)
      (later : ∀ value, Deaf (next value)) : Deaf (first >>= next)

/-! ### Operations are deaf -/

theorem deaf_pure (value : α) : Deaf (pure value) :=
  .of (.ok value)

theorem deaf_fail (fault : Fault) : Deaf (Attempt.fail fault : Attempt Depot α) :=
  .of (.error fault)

theorem deaf_log (channel : Channel) (level : Level) (message : String) : Deaf (Attempt.log channel level message) :=
  .note _

/-- What goes on unless it failed before. -/
theorem Deaf.guarded {fails : Prop} [Decidable fails] {fault : Fault} {next : Attempt Depot α} (deaf : Deaf next) :
    Deaf (if fails then Attempt.fail fault >>= fun _ : PUnit => next else next) := by
  split
  · exact deaf_fail fault
  · exact deaf

theorem deaf_takeSteps (disk : Disk) (steps : List FileStep) : Deaf (takeSteps disk steps) := by
  unfold takeSteps
  rcases disk.tree.steps steps with ⟨fault | done, tree⟩
  · exact Deaf.bind (.update fun _ _ => rfl) fun _ => deaf_fail _
  · exact .update fun _ _ => rfl

theorem deaf_writeDocument (image : Image) : Deaf (writeDocument image) := by
  apply Deaf.read fun _ _ => rfl
  intro depot
  cases depot.disk with
  | none => exact deaf_pure ()
  | some disk =>
    apply (Deaf.of _).bind
    intro path
    exact (deaf_takeSteps disk _).bind fun _ => deaf_log _ _ _

theorem deaf_removeDocument (id : ObjectId) : Deaf (removeDocument id) := by
  apply Deaf.read fun _ _ => rfl
  intro depot
  cases depot.disk with
  | none => exact deaf_pure ()
  | some disk =>
    apply (Deaf.of _).bind
    intro path
    apply (deaf_takeSteps disk _).bind
    intro _
    split
    · exact deaf_log _ _ _
    · exact deaf_pure _

theorem deaf_addObject (image : Image) : Deaf (addObject image) := by
  apply (Deaf.of _).bind
  intro key
  apply Deaf.read fun _ _ => rfl
  intro depot
  apply (deaf_log _ _ _).bind
  intro _
  exact Deaf.bind (.update fun _ _ => rfl) fun _ => Deaf.fire .added image

theorem deaf_addWritten (image : Image) : Deaf (addWritten image) := by
  apply Deaf.read fun _ _ => rfl
  intro depot
  apply Deaf.guarded
  exact (deaf_writeDocument image).bind fun _ => deaf_addObject image

theorem deaf_getObject (id : ObjectId) : Deaf (getObject id) := by
  apply (Deaf.of _).bind
  intro key
  exact .read (fun _ _ => rfl) fun _ => deaf_pure _

theorem deaf_persist (image : Image) : Deaf (persist image) := by
  apply (Deaf.note _).bind
  intro _
  apply (Deaf.of _).bind
  intro key
  apply Deaf.read fun _ _ => rfl
  intro depot
  apply Deaf.guarded
  split
  · apply (deaf_removeDocument image.id).bind
    intro _
    apply (deaf_log _ _ _).bind
    intro _
    exact Deaf.bind (.update fun _ _ => rfl) fun _ => Deaf.fire .removed image
  · apply (deaf_writeDocument image).bind
    intro _
    apply (deaf_log _ _ _).bind
    intro _
    exact Deaf.bind (.update fun _ _ => rfl) fun _ => Deaf.fire .persisted image

theorem deaf_requestDeletion (id : ObjectId) (now : String) : Deaf (requestDeletion id now) := by
  apply (Deaf.of _).bind
  intro key
  apply Deaf.read fun _ _ => rfl
  intro depot
  cases depot.objects.get? key with
  | none => exact deaf_fail _
  | some image => exact (deaf_log _ _ _).bind fun _ => deaf_persist _

theorem deaf_loadAll (disk : Disk) (paths : List Path) : Deaf (loadAll disk paths) := by
  induction paths with
  | nil => exact deaf_pure ()
  | cons path rest ih =>
    have one : Deaf (loadDocument disk path) := by
      apply (Deaf.of _).bind
      intro image
      exact (deaf_log _ _ _).bind fun _ => deaf_addObject image
    exact one.bind fun _ => ih

theorem deaf_load : Deaf load := by
  apply Deaf.read fun _ _ => rfl
  intro depot
  cases depot.disk with
  | none => exact deaf_fail _
  | some disk => exact deaf_loadAll disk _

theorem deaf_run (operation : Operation) : Deaf operation.run := by
  cases operation with
  | put image => exact (deaf_addObject image).bind fun _ => deaf_pure _
  | request request =>
    have handled : Deaf request.run := by
      cases request with
      | add image => exact deaf_addWritten image
      | persist image => exact deaf_persist image
      | delete id now => exact deaf_requestDeletion id now
    exact handled.bind fun _ => deaf_pure _
  | get id => exact (deaf_getObject id).bind fun _ => deaf_pure _
  | list => exact .read (fun _ _ => rfl) fun _ => deaf_pure _
  | load => exact deaf_load.bind fun _ => deaf_pure _

/-! ### Two runs -/

/-- An attempt that goes alike whoever listens: the result is the same, and so is the store but for its listeners. -/
def Unheeding (attempt : Attempt Depot α) : Prop :=
  ∀ depot audience, ∃ heard notes, attempt { depot with audience } =
    ⟨(attempt depot).result, { (attempt depot).state with audience := heard }, notes⟩

theorem Unheeding.bind {first : Attempt Depot α} {next : α → Attempt Depot β} (unheeding : Unheeding first)
    (later : ∀ value, Unheeding (next value)) : Unheeding (first >>= next) := by
  intro depot audience
  obtain ⟨heard, notes, same⟩ := unheeding depot audience
  rcases ran : first depot with ⟨fault | value, middle, told⟩
  all_goals rw [ran] at same
  · rw [Attempt.bind_of_error ran, Attempt.bind_of_error same]
    exact ⟨heard, notes, rfl⟩
  · obtain ⟨last, more, then_same⟩ := later value middle heard
    rw [Attempt.bind_of_ok ran, Attempt.bind_of_ok same, then_same]
    exact ⟨last, notes ++ more, rfl⟩

/-- Who listens makes no difference to what does not look at them; telling them changes the listeners at most. -/
theorem Deaf.unheeding {attempt : Attempt Depot α} (deaf : Deaf attempt) : Unheeding attempt := by
  induction deaf with
  | of result => exact fun _ audience => ⟨audience, [], rfl⟩
  | note notes => exact fun _ audience => ⟨audience, notes, rfl⟩
  | update apart => exact fun depot audience => ⟨audience, [], by rw [Attempt.update, apart]; rfl⟩
  | read apart later ih =>
    intro depot audience
    rw [Attempt.read_then, Attempt.read_then, apart]
    exact ih depot depot audience
  | fire change image => exact fun _ _ => ⟨_, _, rfl⟩
  | bind begins later first_ih later_ih => exact first_ih.bind later_ih

/-- The store with nobody listening. -/
def unheard (depot : Depot) : Depot :=
  { depot with audience := ⟨[], [], []⟩ }

variable {depot other : Depot}

/-- Stores that differ in their listeners only go on alike. -/
theorem run_of_unheard (same : depot.unheard = other.unheard) (operation : Operation) :
    (operation.run depot).result = (operation.run other).result ∧
      (operation.run depot).state.unheard = (operation.run other).state.unheard := by
  obtain ⟨heard, notes, alone⟩ := (deaf_run operation).unheeding depot ⟨[], [], []⟩
  obtain ⟨otherHeard, otherNotes, otherAlone⟩ := (deaf_run operation).unheeding other ⟨[], [], []⟩
  have both : operation.run depot.unheard = operation.run other.unheard := congrArg operation.run same
  rw [show operation.run depot.unheard = _ from alone, show operation.run other.unheard = _ from otherAlone,
    Outcome.mk.injEq] at both
  obtain ⟨result, state, -⟩ := both
  have after : Depot.unheard { (operation.run depot).state with audience := heard } =
    Depot.unheard { (operation.run other).state with audience := otherHeard } := congrArg Depot.unheard state
  exact ⟨result, after⟩

/-- The operations alone, among all that happens. -/
def used (happenings : List Happening) : List Happening :=
  (happenings.filterMap Happening.operation?).map .used

/-- All that happens goes as the operations alone do, on a store with whatever listeners. -/
theorem goes_as_used (happenings : List Happening) (same : depot.unheard = other.unheard) :
    depot.answersAll happenings = other.answersAll (used happenings) ∧
      (depot.afterAll happenings).unheard = (other.afterAll (used happenings)).unheard := by
  induction happenings generalizing depot other with
  | nil => exact ⟨rfl, same⟩
  | cons happening rest ih =>
    cases happening with
    | used operation =>
      obtain ⟨result, state⟩ := run_of_unheard same operation
      obtain ⟨answers, last⟩ := ih state
      refine ⟨?_, last⟩
      change (operation.run depot).result :: _ = (operation.run other).result :: _
      rw [result]
      exact congrArg _ answers
    | listened registration handle => exact ih same
    | unlistened remover => exact ih same

/-- Listeners cannot influence a store. Take two stores with the same objects and disk, with whatever listeners, and let
the same operations be done on both, with whatever registering and unregistering in between: the answers are the same in
both, and so are the objects with their order, and the files. -/
theorem listeners_unheeded (objects : Catalog) (disk : Option Disk) (audience other : Audience)
    {happenings others : List Happening}
    (same : happenings.filterMap Happening.operation? = others.filterMap Happening.operation?) :
    (⟨objects, audience, disk⟩ : Depot).answersAll happenings = (⟨objects, other, disk⟩ : Depot).answersAll others ∧
      ((⟨objects, audience, disk⟩ : Depot).afterAll happenings).objects =
        ((⟨objects, other, disk⟩ : Depot).afterAll others).objects ∧
      ((⟨objects, audience, disk⟩ : Depot).afterAll happenings).disk =
        ((⟨objects, other, disk⟩ : Depot).afterAll others).disk := by
  have alone : used happenings = used others := congrArg (List.map Happening.used) same
  obtain ⟨answers, last⟩ := @goes_as_used ⟨objects, audience, disk⟩ ⟨objects, other, disk⟩ happenings rfl
  obtain ⟨otherAnswers, otherLast⟩ := @goes_as_used ⟨objects, other, disk⟩ ⟨objects, other, disk⟩ others rfl
  rw [alone] at answers last
  have store := last.trans otherLast.symm
  simp only [unheard, Depot.mk.injEq, true_and] at store
  exact ⟨answers.trans otherAnswers.symm, store⟩

namespace Trial

/-- An image that somebody holds on to. -/
def clung : Image where
  name := .text "m"
  space := .text "s"
  spec := ⟨"instance-1", "b", "o", "us-south", Image.defaultTier⟩
  status := .fresh
  finalizers := [.text "held"]
  deletion := .null

/-- Listeners that change their image, call removers and break. -/
def unruly : Audience where
  registrations :=
    [⟨.added, "first", fun _ => [.edit fun image => { image with finalizers := [] }, .unlisten "second", .fail]⟩,
      ⟨.added, "second", .fails⟩, ⟨.persisted, "third", fun past => if past.length < 3 then [.fail] else []⟩]
  removers := [⟨"second", .added, "second"⟩]
  past := []

def plain : List Happening :=
  [.used (.put clung), .used (.request (.persist clung)), .used (.request (.delete clung.id "noon")),
    .used (.get clung.id), .used .list]

def restless : List Happening :=
  [.used (.put clung), .listened ⟨.persisted, "fourth", .unlisten "third"⟩ "fourth",
    .used (.request (.persist clung)), .unlistened ⟨"third", .persisted, "third"⟩,
    .used (.request (.delete clung.id "noon")), .used (.get clung.id), .used .list]

end Trial

/-- The object is still held on to after all that: it is marked and stays. -/
theorem listeners_unheeded_of_unruly :
    Trial.plain.filterMap Happening.operation? = Trial.restless.filterMap Happening.operation? ∧
      (⟨[], Trial.unruly, none⟩ : Depot).answersAll Trial.restless =
        [.ok .done, .ok .done, .ok .done, .ok (.found (some (Trial.clung.marked "noon"))),
          .ok (.listed [Trial.clung.marked "noon"])] ∧
      ((⟨[], Trial.unruly, none⟩ : Depot).afterAll Trial.restless).objects.images =
        [Trial.clung.marked "noon"] := by
  obtain ⟨answers, objects, -⟩ := @listeners_unheeded [] none Audience.standard Trial.unruly Trial.plain Trial.restless rfl
  refine ⟨rfl, answers.symm.trans rfl, ?_⟩
  rw [← objects]
  rfl

end ImageOperator.Depot
