import ImageOperator.Proofs.Session.Leaving

set_option autoImplicit false

/-!
How far the deletion of an object has come shows in the image that a pass hands back, however its deletes ended, so the
next pass goes on from there.
-/

namespace ImageOperator

namespace Session

variable {id : ObjectId} {session : Session} {image handed : Image}

/-- What a pass leaves of an object that is to be deleted: what its deletes did, and nothing else. -/
structure Discarded (session : Session) (id : ObjectId) (image handed : Image) (pass : Outcome Session Pass.Requeue) :
    Prop where
  submitted : pass.notes.filterMap Note.submitted? = [handed]
  /-- Nothing is called but deletes of what the status names. -/
  called : ∀ workspace call, .called workspace call ∈ pass.notes → image.status.Holds call
  discards : Pass.Discards image handed pass.notes pass.result
  stored : pass.state.stored? id = if Depot.leaves handed then none else some handed
  /-- Unless all is gone that was to be deleted, the object stays, with the finalizer. -/
  kept : ¬ Untroubled pass.notes → pass.state.stored? id = some handed ∧ handed.isGuarded = true

theorem Taken.discarded {pass : Outcome Session Pass.Requeue} (taken : Taken session id image handed pass)
    (requested : image.deletionRequested = true) (consistent : image.status.isConsistent = true)
    (once : image.GuardedOnce) : Discarded session id image handed pass := by
  obtain ⟨submitted, ⟨name, workspace, notes, works, same⟩, stored⟩ := taken
  have deletes := works.deletes requested
  have discards : Pass.Discards image handed pass.notes pass.result :=
    (deletes.discards consistent once).of_calls same
  refine ⟨submitted, fun place call noted => deletes.calls ((same place call).mp noted), discards, stored, ?_⟩
  intro troubled
  have guarded : handed.isGuarded = true := by
    cases guarded : handed.isGuarded with
    | true => rfl
    | false => exact absurd (discards.released.mp guarded) troubled
  have staying : Depot.leaves handed = false := by
    cases leaving : Depot.leaves handed with
    | false => rfl
    | true =>
      rw [Image.isGuarded_of_leaves leaving] at guarded
      cases guarded
  rw [stored, staying]
  exact ⟨rfl, guarded⟩

/-- An image that is to be deleted, of a consistent status, with the operator's finalizer and no other. -/
structure Releasable (image : Image) : Prop where
  requested : image.deletionRequested = true
  consistent : image.status.isConsistent = true
  finalizers : image.finalizers = [.text Image.finalizer]

theorem Releasable.once (releasable : Releasable image) : image.GuardedOnce := by
  rw [Image.GuardedOnce, releasable.finalizers]
  decide

theorem releasable_lingers : Lingers Releasable where
  requested _ releasable := releasable.requested
  deletes bench outcome releasable deletes staying := by
    have requested := deletes.akin.deletionRequested.trans releasable.requested
    refine ⟨requested, deletes.isConsistent releasable.consistent, ?_⟩
    rcases deletes.single releasable.finalizers with none | same
    · simp [Depot.leaves, requested, none] at staying
    · exact same

/-- A pass on which all goes well that was to be deleted takes the object out. -/
theorem Taken.removes {pass : Outcome Session Pass.Requeue} (taken : Taken session id image handed pass)
    (releasable : Releasable image) (calm : Untroubled pass.notes) :
    pass.result = .ok none ∧ pass.state.stored? id = none := by
  have discarded := taken.discarded releasable.requested releasable.consistent releasable.once
  have unguarded := discarded.discards.released.mpr calm
  refine ⟨discarded.discards.done calm, ?_⟩
  obtain ⟨-, ⟨name, workspace, notes, works, -⟩, stored⟩ := taken
  have deletes := works.deletes releasable.requested
  have requested : handed.deletionRequested = true := deletes.akin.deletionRequested.trans releasable.requested
  have left : handed.finalizers = [] ∨ handed.finalizers = [.text Image.finalizer] :=
    deletes.single releasable.finalizers
  have leaving : Depot.leaves handed = true := by
    rcases left with none | same
    · rw [Depot.leaves, requested, none]
      rfl
    · have guarded : handed.isGuarded = true := by
        rw [Image.isGuarded, Image.hasFinalizer, same]
        decide
      rw [unguarded] at guarded
      cases guarded
  rw [stored, leaving]
  rfl

/-- A pass over an object that is to be deleted hands it back, if its scope opens. -/
theorem handsBack?_of_requested (opened : (openScope (session.passOpening image) session).result.isOk = true)
    (requested : image.deletionRequested = true) (consistent : image.status.isConsistent = true) :
    ∃ handed, session.handsBack? image = some handed := by
  rw [handsBack?_worked]
  cases ran : session.worked image with
  | error fault =>
    unfold worked at ran
    cases result : (openScope (session.passOpening image) session).result with
    | error other =>
      rw [result] at opened
      cases opened
    | ok scope =>
      rw [result] at ran
      cases ran
  | ok work =>
    have sound := ((works_of_worked ran).deletes requested).isConsistent consistent
    exact ⟨work.2.state.image, Option.filter_eq_some_iff.mpr ⟨rfl, sound⟩⟩

/-- A pass over an object that is to be deleted, of a consistent status and with the finalizer once, takes note of what
its deletes did, however they end. If the finalizer is the only one, then after whatever passes, and whatever else but
that it is added anew, one pass on which all goes well takes the object out. -/
theorem discarding_resumes {settings : Settings} {commands : List Command} {id : ObjectId} {image : Image}
    (stored : ((start settings).after commands).stored? id = some image) (requested : image.deletionRequested = true)
    (consistent : image.status.isConsistent = true) (once : image.GuardedOnce) :
    let session := (start settings).after commands
    ((openScope (session.passOpening image) session).result.isOk = true →
      ∃ handed, session.handsBack? image = some handed ∧
        ((Depot.persist handed session.store).result = .ok () →
          Discarded session id image handed (reconcile id session))) ∧
      (image.finalizers = [.text Image.finalizer] → ∀ history last found, Run (undisturbed id) session history last →
        last.stored? id = some found → (openScope (last.passOpening found) last).result.isOk = true →
          ∃ handed, last.handsBack? found = some handed ∧
            ((Depot.persist handed last.store).result = .ok () → Untroubled (reconcile id last).notes →
              (reconcile id last).result = .ok none ∧ (reconcile id last).state.stored? id = none)) := by
  intro session
  have filed : session.Filed := after_filed (start_filed settings) commands
  refine ⟨fun opened => ?_, fun only history last found ran there opened => ?_⟩
  · obtain ⟨handed, back⟩ := handsBack?_of_requested opened requested consistent
    exact ⟨handed, back, fun taken =>
      (reconcile_taken (filed.depot session.current) stored back taken).discarded requested consistent once⟩
  · have releasable : StoredAs id Releasable session := by
      intro other again
      obtain rfl := Option.some.inj (stored.symm.trans again)
      exact ⟨requested, consistent, only⟩
    obtain ⟨last_filed, still⟩ := (ran.lingers releasable_lingers filed releasable).last
    have found_releasable := still found there
    obtain ⟨handed, back⟩ :=
      handsBack?_of_requested opened found_releasable.requested found_releasable.consistent
    exact ⟨handed, back, fun taken calm =>
      (reconcile_taken (last_filed.depot last.current) there back taken).removes found_releasable calm⟩

/-- An image that is there and to be deleted, in a cloud where not the next call fails but the one after it. -/
def Trial.doomed : List Command :=
  [Trial.add "m", .reconcile (Trial.id "m"), .cloud none (.completeJob "job-1"), .reconcile (Trial.id "m"),
    .requestDeletion (Trial.id "m"), .cloud none (.schedule [none, some (.cloud, "down")])]

/-- Whether an image is to be deleted, of a consistent status and with the finalizer only. -/
def Trial.isReleasable (image : Image) : Bool :=
  image.deletionRequested && image.status.isConsistent &&
    match image.finalizers with
    | [.text name] => name = Image.finalizer
    | _ => false

/-- What a pass over the image of a session in memory has before it, and the status that it hands back. -/
def Trial.outlook (session : Session) : Option (Bool × Bool × Bool × Image.Status × Option Image.Status) :=
  (session.stored? (Trial.id "m")).map fun image =>
    (session.disk.isNone, Trial.isReleasable image, (openScope (session.passOpening image) session).result.isOk,
      image.status, (session.handsBack? image).map (·.status))

theorem Trial.releasable {image : Image} (held : Trial.isReleasable image = true) : Releasable image := by
  simp only [Trial.isReleasable, Bool.and_eq_true] at held
  obtain ⟨⟨requested, consistent⟩, only⟩ := held
  refine ⟨requested, consistent, ?_⟩
  split at only
  · rename_i name same
    rw [same, of_decide_eq_true only]
  · cases only

def Trial.doom : Session := (start Trial.settings).after Trial.doomed

def Trial.spared : Session := Trial.doom.after [.reconcile (Trial.id "m")]

/-- The first pass deletes the image and no more, the second one the job. -/
theorem discarding_resumes_of_doomed :
    ∃ image handed, Trial.doom.stored? (Trial.id "m") = some image ∧ image.deletionRequested = true ∧
      image.status = ⟨true, "image-2", .available, "job-1"⟩ ∧ image.GuardedOnce ∧
      handed.status = ⟨false, "", .available, "job-1"⟩ ∧
      Discarded Trial.doom (Trial.id "m") image handed (reconcile (Trial.id "m") Trial.doom) ∧
      permits (undisturbed (Trial.id "m")) Trial.doom [.reconcile (Trial.id "m")] = true ∧
      (Trial.spared.stored? (Trial.id "m")).isSome = true ∧
      Untroubled (reconcile (Trial.id "m") Trial.spared).notes ∧
      (reconcile (Trial.id "m") Trial.spared).state.stored? (Trial.id "m") = none := by
  have before : Trial.outlook Trial.doom = some (true, true, true, ⟨true, "image-2", .available, "job-1"⟩,
      some ⟨false, "", .available, "job-1"⟩) := by decide +kernel
  have later : Trial.outlook Trial.spared = some (true, true, true, ⟨false, "", .available, "job-1"⟩,
      some ⟨false, "", .available, ""⟩) := by decide +kernel
  have calm : Untroubled (reconcile (Trial.id "m") Trial.spared).notes := by decide +kernel
  have permitted : permits (undisturbed (Trial.id "m")) Trial.doom [.reconcile (Trial.id "m")] = true := rfl
  have ran : Run (undisturbed (Trial.id "m")) Trial.doom _ Trial.spared := Run.rest.after permitted
  have filed : Trial.doom.Filed := after_filed (start_filed Trial.settings) Trial.doomed
  have last_filed : Trial.spared.Filed := after_filed filed _
  obtain ⟨image, stored, shape⟩ := Option.map_eq_some_iff.mp before
  obtain ⟨found, there, found_shape⟩ := Option.map_eq_some_iff.mp later
  simp only [Prod.mk.injEq, Option.map_eq_some_iff] at shape found_shape
  obtain ⟨memory, held, opened, status, handed, back, handed_status⟩ := shape
  obtain ⟨last_memory, -, last_opened, -, -⟩ := found_shape
  have releasable := Trial.releasable held
  obtain ⟨discards, resumes⟩ :=
    @discarding_resumes Trial.settings Trial.doomed (Trial.id "m") image stored releasable.requested
      releasable.consistent releasable.once
  obtain ⟨given, given_back, discarded⟩ := discards opened
  obtain ⟨again, again_back, removes⟩ := resumes releasable.finalizers _ _ found ran there last_opened
  obtain rfl := Option.some.inj (back.symm.trans given_back)
  have taken := persist_of_handsBack (Option.isNone_iff_eq_none.mp memory) filed stored back
  have last_taken := persist_of_handsBack (Option.isNone_iff_eq_none.mp last_memory) last_filed there again_back
  exact ⟨image, handed, stored, releasable.requested, status, releasable.once, handed_status, discarded taken, permitted,
    Option.isSome_of_eq_some there, calm, (removes last_taken calm).2⟩

end Session

end ImageOperator
