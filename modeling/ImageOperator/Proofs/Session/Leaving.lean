import ImageOperator.Proofs.Scope.Discard
import ImageOperator.Proofs.Session.Marked
import ImageOperator.Proofs.Session.Mirror
import ImageOperator.Proofs.Session.Taken

set_option autoImplicit false

/-!
Objects on their way out. Once its deletion is asked for an object keeps its mark, whatever passes and requests follow,
and passes over it do nothing but clear what its status names.
-/

namespace ImageOperator

namespace Session

variable {id : ObjectId} {property : Image → Prop} {session : Session} {command : Command}

/-- Routine commands that add nothing in the place of an object. -/
def undisturbed (id : ObjectId) (session : Session) (command : Command) : Bool :=
  command.isRoutine && (session.brings command).all fun image => image.id.key? ≠ id.key?

/-- What holds only of images that are to be deleted, and still of what a pass makes of one that stays. -/
structure Lingers (property : Image → Prop) : Prop where
  requested : ∀ image, property image → image.deletionRequested = true
  deletes : ∀ bench outcome, property bench.image → Pass.Deletes bench outcome →
    Depot.leaves outcome.state.image = false → property outcome.state.image

theorem Lingers.works (lingers : Lingers property) {config : Config} {bench : Bench}
    {outcome : Outcome Bench Pass.Requeue} (works : Pass.Works config bench outcome) (held : property bench.image)
    (staying : Depot.leaves outcome.state.image = false) : property outcome.state.image :=
  lingers.deletes _ _ held (works.deletes (lingers.requested _ held)) staying

theorem step_lingers (lingers : Lingers property) (allowed : undisturbed id session command = true)
    (filed : session.scene.objects.Filed) (held : StoredAs id property session) :
    StoredAs id property (step command session).state := by
  simp only [undisturbed, Bool.and_eq_true] at allowed
  obtain ⟨routine, apart⟩ := allowed
  obtain ⟨after, notes, reached, -, moves⟩ := step_moves routine session
  have objects := congrArg Scene.objects reached
  cases moves with
  | rests | turns turns => exact held.of_same (stored?_of_objects objects id)
  | @adds _ image result _ brought adds =>
    refine held.of_same ?_
    rw [Scene.withObjects_objects] at objects
    simp only [brought, Option.all_some, decide_eq_true_eq] at apart
    cases known : id.key? with
    | none => simp only [stored?, known, Option.bind_none]
    | some key =>
      simp only [stored?, known, Option.bind_some, objects]
      refine adds.get?_of_ne fun own same => ?_
      rintro rfl
      exact apart (same.trans known.symm)
  | marks marks =>
    rw [Scene.withObjects_objects] at objects
    cases marks with
    | unknown | absent => exact held.of_same (stored?_of_objects objects id)
    | @handed key image _ _ known stored persists =>
      refine held.persists (objects ▸ persists) fun own _ _ => ?_
      rw [Image.marked_id] at own
      have still := held.of_key filed stored own
      rw [Image.marked_of_requested (lingers.requested _ still)]
      exact still
  | reconciles told deeds reconciles =>
    cases reconciles with
    | idle other | refused known stored client works broken => exact held.of_same (stored?_of_objects objects id)
    | handed known stored client works sound persists =>
      rw [Scene.withObjects_objects] at objects
      refine held.persists (objects ▸ persists) fun own staying _ => ?_
      exact lingers.works works (held.of_key filed stored (works.twin.id ▸ own)) staying

/-- In a run in which the object is not added anew it keeps such a property at every point. -/
theorem Run.lingers {start last : Session} {history : List (Session × Command)}
    (ran : Run (undisturbed id) start history last) (lingers : Lingers property) (filed : start.Filed)
    (held : StoredAs id property start) :
    Throughout (fun _ session => session.Filed ∧ StoredAs id property session) history last := by
  induction ran with
  | rest => exact ⟨filed, held⟩
  | step ran allowed ih =>
    obtain ⟨still_filed, still⟩ := ih.last
    exact ⟨⟨step_filed _ _ still_filed, step_lingers lingers allowed (still_filed.depot _) still⟩, ih⟩

/-! ### Requests for a deletion -/

theorem step_requestDeletion (id : ObjectId) (session : Session) :
    let asked := Depot.requestDeletion id session.now.iso session.store
    (step (.requestDeletion id) session).state.store = asked.state ∧
      (step (.requestDeletion id) session).result = asked.result.map fun _ => .done := by
  intro asked
  have store := store_inStore (Depot.requestDeletion id session.now.iso) session
  have result : (inStore (Depot.requestDeletion id session.now.iso) session).result = asked.result := rfl
  unfold step
  rw [Attempt.read_then, ← result]
  rcases ran : inStore (Depot.requestDeletion id session.now.iso) session with ⟨fault | _, after, notes⟩
  all_goals rw [ran] at store
  · rw [Attempt.bind_of_error ran]
    exact ⟨store, rfl⟩
  · rw [Attempt.bind_of_ok ran]
    exact ⟨store, rfl⟩

/-- Asking for the deletion of an object without finalizers takes it out, and nothing else. -/
theorem requestDeletion_removes {image : Image} (filed : session.scene.objects.Filed)
    (stored : session.stored? id = some image) (free : image.finalizers = [])
    (unfiled : (Depot.removeDocument image.id session.store).result = .ok ()) :
    (step (.requestDeletion id) session).result = .ok .done ∧
      (step (.requestDeletion id) session).state.scene.objects =
        session.scene.objects.filter (some ·.1 ≠ id.key?) := by
  obtain ⟨key, known, held⟩ := Option.bind_eq_some_iff.mp stored
  obtain ⟨store, result⟩ := step_requestDeletion id session
  have objects : (step (.requestDeletion id) session).state.scene.objects = _ := congrArg Depot.objects store
  rw [result, objects]
  have leaving : Depot.leaves (image.marked session.now.iso) = true := by
    rw [Depot.leaves, image.marked_deletionRequested, image.marked_finalizers, free]
    rfl
  have own : (image.marked session.now.iso).id.key? = some key :=
    image.marked_id _ ▸ filed _ (Catalog.mem_of_get? held)
  have taken : (Depot.persist (image.marked session.now.iso) session.store).result = .ok () := by
    have there : session.store.objects.get? key = some image := held
    rw [Depot.persist_of_held own (Option.isSome_of_eq_some there), Depot.refile_of_leaving leaving, Image.marked_id]
    exact unfiled
  have persists := (Depot.persist_persists (image.marked session.now.iso) session.store).1
  have deletes := Depot.requestDeletion_deletes id session.now.iso session.store
  generalize Depot.requestDeletion id session.now.iso session.store = asked at deletes
  cases deletes with
  | unknown unknown =>
    rw [known] at unknown
    cases unknown
  | @absent other same absent =>
    obtain rfl := Option.some.inj (known.symm.trans same)
    cases held.symm.trans absent
  | @handed other found record same found_there =>
    obtain rfl := Option.some.inj (known.symm.trans same)
    obtain rfl := Option.some.inj (held.symm.trans found_there)
    refine ⟨congrArg (Except.map _) taken, ?_⟩
    dsimp only at persists ⊢
    rw [Attempt.bare_result, taken] at persists
    rw [← Attempt.bare_state, persists.turns own, Depot.turn_of_leaving leaving, known]
    exact List.filter_congr fun entry _ => by simp

variable {mark : Value} {other : ObjectId}

/-- An object that carries its mark and waits for finalizers. -/
def Waits (mark : Value) (image : Image) : Prop :=
  image.deletion = mark ∧ image.finalizers ≠ []

theorem Waits.requested {image : Image} (waits : Waits mark image) (real : mark.isNull = false) :
    image.deletionRequested = true := by
  rw [Image.deletionRequested, waits.1, real]
  rfl

theorem Waits.staying {image : Image} (waits : Waits mark image) : Depot.leaves image = false := by
  simp [Depot.leaves, waits.2]

theorem waits_lingers (real : mark.isNull = false) : Lingers (Waits mark) where
  requested _ waits := waits.requested real
  deletes bench outcome waits deletes staying := by
    have requested := waits.requested real
    refine ⟨?_, fun free => ?_⟩
    · have works : Pass.Works Config.standard bench outcome := .requested requested deletes
      exact works.twin.deletion.trans waits.1
    · simp [Depot.leaves, deletes.akin.deletionRequested, requested, free] at staying

/-- Asking again for the deletion of an object that waits changes nothing. -/
theorem requestDeletion_rests (real : mark.isNull = false) (filed : session.scene.objects.Filed)
    (waits : StoredAs id (Waits mark) session) (own : other.key? = id.key?) :
    (step (.requestDeletion other) session).state.scene.objects = session.scene.objects := by
  obtain ⟨after, notes, reached, -, moves⟩ :=
    step_moves (show (Command.requestDeletion other).isRoutine = true from rfl) session
  rw [reached]
  cases moves with
  | rests => rfl
  | adds brought adds => cases brought
  | marks marks =>
    cases marks with
    | unknown | absent => rfl
    | @handed key image _ _ known stored persists =>
      have same_key : image.id.key? = some key := filed _ (Catalog.mem_of_get? stored)
      have waiting := waits.of_key filed stored (same_key.trans (known.symm.trans own))
      rw [Image.marked_of_requested (waiting.requested real)] at persists
      cases persists with
      | refused store => rfl
      | removed own_key held leaving =>
        rw [waiting.staying] at leaving
        cases leaving
      | written own_key held staying =>
        obtain rfl := Option.some.inj (same_key.symm.trans own_key)
        exact Catalog.put_of_get? stored

/-! ### Passes over objects that wait -/

/-- A pass over an object that is to be deleted calls for nothing but deletes of what its status names. -/
theorem reconcile_calls (requested : StoredAs id (·.deletionRequested = true) session)
    (own : other.key? = id.key?) {workspace : Workspace} {call : Call}
    (noted : .called workspace call ∈ (reconcile other session).notes) :
    ∃ image, session.stored? id = some image ∧ image.status.Holds call := by
  have passes := reconcile_passesOver other session
  rw [← Attempt.mem_bare_notes rfl] at noted
  have calls {key : ObjectKey} {image : Image} {name : String} {result : Except Fault Pass.Requeue} {bench : Bench}
      {notes : List Note} (known : other.key? = some key) (held : session.scene.objects.get? key = some image)
      (works : Pass.Works session.scene.config ⟨image, session.scene.workspaces name⟩ ⟨result, bench, notes⟩)
      (noted : .called workspace call ∈ notes) :
      ∃ image, session.stored? id = some image ∧ image.status.Holds call := by
    have stored : session.stored? id = some image := by
      rw [stored?, ← own, known]
      exact held
    exact ⟨image, stored, (works.deletes (requested image stored)).calls noted⟩
  generalize (reconcile other).bare session = pass at noted passes
  rcases pass with ⟨result, after, notes⟩
  change Reconciles session.scene other result after.scene notes at passes
  generalize after.scene = scene at passes
  cases passes with
  | idle => cases noted
  | refused known stored client works broken => exact calls known stored works noted
  | handed known stored client works sound persists =>
    rcases List.mem_append.mp noted with made | last
    · exact calls known stored works made
    · cases List.mem_singleton.mp last

/-- Nor does it put a finalizer on. -/
theorem reconcile_sublist {image handed : Image} (stored : session.stored? id = some image)
    (requested : image.deletionRequested = true) (own : other.key? = id.key?)
    (noted : .submitted handed ∈ (reconcile other session).notes) :
    handed.finalizers.Sublist image.finalizers := by
  obtain ⟨name, back, hands, back_of⟩ := reconcile_hands other session
  have submitted : handed ∈ (reconcile other session).notes.filterMap Note.submitted? :=
    List.mem_filterMap.mpr ⟨_, noted, rfl⟩
  rw [hands.submitted, Option.mem_toList] at submitted
  obtain ⟨key, found, known, held, passed⟩ := back_of handed submitted
  have same : session.stored? id = some found := by
    rw [stored?, ← own, known]
    exact held
  obtain rfl := Option.some.inj (stored.symm.trans same)
  obtain ⟨name, workspace, result, notes, works, -⟩ := reconcile_answers_of_handsBack known held passed
  exact (works.deletes requested).sublist

/-- An object on its way out: what it is like, and what asking again and passing over it come to. -/
structure Leaving (id : ObjectId) (mark : Value) (session : Session) : Prop where
  /-- While it is stored it carries its mark, and has a finalizer. -/
  waits : ∀ image, session.stored? id = some image → image.deletion = mark ∧ image.finalizers ≠ []
  /-- Asking again changes nothing in the store. -/
  asked : ∀ other, other.key? = id.key? →
    (step (.requestDeletion other) session).state.scene.objects = session.scene.objects
  /-- A pass calls for nothing but deletes of what the status names. -/
  called : ∀ other, other.key? = id.key? → ∀ workspace call, .called workspace call ∈ (reconcile other session).notes →
    ∃ image, session.stored? id = some image ∧ image.status.Holds call
  /-- No pass hands an image back that has another finalizer. -/
  finalizers : ∀ other image handed, other.key? = id.key? → session.stored? id = some image →
    .submitted handed ∈ (reconcile other session).notes → handed.finalizers.Sublist image.finalizers

theorem leaving_of_waits (real : mark.isNull = false) (filed : session.Filed)
    (waits : StoredAs id (Waits mark) session) : Leaving id mark session where
  waits := waits
  asked _ own := requestDeletion_rests real (filed.depot session.current) waits own
  called _ own _ _ noted := reconcile_calls (fun image stored => (waits image stored).requested real) own noted
  finalizers _ image _ own stored noted := reconcile_sublist stored ((waits image stored).requested real) own noted

/-- A deletion that was asked for stays so. An object without finalizers is taken out at once. One that has to wait is
marked, and from then on, as long as it is not added anew, it keeps its mark until it is gone, asking again changes
nothing, and passes over it only delete what its status names. -/
theorem deletion_sticks {settings : Settings} {commands : List Command} {id : ObjectId} {image : Image}
    (stored : ((start settings).after commands).stored? id = some image) :
    let session := (start settings).after commands
    let asked := step (.requestDeletion id) session
    (image.finalizers = [] → (Depot.removeDocument image.id session.store).result = .ok () →
      asked.result = .ok .done ∧
        asked.state.scene.objects = session.scene.objects.filter (some ·.1 ≠ id.key?)) ∧
      (image.finalizers ≠ [] → asked.result = .ok .done →
        asked.state.stored? id = some (image.marked session.now.iso) ∧
          ∀ history last, Run (undisturbed id) asked.state history last →
            Throughout (fun _ => Leaving id (image.marked session.now.iso).deletion) history last) := by
  intro session asked
  have filed : session.Filed := after_filed (start_filed settings) commands
  refine ⟨fun free unfiled => ?_, fun waiting returned => ?_⟩
  · exact requestDeletion_removes (filed.depot session.current) stored free unfiled
  · have written := requestDeletion_leaves stored waiting (filed.depot session.current) returned
    have real : (image.marked session.now.iso).deletion.isNull = false := by
      simpa only [Image.deletionRequested, Bool.not_eq_true'] using image.marked_deletionRequested session.now.iso
    have waits : StoredAs id (Waits (image.marked session.now.iso).deletion) asked.state := by
      intro found there
      obtain rfl := Option.some.inj (written.symm.trans there)
      exact ⟨rfl, image.marked_finalizers session.now.iso ▸ waiting⟩
    have asked_filed : asked.state.Filed := step_filed _ _ filed
    refine ⟨written, fun history last ran => ?_⟩
    exact (ran.lingers (waits_lingers real) asked_filed waits).imp fun _ _ both => leaving_of_waits real both.1 both.2

/-- The image is being imported. -/
def Trial.imported : List Command :=
  [Trial.add "m", .reconcile (Trial.id "m")]

/-- A day later the job cannot be deleted yet, and the deletion is asked for again. -/
def Trial.nagged : List Command :=
  [.setNow ⟨⟨2024, 1, 3⟩, 0, 0, 0, 0, none⟩, Trial.failing .deleteJob, .reconcile (Trial.id "m"),
    .requestDeletion (Trial.id "m"), .reconcile (Trial.id "m")]

theorem deletion_sticks_of_nagged :
    ∃ image after notes, ((start Trial.settings).after Trial.imported).stored? (Trial.id "m") = some image ∧
      step (.requestDeletion (Trial.id "m")) ((start Trial.settings).after Trial.imported) =
        ⟨.ok .done, after, notes⟩ ∧
      permits (undisturbed (Trial.id "m")) after Trial.nagged = true ∧
      (after.after Trial.nagged).now.iso = "2024-01-03T00:00:00" ∧
      ((after.after Trial.nagged).stored? (Trial.id "m")).isSome = true ∧
      Throughout (fun _ => Leaving (Trial.id "m") (.text "2024-01-02T00:00:00")) (after.past [] Trial.nagged)
        (after.after Trial.nagged) := by
  have held : ∃ image, ((start Trial.settings).after Trial.imported).stored? (Trial.id "m") = some image ∧
      image.finalizers = [.text Image.finalizer] ∧ image.deletion = .null := ⟨_, rfl, rfl, rfl⟩
  obtain ⟨image, stored, finalizers, unmarked⟩ := held
  have asked : ∃ after notes, step (.requestDeletion (Trial.id "m")) ((start Trial.settings).after Trial.imported) =
      ⟨.ok .done, after, notes⟩ ∧ permits (undisturbed (Trial.id "m")) after Trial.nagged = true ∧
        (after.after Trial.nagged).now.iso = "2024-01-03T00:00:00" ∧
        ((after.after Trial.nagged).stored? (Trial.id "m")).isSome = true := ⟨_, _, rfl, rfl, rfl, rfl⟩
  obtain ⟨after, notes, returned, permitted, later, there⟩ := asked
  refine ⟨image, after, notes, stored, returned, permitted, later, there, ?_⟩
  have waiting : image.finalizers ≠ [] := by
    rw [finalizers]
    exact List.cons_ne_nil _ _
  have sticks := ((deletion_sticks stored).2 waiting (by rw [returned])).2
  rw [returned] at sticks
  have mark : (image.marked ((start Trial.settings).after Trial.imported).now.iso).deletion =
      .text "2024-01-02T00:00:00" := by
    simp only [Image.marked, Image.deletionRequested, unmarked]
    rfl
  rw [mark] at sticks
  exact sticks _ _ (Run.rest.after permitted)

end Session

end ImageOperator
