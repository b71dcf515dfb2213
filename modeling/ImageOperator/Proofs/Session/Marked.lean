import ImageOperator.Proofs.Session.Run
import ImageOperator.Proofs.Session.Scopes
import ImageOperator.Proofs.Session.Stored
import ImageOperator.Proofs.Session.Trial

set_option autoImplicit false

/-!
Deletion marks under scopes that work on copies. A scope hands its whole copy back when it is closed, its mark or the
lack of one included. So a mark stays on a stored object exactly as long as no scope is closed that had been opened
before the request and does not know of it.
-/

namespace ImageOperator

namespace Session

/-- As long as the object is stored, it carries the mark. -/
def Marked (id : ObjectId) (mark : Value) (session : Session) : Prop :=
  ∀ image, session.stored? id = some image → image.deletion = mark

/-- One of the scopes that were opened first is closed, and its copy, which is without the mark, takes the place of the
object. -/
inductive Overwrites (id : ObjectId) (mark : Value) (opened : Nat) (session : Session) : Command → Prop
  | closes {name : String} {index : Nat} {scope : Scope} (named : session.scopeNames.lookup name = some index)
      (early : index < opened) (held : session.scopes[index]? = some scope) (unclosed : scope.closed = false)
      (current : scope.depot = session.current) (own : scope.image.id.key? = id.key?)
      (unmarked : scope.image.deletion ≠ mark) (staying : Depot.leaves scope.image = false)
      (done : (step (.scope name .close) session).result = .ok .done) :
      Overwrites id mark opened session (.scope name .close)

/-- What keeps a mark, besides the object that carries it: the copies that were taken since have it too. -/
structure Guards (id : ObjectId) (mark : Value) (opened : Nat) (session : Session) : Prop where
  filed : session.scene.objects.Filed
  enough : opened ≤ session.scopes.length
  copies : ∀ index scope, session.scopes[index]? = some scope → opened ≤ index → scope.image.id.key? = id.key? →
    scope.image.deletion = mark

variable {id : ObjectId} {mark : Value} {opened : Nat} {session after : Session} {command : Command}

theorem Marked.of_objects (marked : Marked id mark session) (same : after.scene.objects = session.scene.objects) :
    Marked id mark after :=
  StoredAs.of_same marked (stored?_of_objects same id)

/-- Writing an image takes the mark away only if it is the object without its mark. -/
theorem Marked.persists {image : Image} {result : Except Fault Unit} (marked : Marked id mark session)
    (persists : Depot.Persists session.scene.objects image result after.scene.objects)
    (new : image.id.key? = id.key? → Depot.leaves image = false → result = .ok () → image.deletion = mark) :
    Marked id mark after :=
  StoredAs.persists marked persists new

/-- The image that is stored under a key of the object carries the mark. -/
theorem Marked.of_key {key : ObjectKey} {image : Image} (marked : Marked id mark session)
    (filed : session.scene.objects.Filed) (stored : session.scene.objects.get? key = some image)
    (own : image.id.key? = id.key?) : image.deletion = mark :=
  StoredAs.of_key marked filed stored own

theorem Shifts.marked (shifts : Shifts session command after) (real : mark.isNull = false)
    (guards : Guards id mark opened session) (marked : Marked id mark session)
    (harmless : ¬ Overwrites id mark opened session command) : Marked id mark after := by
  cases shifts with
  | rests objects | opens objects | touches objects => exact marked.of_objects objects
  | marks marks =>
    generalize reached : after.scene.objects = objects at marks
    cases marks with
    | unknown | absent => exact marked.of_objects reached
    | @handed key image _ _ known stored persists =>
      refine marked.persists (reached ▸ persists) fun own staying done => ?_
      rw [Image.marked_id] at own
      -- A second request finds the mark and leaves it.
      have requested : image.deletionRequested = true := by
        rw [Image.deletionRequested, marked.of_key guards.filed stored own, real]
        rfl
      rw [Image.marked_of_requested requested]
      exact marked.of_key guards.filed stored own
  | passes reconciles =>
    generalize reached : after.scene = scene at reconciles
    cases reconciles with
    | idle => exact marked.of_objects (congrArg Scene.objects reached)
    | refused => exact marked.of_objects (by rw [reached, Scene.withWorkspace_objects])
    | handed known stored client works sound persists =>
      have objects := congrArg Scene.objects reached
      rw [Scene.withObjects_objects] at objects
      refine marked.persists (objects ▸ persists) fun own staying done => ?_
      rw [works.twin.deletion]
      exact marked.of_key guards.filed stored (works.twin.id ▸ own)
  | @hands name index scope result _ named held unclosed current told persists =>
    refine marked.persists persists fun own staying done => ?_
    by_cases early : index < opened
    · refine Classical.byContradiction fun unmarked => harmless ?_
      refine .closes named early held unclosed current own unmarked staying ?_
      rw [told, done]
      rfl
    · exact guards.copies index scope held (Nat.le_of_not_lt early) own

theorem Overwrites.unmarks (overwrites : Overwrites id mark opened session command) (known : id.key?.isSome = true) :
    ¬ Marked id mark (step command session).state := by
  cases overwrites with
  | @closes name index scope named early held unclosed current own unmarked staying done =>
    obtain ⟨result, reached, notes, closing, closes⟩ := closeScope_closes session scope unclosed current
    obtain ⟨told, state⟩ := step_close named held closing
    obtain rfl : result = .ok () := by
      rw [told] at done
      cases result with
      | error fault => cases done
      | ok => rfl
    obtain ⟨key, keyed⟩ := Option.isSome_iff_exists.mp known
    have written : reached.scene.objects.get? key = some scope.image := by
      generalize reached.scene = scene at closes
      cases closes with
      | handed sound persists =>
        rcases persists.get?_own (own.trans keyed) with ⟨-, fault, failed, -⟩ | ⟨-, leaving, -⟩ | ⟨written, -, -⟩
        · cases failed
        · rw [staying] at leaving
          cases leaving
        · exact written
    intro marked
    refine unmarked (marked scope.image ?_)
    rw [state, stored?, keyed]
    exact written

theorem Shifts.filed (shifts : Shifts session command after) (filed : session.scene.objects.Filed) :
    after.scene.objects.Filed := by
  cases shifts with
  | rests objects | opens objects | touches objects => exact fun entry stored => filed entry (objects ▸ stored)
  | marks marks => exact marks.filed filed
  | passes reconciles => exact reconciles.filed filed
  | hands named held unclosed current told persists => exact persists.filed filed

/-- A scope that is worked in, or shut, has a copy with the mark that it had. -/
theorem Guards.set {index : Nat} {scope other : Scope} (guards : Guards id mark opened session)
    (filed : after.scene.objects.Filed) (held : session.scopes[index]? = some scope)
    (twin : Image.Twin scope.image other.image) (scopes : after.scopes = session.scopes.set index other) :
    Guards id mark opened after := by
  refine ⟨filed, by rw [scopes, List.length_set]; exact guards.enough, fun place found there late own => ?_⟩
  rw [scopes, List.getElem?_set] at there
  split at there
  · rename_i same
    split at there
    · obtain rfl := Option.some.inj there
      rw [twin.deletion]
      exact guards.copies index scope held (same ▸ late) (twin.id ▸ own)
    · cases there
  · exact guards.copies place found there late own

theorem Guards.shifts (guards : Guards id mark opened session) (marked : Marked id mark session)
    (shifts : Shifts session command after) : Guards id mark opened after := by
  have filed := shifts.filed guards.filed
  have still (same : after.scopes = session.scopes) : Guards id mark opened after :=
    ⟨filed, same ▸ guards.enough, same ▸ guards.copies⟩
  cases shifts with
  | rests objects scopes | marks marks scopes | passes reconciles scopes => exact still scopes
  | @opens _ asked scope _ objects copied scopes =>
    refine ⟨filed, ?_, fun index found there late own => ?_⟩
    · rw [scopes, List.length_append]
      exact Nat.le_add_right_of_le guards.enough
    · rw [scopes, List.getElem?_append] at there
      split at there
      · exact guards.copies index found there late own
      · obtain rfl := List.mem_singleton.mp (List.mem_of_getElem? there)
        refine marked found.image ?_
        rw [stored?, ← own]
        exact stored?_own guards.filed copied
  | touches objects held twin scopes => exact guards.set filed held twin scopes
  | @hands _ _ scope _ _ named held unclosed current told persists scopes =>
    have shut : Image.Twin scope.image (Scope.image { scope with closed := true }) := ⟨rfl, rfl⟩
    exact guards.set filed held shut scopes

/-- What asking for a deletion leaves of an object that has to wait for its finalizers. -/
theorem requestDeletion_leaves {image : Image} (stored : session.stored? id = some image)
    (waiting : image.finalizers ≠ []) (filed : session.scene.objects.Filed)
    (returned : (step (.requestDeletion id) session).result = .ok .done) :
    (step (.requestDeletion id) session).state.stored? id = some (image.marked session.now.iso) := by
  obtain ⟨key, known, held⟩ := Option.bind_eq_some_iff.mp stored
  have own : image.id.key? = some key := filed _ (Catalog.mem_of_get? held)
  have marks := Depot.requestDeletion_marks id session.now.iso (session.depot session.current)
  rcases ran : (Depot.requestDeletion id session.now.iso).bare (session.depot session.current) with
    ⟨result, depot, notes⟩
  simp only [ran] at marks
  obtain ⟨reached, done, same⟩ := bare_inStore_of ran
  rw [← Attempt.bare_result] at returned
  rw [← Attempt.bare_state]
  unfold step at returned ⊢
  rw [Attempt.bare_bind, Attempt.bare_read, Attempt.read_then, Attempt.bare_bind] at returned ⊢
  cases result with
  | error fault =>
    rw [Attempt.bind_of_error done] at returned
    cases returned
  | ok =>
    rw [Attempt.bind_of_ok done]
    change reached.stored? id = _
    rw [stored?, known, Option.bind_some, same, Scene.withObjects_objects]
    generalize depot.objects = objects at marks
    cases marks with
    | @handed other found _ _ same_key found_there persists =>
      obtain rfl := Option.some.inj (known.symm.trans same_key)
      obtain rfl := Option.some.inj (held.symm.trans found_there)
      rcases persists.get?_own ((image.marked_id _).symm ▸ own) with
        ⟨-, fault, failed, -⟩ | ⟨-, leaving, -⟩ | ⟨written, -, -⟩
      · cases failed
      · simp [Depot.leaves, waiting] at leaving
      · exact written

theorem marked_hinges (known : id.key?.isSome = true) (real : mark.isNull = false) (filed : session.scene.objects.Filed)
    (first : Marked id mark session) :
    Hinges worksInScopes session (fun _ => Guards id mark session.scopes.length) (fun _ => Marked id mark)
      (Overwrites id mark session.scopes.length) where
  sound := by
    refine ⟨filed, Nat.le_refl _, fun index scope there late own => ?_⟩
    rw [List.getElem?_eq_none late] at there
    cases there
  first := first
  lasts _ _ _ permitted guards marked := guards.shifts marked (step_shifts permitted)
  turns _ _ _ permitted guards marked :=
    ⟨fun still breaks => breaks.unmarks known still, (step_shifts permitted).marked real guards marked⟩

/-- A deletion request marks the object, and from then on the object carries the mark at every point until it is gone
exactly if no scope that had been opened before the request, with a copy that is without the mark, hands that copy
back. -/
theorem mark_stays_iff {image : Image} {notes : List Note} (filed : session.scene.objects.Filed)
    (stored : session.stored? id = some image) (waiting : image.finalizers ≠ [])
    (returned : step (.requestDeletion id) session = ⟨.ok .done, after, notes⟩) :
    let mark := (image.marked session.now.iso).deletion
    after.stored? id = some (image.marked session.now.iso) ∧ mark.isNull = false ∧
      ∀ history last, Run worksInScopes after history last →
        (Throughout (fun _ => Marked id mark) history last ↔
          ∀ before command, (before, command) ∈ history →
            ¬ Overwrites id mark after.scopes.length before command) := by
  intro mark
  have answered : (step (.requestDeletion id) session).result = .ok .done := by rw [returned]
  have reached : (step (.requestDeletion id) session).state = after := by rw [returned]
  have written := reached ▸ requestDeletion_leaves stored waiting filed answered
  have real : mark.isNull = false := by
    simpa only [Image.deletionRequested, Bool.not_eq_true'] using image.marked_deletionRequested session.now.iso
  have known : id.key?.isSome = true := by
    obtain ⟨key, known, -⟩ := Option.bind_eq_some_iff.mp stored
    rw [known]
    rfl
  have first : Marked id mark after := by
    intro found stored
    obtain rfl := Option.some.inj (written.symm.trans stored)
    rfl
  have refiled : after.scene.objects.Filed := reached ▸ (step_shifts rfl).filed filed
  exact ⟨written, real, fun history last ran => (marked_hinges known real refiled first).throughout_iff ran⟩

/-- Opens a scope on the stored image. -/
def copying (scope : String) : Command :=
  .open ⟨scope, .stored (Trial.id "m"), true, false, none, none⟩

/-- The image has its finalizer, and a scope is open on it. -/
def copied : List Command :=
  [Trial.add "m", .reconcile (Trial.id "m"), copying "early"]

/-- Another scope is opened, worked in and closed. -/
def again : List Command :=
  [copying "late", .scope "late" .ensureImage, .scope "late" .close]

theorem mark_stays_iff_of_later_copy :
    ∃ image after notes, (Trial.first.after copied).stored? (Trial.id "m") = some image ∧ image.finalizers ≠ [] ∧
      step (.requestDeletion (Trial.id "m")) (Trial.first.after copied) = ⟨.ok .done, after, notes⟩ ∧
      after.scopes.length = 1 ∧ permits worksInScopes after again = true ∧
      Throughout (fun _ => Marked (Trial.id "m") (.text "2024-01-02T00:00:00")) (after.past [] again)
        (after.after again) := by
  have filed : (Trial.first.after copied).scene.objects.Filed := by
    unfold Catalog.Filed
    decide +kernel
  have held : ∃ image, (Trial.first.after copied).stored? (Trial.id "m") = some image ∧
      image.finalizers = [.text Image.finalizer] ∧ image.deletion = .null := ⟨_, rfl, rfl, rfl⟩
  obtain ⟨image, stored, finalizers, unmarked⟩ := held
  have waiting : image.finalizers ≠ [] := by
    rw [finalizers]
    exact List.cons_ne_nil _ _
  have asked : ∃ after notes, step (.requestDeletion (Trial.id "m")) (Trial.first.after copied) =
      ⟨.ok .done, after, notes⟩ ∧ after.scopes.length = 1 ∧ permits worksInScopes after again = true ∧
        ∀ entry ∈ after.past [] again, ∀ name, entry.2 = .scope name .close →
          entry.1.scopeNames.lookup name = some 1 := by
    refine ⟨_, _, rfl, rfl, rfl, fun entry given name closing => ?_⟩
    simp only [again, past, List.mem_cons, List.not_mem_nil, or_false] at given
    rcases given with rfl | rfl | rfl <;> cases closing
    rfl
  obtain ⟨after, notes, returned, early, permitted, late⟩ := asked
  refine ⟨image, after, notes, stored, waiting, returned, early, permitted, ?_⟩
  have mark : (image.marked (Trial.first.after copied).now.iso).deletion = .text "2024-01-02T00:00:00" := by
    simp only [Image.marked, Image.deletionRequested, unmarked]
    rfl
  rw [← mark]
  refine ((mark_stays_iff filed stored waiting returned).2.2 _ _ (Run.rest.after permitted)).mpr ?_
  intro before command given overwrites
  cases overwrites with
  | closes named below =>
    obtain rfl := Option.some.inj ((late _ given _ rfl).symm.trans named)
    omega

/-- The scope that was open already is closed. -/
theorem mark_lost_to_earlier_copy :
    ∃ image after notes, (Trial.first.after copied).stored? (Trial.id "m") = some image ∧ image.finalizers ≠ [] ∧
      step (.requestDeletion (Trial.id "m")) (Trial.first.after copied) = ⟨.ok .done, after, notes⟩ ∧
      (after.stored? (Trial.id "m")).map (·.deletionRequested) = some true ∧
      Run worksInScopes after (after.past [] [.scope "early" .close]) (after.after [.scope "early" .close]) ∧
      ((after.after [.scope "early" .close]).stored? (Trial.id "m")).map (·.deletionRequested) = some false := by
  exact ⟨_, _, _, rfl, List.cons_ne_nil _ _, rfl, rfl, Run.rest.after rfl, rfl⟩

end Session

end ImageOperator
