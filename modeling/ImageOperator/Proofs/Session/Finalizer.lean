import ImageOperator.Proofs.Scope.Clear
import ImageOperator.Proofs.Session.Run
import ImageOperator.Proofs.Session.Trial

set_option autoImplicit false

namespace ImageOperator

namespace Image

/-- An image under its own key, with the finalizer while its status holds anything. -/
structure Kept (key : ObjectKey) (image : Image) : Prop where
  known : image.id.key? = some key
  guarded : ∀ call, image.status.Holds call → image.isGuarded = true

theorem Kept.marked {key : ObjectKey} {image : Image} (kept : Kept key image) (now : String) :
    Kept key (image.marked now) where
  known := image.marked_id now ▸ kept.known
  guarded := by
    intro call holds
    rw [marked_status] at holds
    rw [isGuarded_of_finalizers (image.marked_finalizers now)]
    exact kept.guarded call holds

end Image

namespace Pass

theorem Works.kept_of {config : Config} {bench : Bench} {outcome : Outcome Bench Requeue} {key : ObjectKey}
    (works : Works config bench outcome) (kept : bench.image.Kept key) : outcome.state.image.Kept key := by
  cases works with
  | kept unmarked normal =>
    exact ⟨normal.akin.id ▸ kept.known, fun _ _ => normal.isGuarded⟩
  | requested marked deletes =>
    refine ⟨deletes.akin.id ▸ kept.known, fun call holds => ?_⟩
    obtain ⟨finalizers, before, held⟩ := deletes.finalizers holds
    rw [Image.isGuarded_of_finalizers finalizers]
    exact kept.guarded before held

end Pass

/-- All objects stand under their keys and are guarded while they hold anything. -/
def Scene.Kept (scene : Scene) : Prop :=
  ∀ entry ∈ scene.objects, entry.2.Kept entry.1

namespace Session

theorem Reconciles.kept {scene after : Scene} {id : ObjectId} {result : Except Fault Pass.Requeue}
    {notes : List Note} (reconciles : Reconciles scene id result after notes) (kept : scene.Kept) : after.Kept := by
  cases reconciles with
  | idle other => exact kept
  | refused known stored client works broken => exact kept
  | handed known stored client works sound persists =>
    have worked := works.kept_of (kept _ (Catalog.mem_of_get? stored))
    refine persists.forall kept fun key own => ?_
    obtain rfl := Option.some.inj (worked.known.symm.trans own)
    exact worked

/-- Routine commands under which images are added under new identifiers, as they are before anything was done about
them. -/
def addsNew (session : Session) (command : Command) : Bool :=
  command.isRoutine && (session.brings command).all fun image =>
    image.status = Image.Status.fresh && image.id.key?.all fun key => (session.scene.objects.get? key).isNone

theorem not_holds_fresh (call : Call) : ¬ Image.Status.fresh.Holds call := by
  intro holds
  cases holds with
  | image named => exact named rfl
  | job named => exact named rfl

theorem step_kept {session : Session} {command : Command} (permitted : addsNew session command = true)
    (kept : session.scene.Kept) : (step command session).state.scene.Kept := by
  simp only [addsNew, Bool.and_eq_true] at permitted
  obtain ⟨routine, new⟩ := permitted
  obtain ⟨after, notes, reached, noted, moves⟩ := step_moves routine session
  rw [reached]
  cases moves with
  | rests => exact kept
  | adds brought adds =>
    rw [brought] at new
    simp only [Option.all_some, Bool.and_eq_true, decide_eq_true_eq] at new
    refine adds.forall kept fun key known => ⟨known, fun call holds => ?_⟩
    rw [new.1] at holds
    exact absurd holds (not_holds_fresh call)
  | marks marks =>
    cases marks with
    | unknown unknown => exact kept
    | absent known absent => exact kept
    | handed known stored persists =>
      have marked := (kept _ (Catalog.mem_of_get? stored)).marked
      refine persists.forall kept fun key own => ?_
      obtain rfl := Option.some.inj ((marked _).known.symm.trans own)
      exact marked _
  | turns turns => exact kept
  | reconciles told deeds reconciles => exact reconciles.kept kept

/-- What a marked object holds after a command: as before, unless the command was a pass over it that cleared it. -/
def HoldsOn (key : ObjectKey) (call : Call) (scene : Scene) : Prop :=
  ∃ image, scene.objects.get? key = some image ∧ image.deletionRequested = true ∧ image.status.Holds call

theorem Reconciles.holdsOn {scene after : Scene} {id : ObjectId} {result : Except Fault Pass.Requeue}
    {notes : List Note} {key : ObjectKey} {call : Call} (reconciles : Reconciles scene id result after notes)
    (kept : scene.Kept) (held : HoldsOn key call scene) :
    HoldsOn key call after ∨ (id.key? = some key ∧ Cleared notes call) := by
  obtain ⟨image, stored, marked, holds⟩ := held
  cases reconciles with
  | idle other => exact .inl ⟨image, stored, marked, holds⟩
  | refused known found client works broken => exact .inl ⟨image, stored, marked, holds⟩
  | @handed own other name result bench notes ending objects known found client works sound persists =>
    have worked := works.kept_of (kept _ (Catalog.mem_of_get? found))
    by_cases same : key = own
    · obtain rfl := same
      obtain rfl := Option.some.inj (stored.symm.trans found)
      cases works with
      | kept unmarked normal =>
        rw [marked] at unmarked
        cases unmarked
      | requested requested deletes =>
        rcases deletes.holds holds with still | cleared
        · refine .inl ?_
          rcases persists.get?_own worked.known with ⟨left, _⟩ | ⟨_, leaving, _⟩ | ⟨put, _⟩
          · exact ⟨image, left.trans stored, marked, holds⟩
          · have unguarded := Image.isGuarded_of_leaves leaving
            rw [worked.guarded call still] at unguarded
            cases unguarded
          · exact ⟨bench.image, put, deletes.akin.deletionRequested.trans marked, still⟩
        · exact .inr ⟨known, cleared.left _⟩
    · exact .inl ⟨image, (persists.get?_of_ne worked.known same).trans stored, marked, holds⟩

theorem Marks.holdsOn {objects after : Catalog} {id : ObjectId} {now : String} {result : Except Fault Unit}
    {notes : List Note} {key : ObjectKey} {image : Image} {call : Call}
    (marks : Depot.Marks objects id now result after notes)
    (kept : ∀ entry ∈ objects, entry.2.Kept entry.1) (stored : objects.get? key = some image)
    (holds : image.status.Holds call) :
    after.get? key = some image ∨ after.get? key = some (image.marked now) := by
  cases marks with
  | unknown unknown => exact .inl stored
  | absent known absent => exact .inl stored
  | @handed own other result after known found persists =>
    have marked := (kept _ (Catalog.mem_of_get? found)).marked now
    by_cases same : key = own
    · obtain rfl := same
      obtain rfl := Option.some.inj (stored.symm.trans found)
      rcases persists.get?_own marked.known with ⟨left, _⟩ | ⟨_, leaving, _⟩ | ⟨put, _⟩
      · exact .inl (left.trans stored)
      · have unguarded := Image.isGuarded_of_leaves leaving
        rw [marked.guarded call (image.marked_status now ▸ holds)] at unguarded
        cases unguarded
      · exact .inr put
    · exact .inl ((persists.get?_of_ne marked.known same).trans stored)

theorem step_holdsOn {session : Session} {command : Command} {key : ObjectKey} {call : Call}
    (permitted : addsNew session command = true) (kept : session.scene.Kept)
    (held : HoldsOn key call session.scene) :
    HoldsOn key call (step command session).state.scene ∨
      ∃ id, command = .reconcile id ∧ id.key? = some key ∧ Cleared (step command session).notes call := by
  simp only [addsNew, Bool.and_eq_true] at permitted
  obtain ⟨routine, new⟩ := permitted
  obtain ⟨after, notes, reached, noted, moves⟩ := step_moves routine session
  rw [reached]
  obtain ⟨image, stored, marked, holds⟩ := held
  cases moves with
  | rests => exact .inl ⟨image, stored, marked, holds⟩
  | adds brought adds =>
    rw [brought] at new
    simp only [Option.all_some, Bool.and_eq_true, decide_eq_true_eq] at new
    refine .inl ⟨image, (adds.get?_of_ne fun own known same => ?_).trans stored, marked, holds⟩
    rw [known, Option.all_some, ← same, stored] at new
    cases new.2
  | marks marks =>
    rcases Marks.holdsOn marks kept stored holds with left | put
    · exact .inl ⟨image, left, marked, holds⟩
    · rw [Image.marked_of_requested marked] at put
      exact .inl ⟨image, put, marked, holds⟩
  | turns turns => exact .inl ⟨image, stored, marked, holds⟩
  | @reconciles id _ _ _ told deeds reconciles =>
    rcases reconciles.holdsOn kept ⟨image, stored, marked, holds⟩ with still | ⟨known, workspace, called, settles⟩
    · exact .inl still
    · rw [← noted] at called
      exact .inr ⟨id, rfl, known, workspace, (Attempt.mem_bare_notes rfl).mp called, settles⟩

/-- An object that holds something and is not marked stays. -/
theorem step_stays {session : Session} {command : Command} {key : ObjectKey} {image : Image} {call : Call}
    (permitted : addsNew session command = true) (kept : session.scene.Kept)
    (stored : session.scene.objects.get? key = some image) (unmarked : image.deletionRequested = false)
    (holds : image.status.Holds call) : (step command session).state.scene.objects.get? key ≠ none := by
  simp only [addsNew, Bool.and_eq_true] at permitted
  obtain ⟨routine, new⟩ := permitted
  obtain ⟨after, notes, reached, noted, moves⟩ := step_moves routine session
  rw [reached]
  have still (objects : Catalog) (same : objects.get? key = some image) : objects.get? key ≠ none := by
    rw [same]
    exact Option.some_ne_none image
  cases moves with
  | rests => exact still _ stored
  | adds brought adds =>
    rw [brought] at new
    simp only [Option.all_some, Bool.and_eq_true, decide_eq_true_eq] at new
    refine still _ ((adds.get?_of_ne fun own known same => ?_).trans stored)
    rw [known, Option.all_some, ← same, stored] at new
    cases new.2
  | marks marks =>
    rcases Marks.holdsOn marks kept stored holds with left | put
    · exact still _ left
    · intro gone
      cases put.symm.trans gone
  | turns turns => exact still _ stored
  | reconciles told deeds reconciles =>
    cases reconciles with
    | idle other => exact still _ stored
    | refused known found client works broken => exact still _ stored
    | @handed own other name result bench notes ending objects known found client works sound persists =>
      have worked := works.kept_of (kept _ (Catalog.mem_of_get? found))
      by_cases same : key = own
      · obtain rfl := same
        obtain rfl := Option.some.inj (stored.symm.trans found)
        cases works with
        | kept _ normal =>
          rcases persists.get?_own worked.known with ⟨left, _⟩ | ⟨_, leaving, _⟩ | ⟨put, _⟩
          · exact still _ (left.trans stored)
          · have unguarded := Image.isGuarded_of_leaves leaving
            rw [normal.isGuarded] at unguarded
            cases unguarded
          · intro gone
            cases put.symm.trans gone
        | requested requested deletes =>
          rw [unmarked] at requested
          cases requested
      · exact still _ ((persists.get?_of_ne worked.known same).trans stored)

/-- Asking for a deletion takes no object out that holds something. -/
theorem requestDeletion_stays {session : Session} {key : ObjectKey} {image : Image} {call : Call}
    (kept : session.scene.Kept) (stored : session.scene.objects.get? key = some image)
    (holds : image.status.Holds call) (id : ObjectId) :
    ∃ after, (step (.requestDeletion id) session).state.scene.objects.get? key = some after ∧
      after.status = image.status := by
  have routine : (Command.requestDeletion id).isRoutine = true := rfl
  obtain ⟨after, notes, reached, noted, moves⟩ := step_moves routine session
  rw [reached]
  cases moves with
  | rests => exact ⟨image, stored, rfl⟩
  | adds brought adds => cases brought
  | marks marks =>
    rcases Marks.holdsOn marks kept stored holds with left | put
    · exact ⟨image, left, rfl⟩
    · exact ⟨_, put, image.marked_status _⟩

theorem start_kept (settings : Settings) : (start settings).scene.Kept := by
  intro entry member
  cases member

/-- Whether one of the steps was a pass over the object, which was marked then, that cleared what a call deletes. -/
def ClearedBy (history : List (Session × Command)) (id : ObjectId) (call : Call) : Prop :=
  ∃ before other, (before, .reconcile other) ∈ history ∧ other.key? = id.key? ∧
    (∃ image, before.stored? id = some image ∧ image.deletionRequested = true) ∧
    Cleared (step (.reconcile other) before).notes call

/-- What an object held when it was marked it holds for the rest of the run, unless it was cleared. -/
theorem Run.holdsOn_or_cleared {middle last : Session} {later : List (Session × Command)} {id : ObjectId}
    {key : ObjectKey} {call : Call} (known : id.key? = some key) (ran : Run addsNew middle later last)
    (kept : middle.scene.Kept) (held : HoldsOn key call middle.scene) :
    HoldsOn key call last.scene ∨ ClearedBy later id call := by
  have stays (session : Session) (command : Command) (permitted : addsNew session command = true)
      (kept : session.scene.Kept) : (Session.step command session).state.scene.Kept :=
    step_kept permitted kept
  induction ran with
  | rest => exact .inl held
  | @step history session command ran allowed ih =>
    rcases ih with still | ⟨before, other, given, same, marked, cleared⟩
    · rcases step_holdsOn allowed (ran.holds kept stays) still with again | ⟨other, rfl, own, cleared⟩
      · exact .inl again
      · obtain ⟨image, stored, marked, holds⟩ := still
        refine .inr ⟨session, other, List.mem_cons_self, own.trans known.symm, ⟨image, ?_, marked⟩, cleared⟩
        simp only [stored?, known, Option.bind_some, stored]
    · exact .inr ⟨before, other, List.mem_cons_of_mem _ given, same, marked, cleared⟩

/-- In every run in which images are added new, an object whose status names an image or a job in the cloud carries the
finalizer. Asking for its deletion does not take it out of the store, nor does anything else before it is marked. Once
it is marked it leaves only after passes over it have deleted each image and job that it named, or found it gone. -/
theorem finalizer_guards {settings : Settings} {earlier : List (Session × Command)} {middle : Session}
    (ran : Run addsNew (start settings) earlier middle) :
    (∀ image ∈ middle.view.objects,
      image.status.imageId ≠ "" ∨ image.status.jobId ≠ "" → image.isGuarded = true) ∧
      ∀ id image, middle.stored? id = some image →
        (image.status.imageId ≠ "" ∨ image.status.jobId ≠ "" →
          (∃ after, (step (.requestDeletion id) middle).state.stored? id = some after ∧ after.status = image.status) ∧
            (image.deletionRequested = false → ∀ command, addsNew middle command = true →
              (step command middle).state.stored? id ≠ none)) ∧
          (image.deletionRequested = true → ∀ later last, Run addsNew middle later last → last.stored? id = none →
            ∀ call, image.status.Holds call → ClearedBy later id call) := by
  have stays (session : Session) (command : Command) (permitted : addsNew session command = true)
      (kept : session.scene.Kept) : (step command session).state.scene.Kept :=
    step_kept permitted kept
  have kept := ran.holds (start_kept settings) stays
  refine ⟨fun image shown named => ?_, fun id image stored => ?_⟩
  · obtain ⟨entry, held, rfl⟩ := List.mem_map.mp shown
    obtain ⟨call, holds⟩ := Image.Status.holds_of_named named
    exact (kept entry held).guarded call holds
  · obtain ⟨key, known, found⟩ := Option.bind_eq_some_iff.mp stored
    have reads (session : Session) : session.stored? id = session.scene.objects.get? key := by
      simp only [stored?, known, Option.bind_some]
    refine ⟨fun named => ?_, fun marked later last onwards gone call holds => ?_⟩
    · obtain ⟨call, holds⟩ := Image.Status.holds_of_named named
      refine ⟨?_, fun unmarked command permitted => ?_⟩
      · rw [reads]
        exact requestDeletion_stays kept found holds id
      · rw [reads]
        exact step_stays permitted kept found unmarked holds
    · rcases onwards.holdsOn_or_cleared known kept ⟨image, found, marked, holds⟩ with ⟨still, left, _⟩ | cleared
      · rw [reads, left] at gone
        cases gone
      · exact cleared

/-- An image that is there and then marked. -/
def arriving : List Command :=
  [Trial.add "m", .reconcile (Trial.id "m"), .cloud none (.completeJob "job-1"), .reconcile (Trial.id "m"),
    .requestDeletion (Trial.id "m")]

/-- A pass that deletes the image but fails to delete the job, which then goes by another hand. -/
def leaving : List Command :=
  [.cloud none (.schedule [none, some (.cloud, "down")]), .reconcile (Trial.id "m"),
    .cloud none (.deleteJob "job-1"), .reconcile (Trial.id "m")]

theorem finalizer_guards_of_leaving :
    permits addsNew Trial.first arriving = true ∧
      permits addsNew (Trial.first.after arriving) leaving = true ∧
      ((Trial.first.after arriving).stored? (Trial.id "m")).map
          (fun image => (image.status, image.deletionRequested)) =
        some (⟨true, "image-2", .available, "job-1"⟩, true) ∧
      ((Trial.first.after arriving).after leaving).stored? (Trial.id "m") = none ∧
      ClearedBy ((Trial.first.after arriving).past [] leaving) (Trial.id "m") (.deleteImage "image-2") ∧
      ClearedBy ((Trial.first.after arriving).past [] leaving) (Trial.id "m") (.deleteJob "job-1") := by
  have before : permits addsNew Trial.first arriving = true := by decide +kernel
  have after : permits addsNew (Trial.first.after arriving) leaving = true := by decide +kernel
  have held : ((Trial.first.after arriving).stored? (Trial.id "m")).map
      (fun image => (image.status, image.deletionRequested)) =
        some (⟨true, "image-2", .available, "job-1"⟩, true) := by decide +kernel
  have gone : ((Trial.first.after arriving).after leaving).stored? (Trial.id "m") = none := by
    refine Option.isNone_iff_eq_none.mp ?_
    decide +kernel
  have ran : Run addsNew (start Trial.settings) (Trial.first.past [] arriving) (Trial.first.after arriving) :=
    Run.rest.after before
  obtain ⟨image, stored, shape⟩ := Option.map_eq_some_iff.mp held
  obtain ⟨status, marked⟩ := Prod.mk.inj shape
  have cleared := ((finalizer_guards ran).2 _ image stored).2 marked _ _ (Run.rest.after after) gone
  refine ⟨before, after, held, gone, cleared _ ?_, cleared _ ?_⟩
  · have holds : image.status.Holds (.deleteImage image.status.imageId) := .image (by rw [status]; decide)
    rw [status] at holds ⊢
    exact holds
  · have holds : image.status.Holds (.deleteJob image.status.jobId) := .job (by rw [status]; decide)
    rw [status] at holds ⊢
    exact holds

end Session

end ImageOperator
