import ImageOperator.Proofs.Scope.Advance
import ImageOperator.Proofs.Session.Reconcile
import ImageOperator.Proofs.Session.Run
import ImageOperator.Proofs.Session.Trial

set_option autoImplicit false

namespace ImageOperator.Session

open Pass (Advances Settled)
open Workspace (Alike Imports Named Numbered Reachable)

/-- An object is to be kept and has a status to go on from, and a client of its own workspace serves it. -/
structure Tends (scene : Scene) (key : ObjectKey) (name : String) (image : Image) : Prop where
  known : image.id.key? = some key
  stored : scene.objects.get? key = some image
  kept : image.deletionRequested = false
  sound : image.status.Sound
  served : scene.clientOf image = some name
  own : image.spec.workspace = (scene.workspaces name).instanceId
  named : (scene.workspaces name).Named
  numbered : (scene.workspaces name).Numbered

/-- The object was brought on by a pass, which asked for so many jobs, and nothing else was changed. -/
structure Comes (scene after : Scene) (key : ObjectKey) (name : String) (image : Image) (bench : Bench)
    (asked : Nat) : Prop where
  advances : Advances ⟨image, scene.workspaces name⟩ bench asked
  sound : bench.image.status.Sound
  scene : after = (scene.withWorkspace name bench.workspace).withObjects (scene.objects.put key bench.image)

section

variable {scene after : Scene} {key : ObjectKey} {name : String} {image : Image} {bench : Bench} {asked : Nat}

/-- A pass that nothing stands in the way of is done to its end, and the object is put back. -/
theorem Attends.done {result : Except Fault Pass.Requeue} {notes : List Note}
    (attends : Attends scene image result after notes) (tends : Tends scene key name image)
    (unhindered : ∀ fault, result = .error fault → fault.isInconsistent = true) :
    ∃ requeue bench deeds, result = .ok requeue ∧
      Pass.Normal scene.config ⟨image, scene.workspaces name⟩ ⟨.ok requeue, bench, deeds⟩ ∧
      after = (scene.withWorkspace name bench.workspace).withObjects (scene.objects.put key bench.image) := by
  cases result with
  | error fault =>
    obtain ⟨worked, bench, works, broken, -⟩ := attends.broken tends.served (unhindered fault rfl)
    rw [((works.normal tends.kept).sound tends.named tends.sound).consistent] at broken
    cases broken
  | ok requeue =>
    obtain ⟨bench, made, objects, works, -, persists, rfl⟩ := attends.sound tends.served
    have normal := works.normal tends.kept
    have akin := normal.akin
    have own : bench.image.id.key? = some key := (congrArg ObjectId.key? akin.id).trans tends.known
    have kept : bench.image.deletionRequested = false := akin.deletionRequested.trans tends.kept
    cases persists with
    | removed same held leaving =>
      rw [Depot.leaves, kept] at leaving
      cases leaving
    | written same held staying =>
      obtain rfl := Option.some.inj (own.symm.trans same)
      exact ⟨requeue, bench, made, rfl, normal, rfl⟩

theorem Attends.comes {result : Except Fault Pass.Requeue} {notes : List Note}
    (attends : Attends scene image result after notes) (tends : Tends scene key name image)
    (unhindered : ∀ fault, result = .error fault → fault.isInconsistent = true) :
    (∃ requeue, result = .ok requeue) ∧ ∃ bench asked, Comes scene after key name image bench asked := by
  obtain ⟨requeue, bench, deeds, done, normal, put⟩ := attends.done tends unhindered
  obtain ⟨asked, advances⟩ := normal.advances
  exact ⟨⟨requeue, done⟩, bench, asked, advances, normal.sound tends.named tends.sound, put⟩

theorem Comes.workspace (comes : Comes scene after key name image bench asked) :
    after.workspaces name = bench.workspace := by
  rw [comes.scene, Scene.withObjects_workspaces, Scene.withWorkspace_self]

theorem Comes.workspace_of_ne (comes : Comes scene after key name image bench asked) {other : String}
    (different : other ≠ name) : after.workspaces other = scene.workspaces other := by
  rw [comes.scene, Scene.withObjects_workspaces, Scene.withWorkspace_of_ne scene _ different]

theorem Comes.objects (comes : Comes scene after key name image bench asked) :
    after.objects = scene.objects.put key bench.image := by
  rw [comes.scene, Scene.withObjects_objects]

theorem Comes.tends (comes : Comes scene after key name image bench asked) (tends : Tends scene key name image) :
    Tends after key name bench.image := by
  have akin := comes.advances.akin
  obtain ⟨command, notes, turns⟩ := comes.advances.turns
  have workspace := comes.workspace
  exact {
    known := (congrArg ObjectId.key? akin.id).trans tends.known
    stored := by rw [comes.objects, Catalog.get?_put_self]
    kept := akin.deletionRequested.trans tends.kept
    sound := comes.sound
    served := by
      have served := tends.served
      rw [Scene.clientOf, ← akin.spec] at served
      rw [comes.scene]
      exact served
    own := by rw [workspace, akin.spec, turns.lasting.1, ← tends.own]
    named := workspace ▸ tends.named.turns turns
    numbered := workspace ▸ tends.numbered.turns turns }

/-- So many imports were asked for in one workspace, and the others are as they were. -/
structure Came (name : String) (asked : Nat) (scene after : Scene) : Prop where
  imports : Imports asked (scene.workspaces name) (after.workspaces name)
  others : ∀ other, other ≠ name → after.workspaces other = scene.workspaces other

theorem Comes.came (comes : Comes scene after key name image bench asked) : Came name asked scene after :=
  ⟨comes.workspace ▸ comes.advances.imports, fun _ different => comes.workspace_of_ne different⟩

theorem came_nothing (name : String) (scene : Scene) : Came name 0 scene scene :=
  ⟨Workspace.imports_of_alike (.refl _) (Workspace.asks_nothing rfl), fun _ _ => rfl⟩

theorem Came.trans {last : Scene} {more : Nat} (came : Came name asked scene after)
    (later : Came name more after last) : Came name (asked + more) scene last :=
  ⟨came.imports.trans later.imports, fun other different =>
    (later.others other different).trans (came.others other different)⟩

/-- Nothing but calls that were made tells the scenes apart. -/
structure Rested (scene after : Scene) : Prop where
  objects : after.objects = scene.objects
  workspaces : ∀ other, Alike (scene.workspaces other) (after.workspaces other)

theorem Rested.trans {last : Scene} (rested : Rested scene after) (more : Rested after last) : Rested scene last :=
  ⟨more.objects.trans rested.objects, fun other => (rested.workspaces other).trans (more.workspaces other)⟩

/-- A pass over an object with which nothing is left to do leaves everything as it is. -/
theorem Comes.rested (comes : Comes scene after key name image bench asked) (tends : Tends scene key name image)
    (settled : Settled ⟨image, scene.workspaces name⟩) :
    bench.image = image ∧ Settled ⟨image, after.workspaces name⟩ ∧ asked = 0 ∧ Rested scene after := by
  obtain ⟨kept, alike, none_asked⟩ := comes.advances.rests settled
  have same : bench.image = image := kept
  have again := (comes.advances.settles settled.unseen tends.own tends.named).1
  have settled_after : Settled ⟨bench.image, after.workspaces name⟩ := comes.workspace ▸ again
  refine ⟨same, same ▸ settled_after, none_asked, ?_, fun other => ?_⟩
  · rw [comes.objects, same]
    exact Catalog.put_of_get? tends.stored
  · by_cases own : other = name
    · rw [own, comes.workspace]
      exact alike
    · rw [comes.workspace_of_ne own]
      exact .refl _

end

/-- Nothing stands in the way of a pass: a scope opens, no call fails and the store takes the image. That the status is
not refused in the end is not taken for granted. -/
def Unhindered (id : ObjectId) (session : Session) : Prop :=
  ∀ fault, (reconcile id session).result = .error fault → fault.isInconsistent = true

theorem unhindered_of_isOk {id : ObjectId} {session : Session} (done : (reconcile id session).result.isOk = true) :
    Unhindered id session := by
  intro fault failed
  rw [failed] at done
  cases done

/-- The session after so many passes over an object in a row. -/
def passes (id : ObjectId) : Nat → Session → Session
  | 0, session => session
  | count + 1, session => (step (.reconcile id) (passes id count session)).state

variable {session : Session} {id : ObjectId} {key : ObjectKey} {name : String} {image : Image}

theorem Tends.pass (tends : Tends session.scene key name image) (known : id.key? = some key)
    (unhindered : Unhindered id session) :
    (∃ requeue, (reconcile id session).result = .ok requeue) ∧
      ∃ bench asked, Comes session.scene (step (.reconcile id) session).state.scene key name image bench asked := by
  rw [step_reconcile_state]
  exact (reconcile_attends known tends.stored).comes tends unhindered

theorem Tends.lasts (tends : Tends session.scene key name image) (known : id.key? = some key) {count : Nat}
    (unhindered : ∀ earlier < count, Unhindered id (passes id earlier session)) :
    ∃ last, Tends (passes id count session).scene key name last := by
  induction count with
  | zero => exact ⟨image, tends⟩
  | succ count ih =>
    obtain ⟨last, reached⟩ := ih fun earlier below => unhindered earlier (Nat.lt_succ_of_lt below)
    obtain ⟨-, bench, asked, comes⟩ := reached.pass known (unhindered count (Nat.lt_succ_self count))
    exact ⟨bench.image, comes.tends reached⟩

/-- After two passes nothing is left to do, and at most one of them asked for a job. -/
theorem Tends.settles (tends : Tends session.scene key name image) (known : id.key? = some key)
    (unhindered : ∀ earlier < 2, Unhindered id (passes id earlier session)) :
    ∃ last asked, Tends (passes id 2 session).scene key name last ∧
      Settled ⟨last, (passes id 2 session).scene.workspaces name⟩ ∧ asked ≤ 1 ∧
        Came name asked session.scene (passes id 2 session).scene := by
  obtain ⟨-, first, asked, comes⟩ := tends.pass known (unhindered 0 Nat.two_pos)
  have middle := comes.tends tends
  obtain ⟨-, second, later, comes_again⟩ := middle.pass known (unhindered 1 Nat.one_lt_two)
  have last := comes_again.tends middle
  have came := comes.came.trans comes_again.came
  cases seen : (Bench.mk image (session.scene.workspaces name)).seesFailure with
  | true =>
    -- The first pass only notes the failure, so the second one is the first to look for the image.
    obtain ⟨forgotten, rfl⟩ := comes.advances.forgets seen
    have unseen : (Bench.mk first.image ((passes id 1 session).scene.workspaces name)).seesFailure = false :=
      comes.workspace ▸ forgotten
    obtain ⟨settled, few⟩ := comes_again.advances.settles unseen middle.own middle.named
    exact ⟨second.image, 0 + later, last, comes_again.workspace ▸ settled, by omega, came⟩
  | false =>
    obtain ⟨settled, few⟩ := comes.advances.settles seen tends.own tends.named
    have settled_middle : Settled ⟨first.image, (passes id 1 session).scene.workspaces name⟩ :=
      comes.workspace ▸ settled
    obtain ⟨same, again, rfl, -⟩ := comes_again.rested middle settled_middle
    exact ⟨second.image, asked + 0, last, same ▸ again, by omega, came⟩

/-- Once nothing is left to do, passes change nothing more. -/
theorem Tends.rests (tends : Tends session.scene key name image) (known : id.key? = some key)
    (settled : Settled ⟨image, session.scene.workspaces name⟩) {count : Nat}
    (unhindered : ∀ earlier < count, Unhindered id (passes id earlier session)) :
    Tends (passes id count session).scene key name image ∧
      Settled ⟨image, (passes id count session).scene.workspaces name⟩ ∧
        Came name 0 session.scene (passes id count session).scene ∧
          Rested session.scene (passes id count session).scene := by
  induction count with
  | zero => exact ⟨tends, settled, came_nothing name _, rfl, fun _ => .refl _⟩
  | succ count ih =>
    obtain ⟨reached, still, came, rested⟩ := ih fun earlier below => unhindered earlier (Nat.lt_succ_of_lt below)
    obtain ⟨-, bench, asked, comes⟩ := reached.pass known (unhindered count (Nat.lt_succ_self count))
    obtain ⟨same, again, rfl, rests⟩ := comes.rested reached still
    exact ⟨same ▸ comes.tends reached, again, came.trans comes.came, rested.trans rests⟩

theorem passes_add (id : ObjectId) (first more : Nat) (session : Session) :
    passes id (first + more) session = passes id more (passes id first session) := by
  induction more with
  | zero => rfl
  | succ more ih => rw [← Nat.add_assoc, passes, ih, passes]

theorem tends_of {session : Session} {image : Image} {name : String}
    (stored : session.stored? image.id = some image) (kept : image.deletionRequested = false)
    (consistent : image.status.isConsistent = true)
    (apart : ¬(image.status.phase = .importing ∧ image.status.ready = true))
    (served : session.scene.clientOf image = some name)
    (reached : (session.workspace name).Reachable image.spec.workspace) :
    ∃ key, image.id.key? = some key ∧ Tends session.scene key name image := by
  obtain ⟨key, known, held⟩ := Option.bind_eq_some_iff.mp stored
  have waiting (importing : image.status.phase = .importing) : image.status.ready = false := by
    simpa [importing] using apart
  exact ⟨key, known, known, held, kept, ⟨consistent, waiting⟩, served, reached.instanceId.symm, reached.named,
    reached.numbered⟩

/-- Passes over an object that is to be kept, one after the other with nothing failing and nothing changed in between:
each is done to its end; taken together they ask for one import at most and delete nothing; and from the second on they
leave the objects of the store and the images and jobs of all workspaces as they are. -/
theorem passes_settle {session : Session} {image : Image} {name : String}
    (stored : session.stored? image.id = some image) (kept : image.deletionRequested = false)
    (consistent : image.status.isConsistent = true)
    (apart : ¬(image.status.phase = .importing ∧ image.status.ready = true))
    (served : session.scene.clientOf image = some name)
    (reached : (session.workspace name).Reachable image.spec.workspace) {count : Nat} (enough : 2 ≤ count)
    (unhindered : ∀ earlier < count, Unhindered image.id (passes image.id earlier session)) :
    (∀ earlier < count, ∃ requeue, (reconcile image.id (passes image.id earlier session)).result = .ok requeue) ∧
      (∃ asked ≤ 1, Imports asked (session.workspace name) ((passes image.id count session).workspace name)) ∧
      (∀ other, other ≠ name → (passes image.id count session).workspace other = session.workspace other) ∧
      (passes image.id count session).scene.objects = (passes image.id 2 session).scene.objects ∧
      ∀ other,
        Alike ((passes image.id 2 session).workspace other) ((passes image.id count session).workspace other) := by
  obtain ⟨key, known, tends⟩ := tends_of stored kept consistent apart served reached
  refine ⟨fun earlier below => ?_, ?_⟩
  · obtain ⟨last, reached⟩ := tends.lasts known fun before sooner => unhindered before (Nat.lt_trans sooner below)
    exact (reached.pass known (unhindered earlier below)).1
  · obtain ⟨more, rfl⟩ := Nat.exists_eq_add_of_le enough
    obtain ⟨last, asked, reached, settled, few, came⟩ := tends.settles known fun earlier below =>
      unhindered earlier (Nat.lt_of_lt_of_le below enough)
    have onwards (earlier : Nat) (below : earlier < more) : Unhindered image.id (passes image.id earlier _) :=
      passes_add image.id 2 earlier session ▸ unhindered (2 + earlier) (Nat.add_lt_add_left below 2)
    obtain ⟨-, -, came_later, rested⟩ := reached.rests known settled onwards
    rw [passes_add]
    have whole := came.trans came_later
    exact ⟨⟨asked, few, whole.imports⟩, whole.others, rested.objects, rested.workspaces⟩

/-- An import that failed, which no pass has seen yet. -/
def troubled : List Command :=
  [Trial.add "m", .reconcile (Trial.id "m"), .cloud none (.failJob "job-1" "no such object")]

theorem passes_settle_of_troubled :
    ∃ image, (Trial.first.after troubled).stored? image.id = some image ∧
      image.status = ⟨false, "", .importing, "job-1"⟩ ∧
      ((passes image.id 4 (Trial.first.after troubled)).workspace "w").jobs.map
          (fun record => (record.job.jobId, record.job.state)) = [("job-1", .failed), ("job-2", .queued)] ∧
      (∀ earlier < 4, ∃ requeue,
        (reconcile image.id (passes image.id earlier (Trial.first.after troubled))).result = .ok requeue) ∧
      (∃ asked ≤ 1, Imports asked ((Trial.first.after troubled).workspace "w")
        ((passes image.id 4 (Trial.first.after troubled)).workspace "w")) ∧
      (∀ other, other ≠ "w" →
        (passes image.id 4 (Trial.first.after troubled)).workspace other =
          (Trial.first.after troubled).workspace other) ∧
      (passes image.id 4 (Trial.first.after troubled)).scene.objects =
        (passes image.id 2 (Trial.first.after troubled)).scene.objects ∧
      ∀ other, Alike ((passes image.id 2 (Trial.first.after troubled)).workspace other)
        ((passes image.id 4 (Trial.first.after troubled)).workspace other) := by
  have reached : ((Trial.first.after troubled).workspace "w").Reachable "w" :=
    .jobFailed (.jobCreated (.asked (.listed .start) "w") ⟨.text "m", "b", "r", "o", "tier1", "public"⟩) "job-1"
      "no such object"
  have done : ∀ earlier < 4,
      (reconcile (Trial.id "m") (passes (Trial.id "m") earlier (Trial.first.after troubled))).result.isOk = true := by
    decide +kernel
  have jobs : ((passes (Trial.id "m") 4 (Trial.first.after troubled)).workspace "w").jobs.map
      (fun record => (record.job.jobId, record.job.state)) = [("job-1", .failed), ("job-2", .queued)] := by
    decide +kernel
  have held : ∃ image, (Trial.first.after troubled).stored? (Trial.id "m") = some image ∧ image.id = Trial.id "m" ∧
      image.status = ⟨false, "", .importing, "job-1"⟩ ∧ image.deletionRequested = false ∧ image.spec.workspace = "w" :=
    ⟨_, rfl, rfl, rfl, rfl, rfl⟩
  obtain ⟨image, stored, own, status, kept, workspace⟩ := held
  have served : (Trial.first.after troubled).scene.clientOf image = some "w" := congrArg some workspace
  rw [← own] at stored done jobs
  have unhindered (earlier : Nat) (below : earlier < 4) :
      Unhindered image.id (passes image.id earlier (Trial.first.after troubled)) :=
    unhindered_of_isOk (done earlier below)
  exact ⟨image, stored, status, jobs, passes_settle stored kept (by rw [status]; rfl) (by simp [status]) served
    (workspace ▸ reached) (by decide) unhindered⟩

end ImageOperator.Session
