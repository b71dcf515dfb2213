import ImageOperator.Proofs.Cloud.Reachable
import ImageOperator.Proofs.Scope.Follow
import ImageOperator.Proofs.Scope.Identify
import ImageOperator.Proofs.Session.PhaseTable
import ImageOperator.Proofs.Session.Stored

set_option autoImplicit false

/-!
Objects that share a workspace and the jobs that their statuses name. A client tells of the latest job of its workspace,
whichever object it was submitted for, and a pass that finds it running takes it up when its own status names none that
is on its way. As long as that does not happen with the job of another name, objects act on their own jobs only.
-/

namespace ImageOperator

open Bench (importRequest)
open Workspace (jobIdOf)

namespace Workspace

/-- How a workspace comes by its jobs in a step: it had them before, or one was issued under the next number, for the
given request. -/
structure Issues (issued : Option ImportRequest) (before after : Workspace) : Prop where
  serial : before.serial ≤ after.serial
  jobs : ∀ record ∈ after.jobs,
    (∃ old ∈ before.jobs, record.job.jobId = old.job.jobId ∧ record.request = old.request) ∨
      record.job.jobId = jobIdOf (before.serial + 1) ∧ issued = some record.request ∧ before.serial < after.serial

theorem issues_of_left {before after : Workspace} (serial : after.serial = before.serial)
    (left : ∀ record ∈ after.jobs, record ∈ before.jobs) : Issues none before after where
  serial := Nat.le_of_eq serial.symm
  jobs := fun record held => .inl ⟨record, left record held, rfl, rfl⟩

theorem Turns.issues {before after : Workspace} {command : CloudCommand} {notes : List Note}
    (turns : Turns before command after notes) (other : ∀ value, command ≠ .createJob value) :
    Issues none before after := by
  refine ⟨turns.lasting.2, fun record held => ?_⟩
  rcases turns.jobs held with old | ⟨-, -, value, created⟩
  · exact .inl old
  · exact absurd created (other value)

end Workspace

open Workspace (Issues)

theorem Pass.Follows.issues {bench after : Bench} (follows : Pass.Follows bench after) :
    ∃ issued, Issues issued bench.workspace after.workspace := by
  cases follows with
  | keeps same spares => exact ⟨none, Workspace.issues_of_left spares.serial spares.left⟩
  | submits own alike =>
    refine ⟨some (importRequest bench.image), alike.serial ▸ Nat.le_succ _, fun record held => ?_⟩
    rw [alike.jobs] at held
    rcases List.mem_append.mp held with old | new
    · exact .inl ⟨record, old, rfl, rfl⟩
    · obtain rfl := List.mem_singleton.mp new
      exact .inr ⟨rfl, rfl, alike.serial ▸ Nat.lt_succ_self _⟩
  | adopts kept unlisted idle last running taken alike =>
    exact ⟨none, Workspace.issues_of_left alike.serial fun record held => alike.jobs ▸ held⟩

namespace Session

/-- A workspace has a job of an identifier that was submitted with a request. -/
def Holds (name jobId : String) (request : ImportRequest) (session : Session) : Prop :=
  ∃ record ∈ (session.workspace name).jobs, record.job.jobId = jobId ∧ record.request = request

/-- It has such a job, or had it earlier. -/
def Issued (name jobId : String) (request : ImportRequest) (history : List (Session × Command)) (session : Session) :
    Prop :=
  Holds name jobId request session ∨ ∃ before command, (before, command) ∈ history ∧ Holds name jobId request before

/-- The job that the status of an image names, if it names one, was submitted with the name of the image. -/
def Owns (name : String) (history : List (Session × Command)) (session : Session) (image : Image) : Prop :=
  image.status.jobId ≠ "" →
    ∃ request, Issued name image.status.jobId request history session ∧ request.imageName = image.name

/-- The statuses of stored objects name no jobs but their own. -/
def NamesOwn (history : List (Session × Command)) (session : Session) : Prop :=
  ∀ id image name, session.stored? id = some image → session.scene.clientOf image = some name →
    Owns name history session image

/-- A pass over an object takes up a job that was submitted with another name: nothing of the object's name is listed,
the status names no job that is on its way, and the latest job of the workspace is running. -/
inductive Borrows (session : Session) : Command → Prop
  | adopts {id : ObjectId} {image after : Image} {name : String} {record : JobRecord}
      (stored : session.stored? id = some image) (kept : image.deletionRequested = false)
      (served : session.scene.clientOf image = some name)
      (unlisted : Bench.match? ⟨image, session.workspace name⟩ = none) (idle : Pass.tracks image = false)
      (last : (session.workspace name).jobs.getLast? = some record) (running : record.job.state.isTerminal = false)
      (other : record.request.imageName ≠ image.name)
      (written : (step (.reconcile id) session).state.stored? id = some after)
      (taken : after.status.jobId = record.job.jobId) : Borrows session (.reconcile id)

/-- Routine commands under which images are added as they are before anything was done about them, and jobs are
submitted by passes only. -/
def importsByPasses (session : Session) (command : Command) : Bool :=
  addsFresh session command &&
    match command with
    | .cloud _ (.createJob _) => false
    | _ => true

/-- What is known of all jobs that were issued: they took their identifiers from the counter, each for itself. -/
structure Accounted (history : List (Session × Command)) (session : Session) : Prop where
  filed : session.scene.objects.Filed
  numbered : ∀ name jobId request, Issued name jobId request history session →
    ∃ serial ≤ (session.workspace name).serial, jobId = jobIdOf serial
  single : ∀ name jobId first second, Issued name jobId first history session →
    Issued name jobId second history session → first = second

/-- What a pass comes to for an object that it finds: the bench that it ends with, and what the store has of it. -/
structure Treats (session : Session) (image : Image) (name : String) (bench : Bench) (after : Session) : Prop where
  follows : Pass.Follows ⟨image, session.workspace name⟩ bench
  identifies : Pass.Identifies ⟨image, session.workspace name⟩ bench
  akin : Image.Akin image bench.image
  blames : bench.image.status.phase = .failed → image.status.phase ≠ .failed →
    Bench.seesFailure ⟨image, session.workspace name⟩ = true
  workspaces : after.workspace = (session.scene.withWorkspace name bench.workspace).workspaces
  stored : ∀ other, after.stored? other = session.stored? other ∨ after.stored? other = none ∨
    bench.image.id.key? = other.key? ∧ after.stored? other = some bench.image

variable {id : ObjectId} {session after : Session} {command : Command} {history : List (Session × Command)}

theorem Reconciles.treats {result : Except Fault Pass.Requeue} {notes : List Note}
    (reconciles : Reconciles session.scene id result after.scene notes) :
    after.scene = session.scene ∨
      ∃ image name bench, session.stored? id = some image ∧ session.scene.clientOf image = some name ∧
        Treats session image name bench after := by
  have found {key : ObjectKey} {image : Image} (known : id.key? = some key)
      (stored : session.scene.objects.get? key = some image) : session.stored? id = some image := by
    rw [stored?, known]
    exact stored
  generalize reached : after.scene = scene at reconciles
  cases reconciles with
  | idle other => exact .inl rfl
  | @refused _ image name _ bench _ known stored served works broken =>
    refine .inr ⟨image, name, bench, found known stored, served, works.follows, works.identifies, works.akin,
      works.seesFailure, congrArg Scene.workspaces reached, fun other => .inl ?_⟩
    exact stored?_of_objects (by rw [reached, Scene.withWorkspace_objects]) other
  | @handed _ image name _ bench _ _ _ known stored served works sound persists =>
    refine .inr ⟨image, name, bench, found known stored, served, works.follows, works.identifies, works.akin,
      works.seesFailure, congrArg Scene.workspaces reached, fun other => ?_⟩
    have objects := congrArg Scene.objects reached
    rw [Scene.withObjects_objects] at objects
    rcases stored?_of_persists (objects ▸ persists) other with same | gone | ⟨own, written, -⟩
    · exact .inl same
    · exact .inr (.inl gone)
    · exact .inr (.inr ⟨own, written⟩)

theorem step_treats (id : ObjectId) (session : Session) :
    (step (.reconcile id) session).state.scene = session.scene ∨
      ∃ image name bench, session.stored? id = some image ∧ session.scene.clientOf image = some name ∧
        Treats session image name bench (step (.reconcile id) session).state := by
  rw [step_reconcile_state]
  exact Reconciles.treats (reconcile_passesOver id session)

/-- A pass leaves an object, where it leaves it, the object that it was. -/
theorem step_akin {image found : Image} (stored : session.stored? id = some image)
    (written : (step (.reconcile id) session).state.stored? id = some found) : Image.Akin image found := by
  have same (still : (step (.reconcile id) session).state.stored? id = session.stored? id) :
      Image.Akin image found := by
    obtain rfl := Option.some.inj (stored.symm.trans (still.symm.trans written))
    exact ⟨rfl, rfl, rfl⟩
  rcases step_treats id session with still | ⟨other, name, bench, there, -, treats⟩
  · exact same (stored?_of_objects (congrArg Scene.objects still) id)
  · obtain rfl := Option.some.inj (stored.symm.trans there)
    rcases treats.stored id with still | gone | ⟨-, new⟩
    · exact same still
    · rw [gone] at written
      cases written
    · obtain rfl := Option.some.inj (new.symm.trans written)
      exact treats.akin

theorem clientOf_of_akin {scene : Scene} {before after : Image} (akin : Image.Akin before after) :
    scene.clientOf after = scene.clientOf before := by
  simp only [Scene.clientOf, akin.spec]

theorem routine_of_importsByPasses (permitted : importsByPasses session command = true) :
    command.isRoutine = true := by
  simp only [importsByPasses, addsFresh, Bool.and_eq_true] at permitted
  exact permitted.1.1

theorem Issued.later {name jobId : String} {request : ImportRequest}
    (issued : Issued name jobId request history session) :
    Issued name jobId request ((session, command) :: history) after := by
  rcases issued with held | ⟨before, earlier, given, held⟩
  · exact .inr ⟨session, command, List.mem_cons_self, held⟩
  · exact .inr ⟨before, earlier, List.mem_cons_of_mem _ given, held⟩

theorem issues_withWorkspace {scene : Scene} {name : String} {workspace : Workspace}
    (new : ∃ issued, Issues issued (scene.workspaces name) workspace) (other : String) :
    ∃ issued, Issues issued (scene.workspaces other) ((scene.withWorkspace name workspace).workspaces other) := by
  by_cases same : other = name
  · rw [same, Scene.withWorkspace_self]
    exact new
  · rw [Scene.withWorkspace_of_ne scene workspace same]
    exact ⟨none, Workspace.issues_of_left rfl fun _ held => held⟩

/-- In every step each workspace comes by at most one job. -/
theorem step_issues (permitted : importsByPasses session command = true) (name : String) :
    ∃ issued, Issues issued (session.workspace name) ((step command session).state.workspace name) := by
  have still : ∃ issued, Issues issued (session.workspace name) (session.workspace name) :=
    ⟨none, Workspace.issues_of_left rfl fun _ held => held⟩
  obtain ⟨after, notes, reached, noted, moves⟩ := step_moves (routine_of_importsByPasses permitted) session
  rw [← scene_workspaces (step command session).state, reached]
  cases moves with
  | rests | adds brought adds | marks marks => exact still
  | @turns place order workspace _ turns =>
    refine @issues_withWorkspace session.scene _ _ ⟨none, turns.issues fun value created => ?_⟩ name
    rw [created] at permitted
    simp [importsByPasses] at permitted
  | @reconciles id _ _ _ told deeds reconciles =>
    rw [← reached]
    rcases step_treats id session with same | ⟨image, own, bench, -, -, treats⟩
    · rw [same]
      exact still
    · rw [scene_workspaces, treats.workspaces]
      exact @issues_withWorkspace session.scene _ _ treats.follows.issues name

/-- What is issued by the end of a step was issued before it, or in it. -/
theorem Issued.cases {name jobId : String} {request : ImportRequest} {issued : Option ImportRequest}
    (known : Issued name jobId request ((session, command) :: history) after)
    (issues : Issues issued (session.workspace name) (after.workspace name)) :
    Issued name jobId request history session ∨
      jobId = jobIdOf ((session.workspace name).serial + 1) ∧ issued = some request ∧
        (session.workspace name).serial < (after.workspace name).serial := by
  rcases known with ⟨record, held, rfl, rfl⟩ | ⟨before, earlier, given, held⟩
  · rcases issues.jobs record held with ⟨old, member, sameId, sameRequest⟩ | fresh
    · exact .inl (.inl ⟨old, member, sameId.symm, sameRequest.symm⟩)
    · exact .inr fresh
  · rcases List.mem_cons.mp given with latest | given
    · obtain ⟨rfl, rfl⟩ := Prod.mk.inj latest
      exact .inl (.inl held)
    · exact .inl (.inr ⟨before, earlier, given, held⟩)

theorem Accounted.next (accounted : Accounted history session) (permitted : importsByPasses session command = true) :
    Accounted ((session, command) :: history) (step command session).state := by
  obtain ⟨after, notes, reached, noted, moves⟩ := step_moves (routine_of_importsByPasses permitted) session
  refine ⟨reached ▸ moves.filed accounted.filed, fun name jobId request known => ?_,
    fun name jobId first second one other => ?_⟩
  · obtain ⟨issued, issues⟩ := step_issues permitted name
    rcases known.cases issues with known | ⟨fresh, -, grown⟩
    · obtain ⟨serial, given, numbered⟩ := accounted.numbered name jobId request known
      exact ⟨serial, Nat.le_trans given issues.serial, numbered⟩
    · exact ⟨_, grown, fresh⟩
  · obtain ⟨issued, issues⟩ := step_issues permitted name
    -- The counter has not come to the next number yet, so nothing that was issued has it.
    have apart {request : ImportRequest} (known : Issued name jobId request history session)
        (fresh : jobId = jobIdOf ((session.workspace name).serial + 1)) : False := by
      obtain ⟨serial, given, numbered⟩ := accounted.numbered name jobId request known
      have same := Workspace.jobIdOf_injective (numbered.symm.trans fresh)
      omega
    rcases one.cases issues with one | ⟨fresh, made, -⟩ <;> rcases other.cases issues with other | ⟨fresh', made', -⟩
    · exact accounted.single name jobId first second one other
    · exact (apart one fresh').elim
    · exact (apart other fresh).elim
    · exact Option.some.inj (made.symm.trans made')

/-- Every identifier that was issued is one. -/
theorem Accounted.named {name jobId : String} {request : ImportRequest} (accounted : Accounted history session)
    (known : Issued name jobId request history session) : jobId ≠ "" := by
  obtain ⟨serial, -, rfl⟩ := accounted.numbered name jobId request known
  exact Workspace.jobIdOf_ne serial

/-- A pass has an image name its own job still, unless it takes up one that was submitted with another name. -/
theorem Treats.owns {image : Image} {name : String} {bench : Bench} (treats : Treats session image name bench after)
    (own : Owns name history session image)
    (lent : ∀ record, image.deletionRequested = false → Bench.match? ⟨image, session.workspace name⟩ = none →
      Pass.tracks image = false → (session.workspace name).jobs.getLast? = some record →
      record.job.state.isTerminal = false → bench.image.status.jobId = record.job.jobId →
      record.request.imageName = image.name) :
    Owns name ((session, command) :: history) after bench.image := by
  intro named
  have title : bench.image.name = image.name := congrArg ObjectId.name treats.akin.id
  have reaches : after.workspace name = bench.workspace := by
    rw [treats.workspaces, Scene.withWorkspace_self]
  cases treats.follows with
  | keeps same spares =>
    rcases same with same | blank
    · obtain ⟨request, issued, submitted⟩ := own (same ▸ named)
      exact ⟨request, same.symm ▸ issued.later, submitted.trans title.symm⟩
    · exact absurd blank named
  | submits issued alike =>
    refine ⟨importRequest image, .inl ⟨⟨⟨_, .queued, none⟩, importRequest image⟩, ?_, issued.symm, rfl⟩, title.symm⟩
    rw [reaches, alike.jobs]
    exact List.mem_append_right _ List.mem_cons_self
  | @adopts record kept unlisted idle last running taken alike =>
    have held : Holds name bench.image.status.jobId record.request session :=
      ⟨record, List.mem_of_getLast? last, taken.symm, rfl⟩
    have submitted := lent record kept unlisted idle last running taken
    exact ⟨record.request, Issued.later (.inl held), submitted.trans title.symm⟩

theorem Owns.later {image old : Image} {name : String} (own : Owns name history session old)
    (title : image.name = old.name) (status : image.status = old.status) :
    Owns name ((session, command) :: history) after image := by
  intro named
  obtain ⟨request, issued, submitted⟩ := own (status ▸ named)
  exact ⟨request, status ▸ issued.later, submitted.trans title.symm⟩

theorem NamesOwn.next (own : NamesOwn history session) (accounted : Accounted history session)
    (permitted : importsByPasses session command = true) (harmless : ¬ Borrows session command) :
    NamesOwn ((session, command) :: history) (step command session).state := by
  obtain ⟨after, notes, reached, noted, moves⟩ := step_moves (routine_of_importsByPasses permitted) session
  intro id image name stored served
  rw [reached, moves.clientOf] at served
  have kept (still : (step command session).state.stored? id = session.stored? id) :
      Owns name ((session, command) :: history) (step command session).state image :=
    (own id image name (still ▸ stored) served).later rfl rfl
  have objects := congrArg Scene.objects reached
  cases moves with
  | rests | turns turns => exact kept (stored?_of_objects objects id)
  | @adds _ added _ _ brought adds =>
    rw [Scene.withObjects_objects] at objects
    rcases stored?_of_adds (objects ▸ adds) id with still | new
    · exact kept still
    · obtain rfl := Option.some.inj (new.symm.trans stored)
      simp only [importsByPasses, addsFresh, brought, Option.all_some, Bool.and_eq_true, decide_eq_true_eq] at permitted
      intro named
      rw [permitted.1.2] at named
      exact absurd rfl named
  | @marks asked now _ _ _ marks =>
    rw [Scene.withObjects_objects] at objects
    cases marks with
    | unknown unknown | absent known absent => exact kept (stored?_of_objects objects id)
    | @handed key old _ _ known there persists =>
      rcases stored?_of_persists (objects ▸ persists) id with still | gone | ⟨-, new, -⟩
      · exact kept still
      · rw [gone] at stored
        cases stored
      · obtain rfl := Option.some.inj (new.symm.trans stored)
        have found : session.stored? asked = some old := by
          rw [stored?, known]
          exact there
        have serves : session.scene.clientOf old = some name := by
          simpa only [Scene.clientOf, Image.marked_spec] using served
        have title : (old.marked now).name = old.name := congrArg ObjectId.name (old.marked_id now)
        exact (own asked old name found serves).later title (old.marked_status now)
  | @reconciles passed _ _ _ told deeds reconciles =>
    rcases step_treats passed session with same | ⟨old, place, bench, found, client, treats⟩
    · exact kept (stored?_of_objects (congrArg Scene.objects same) id)
    · rcases treats.stored id with still | gone | ⟨own_key, new⟩
      · exact kept still
      · rw [gone] at stored
        cases stored
      · obtain rfl := Option.some.inj (new.symm.trans stored)
        obtain rfl : place = name := by
          rw [clientOf_of_akin treats.akin] at served
          exact Option.some.inj (client.symm.trans served)
        -- Only a pass over the object itself is looked at from here on, so taking up another's job is borrowing.
        refine treats.owns (own passed old place found client) ?_
        intro record unmarked unlisted idle last running taken
        refine Classical.byContradiction fun other => harmless ?_
        refine .adopts found unmarked client unlisted idle last running other ?_ taken
        rw [← new]
        refine stored?_of_key ?_
        rw [← own_key, treats.akin.id, key?_of_stored accounted.filed found]

/-- A job of another name that was taken up is not the object's own. -/
theorem Borrows.disowns (borrows : Borrows session command) (accounted : Accounted history session)
    (permitted : importsByPasses session command = true) :
    ¬ NamesOwn ((session, command) :: history) (step command session).state := by
  intro own
  have later := accounted.next permitted
  obtain ⟨after, notes, reached, noted, moves⟩ := step_moves (routine_of_importsByPasses permitted) session
  cases borrows with
  | @adopts id image found name record stored kept served unlisted idle last running other written taken =>
    have held : Issued name found.status.jobId record.request ((session, .reconcile id) :: history)
        (step (.reconcile id) session).state :=
      Issued.later (.inl ⟨record, List.mem_of_getLast? last, taken.symm, rfl⟩)
    have akin := step_akin stored written
    have serves : (step (.reconcile id) session).state.scene.clientOf found = some name := by
      rw [reached, moves.clientOf, clientOf_of_akin akin, served]
    obtain ⟨request, issued, submitted⟩ := own id found name written serves (later.named held)
    have same := later.single _ _ _ _ held issued
    exact other (same ▸ submitted.trans (congrArg ObjectId.name akin.id))

theorem start_accounted (settings : Settings) : Accounted [] (start settings) := by
  have nothing {name jobId : String} {request : ImportRequest} (known : Issued name jobId request [] (start settings)) :
      False := by
    rcases known with ⟨record, held, -⟩ | ⟨_, _, given, -⟩
    · rw [workspace_start] at held
      cases held
    · cases given
  refine ⟨fun entry stored => ?_, fun _ _ _ known => (nothing known).elim, fun _ _ _ _ known _ => (nothing known).elim⟩
  cases stored

theorem namesOwn_hinges (settings : Settings) :
    Hinges importsByPasses (start settings) Accounted NamesOwn Borrows where
  sound := start_accounted settings
  first := by
    intro id image name stored
    obtain ⟨key, -, held⟩ := Option.bind_eq_some_iff.mp stored
    cases held
  lasts _ _ _ permitted accounted _ := accounted.next permitted
  turns _ _ _ permitted accounted own :=
    ⟨fun still borrows => borrows.disowns accounted permitted still, own.next accounted permitted⟩

/-- A pass over an object minds its own job: it takes no job away that was submitted with another name, and the object
fails only with the job that its status names and that was submitted with its own name. -/
structure MindsOwn (session : Session) (id : ObjectId) (image : Image) (name : String) : Prop where
  spares : ∀ record ∈ (session.workspace name).jobs, record.request.imageName ≠ image.name →
    record ∈ ((step (.reconcile id) session).state.workspace name).jobs
  fails : ∀ found, (step (.reconcile id) session).state.stored? id = some found → found.status.phase = .failed →
    image.status.phase ≠ .failed →
      ∃ record ∈ (session.workspace name).jobs, record.job.jobId = image.status.jobId ∧ record.job.state = .failed ∧
        record.request.imageName = image.name

/-- A job that is there under the identifier that the status names was submitted with the name of the image. -/
theorem Owns.submitted {image : Image} {name : String} (own : Owns name history session image)
    (accounted : Accounted history session) {record : JobRecord} (held : record ∈ (session.workspace name).jobs)
    (same : record.job.jobId = image.status.jobId) : record.request.imageName = image.name := by
  have issued : Issued name image.status.jobId record.request history session := .inl ⟨record, held, same, rfl⟩
  obtain ⟨request, known, submitted⟩ := own (accounted.named issued)
  rw [accounted.single _ _ _ _ issued known]
  exact submitted

theorem Treats.mindsOwn {image : Image} {name : String} {bench : Bench}
    (treats : Treats session image name bench (step (.reconcile id) session).state)
    (stored : session.stored? id = some image) (own : Owns name history session image)
    (accounted : Accounted history session) : MindsOwn session id image name where
  spares := by
    intro record held other
    rw [treats.workspaces, Scene.withWorkspace_self]
    cases treats.follows with
    | keeps same spares => exact spares.others record held fun same => other (own.submitted accounted held same)
    | submits issued alike =>
      rw [alike.jobs]
      exact List.mem_append_left _ held
    | adopts kept unlisted idle last running taken alike => exact alike.jobs ▸ held
  fails := by
    intro found written failed sound
    rcases treats.stored id with still | gone | ⟨-, new⟩
    · obtain rfl := Option.some.inj (stored.symm.trans (still.symm.trans written))
      exact absurd failed sound
    · rw [gone] at written
      cases written
    · obtain rfl := Option.some.inj (new.symm.trans written)
      obtain ⟨-, job, latest, same, state⟩ := Bench.seesFailure_iff.mp (treats.blames failed sound)
      obtain ⟨-, latest⟩ := Bench.latest?_eq_some.mp latest
      obtain ⟨record, last, rfl⟩ := Option.map_eq_some_iff.mp latest
      have held : record ∈ (session.workspace name).jobs := List.mem_of_getLast? last
      exact ⟨record, held, same, state, own.submitted accounted held same⟩

theorem NamesOwn.mindsOwn {image : Image} {name : String} (own : NamesOwn history session)
    (accounted : Accounted history session) (stored : session.stored? id = some image)
    (served : session.scene.clientOf image = some name) : MindsOwn session id image name := by
  rcases step_treats id session with same | ⟨other, place, bench, there, client, treats⟩
  · refine ⟨fun record held _ => ?_, fun found written failed sound => ?_⟩
    · rw [← scene_workspaces, same]
      exact held
    · rw [stored?_of_objects (congrArg Scene.objects same), stored] at written
      obtain rfl := Option.some.inj written
      exact absurd failed sound
  · obtain rfl := Option.some.inj (stored.symm.trans there)
    obtain rfl := Option.some.inj (served.symm.trans client)
    exact treats.mindsOwn stored (own id image name stored served) accounted

/-- In every run in which images are added as they are before anything was done about them and jobs are submitted by
passes only, the statuses of stored objects name their own jobs at every point exactly if no pass takes up a running job
that was submitted with another name. As long as none does, every pass minds its own job. -/
theorem own_jobs_iff {settings : Settings} {history : List (Session × Command)} {session : Session}
    (ran : Run importsByPasses (start settings) history session) :
    (Throughout NamesOwn history session ↔
      ∀ before command, (before, command) ∈ history → ¬ Borrows before command) ∧
        ((∀ before command, (before, command) ∈ history → ¬ Borrows before command) →
          ∀ before id image name, (before, .reconcile id) ∈ history → before.stored? id = some image →
            before.scene.clientOf image = some name → MindsOwn before id image name) := by
  have hinges := namesOwn_hinges settings
  refine ⟨hinges.throughout_iff ran, fun harmless before id image name given stored served => ?_⟩
  obtain ⟨earlier, accounted, own⟩ := (hinges.throughout ran harmless).given given
  exact own.mindsOwn accounted stored served

/-- Whether a pass meets a running job with a status that names none that is on its way. -/
def tempted (session : Session) : Command → Bool
  | .reconcile id => (session.stored? id).any fun image =>
    !Pass.tracks image && (session.scene.clientOf image).any fun name =>
      (session.workspace name).latest?.any fun job => !job.state.isTerminal
  | _ => false

theorem Borrows.tempted (borrows : Borrows session command) : tempted session command = true := by
  cases borrows with
  | adopts stored kept served unlisted idle last running =>
    simp [Session.tempted, stored, idle, served, Workspace.latest?, last, running]

/-- The second image is imported once the job of the first has ended, and is deleted after its own has failed. -/
def patient : List Command :=
  [Trial.add "m", Trial.add "n", .reconcile (Trial.id "m"), .reconcile (Trial.id "m"),
    .cloud none (.completeJob "job-1"), .reconcile (Trial.id "n"), .cloud none (.failJob "job-3" "no such object"),
    .reconcile (Trial.id "n"), .requestDeletion (Trial.id "n"), .reconcile (Trial.id "n")]

theorem own_jobs_iff_of_patient :
    permits importsByPasses Trial.first patient = true ∧
      ((Trial.first.after patient).workspace "w").jobs.map (·.job.jobId) = ["job-1"] ∧
      Throughout NamesOwn (Trial.first.past [] patient) (Trial.first.after patient) ∧
      ∃ image, (Trial.first.after (patient.take 7)).stored? (Trial.id "n") = some image ∧
        image.status = ⟨false, "", .importing, "job-3"⟩ ∧
        MindsOwn (Trial.first.after (patient.take 7)) (Trial.id "n") image "w" := by
  have permitted : permits importsByPasses Trial.first patient = true := by decide +kernel
  have ran : Run importsByPasses (start Trial.settings) (Trial.first.past [] patient) (Trial.first.after patient) :=
    Run.rest.after permitted
  have steadfast : ∀ entry ∈ Trial.first.past [] patient, tempted entry.1 entry.2 = false := by decide +kernel
  have harmless : ∀ before command, (before, command) ∈ Trial.first.past [] patient → ¬ Borrows before command := by
    intro before command given borrows
    have tempted := borrows.tempted
    rw [steadfast _ given] at tempted
    cases tempted
  have held : ∃ image, (Trial.first.after (patient.take 7)).stored? (Trial.id "n") = some image ∧
      image.status = ⟨false, "", .importing, "job-3"⟩ ∧
      (Trial.first.after (patient.take 7)).scene.clientOf image = some "w" := ⟨_, rfl, rfl, rfl⟩
  obtain ⟨image, stored, status, served⟩ := held
  have given : (Trial.first.after (patient.take 7), .reconcile (Trial.id "n")) ∈ Trial.first.past [] patient :=
    List.mem_cons_of_mem _ (List.mem_cons_of_mem _ List.mem_cons_self)
  obtain ⟨throughout, minds⟩ := own_jobs_iff ran
  exact ⟨permitted, by decide +kernel, throughout.mpr harmless, image, stored, status,
    minds harmless _ _ image "w" given stored served⟩

/-- The second image takes up the job of the first while that is on its way. -/
def hasty : List Command :=
  [Trial.add "m", Trial.add "n", .reconcile (Trial.id "m"), .reconcile (Trial.id "n")]

/-- Deleting the second image then takes the job away from the first. -/
theorem job_taken_of_hasty :
    permits importsByPasses Trial.first (hasty ++ [.requestDeletion (Trial.id "n"), .reconcile (Trial.id "n")]) = true ∧
      ((Trial.first.after hasty).workspace "w").jobs.map (fun record => (record.job.jobId, record.request.imageName)) =
        [("job-1", .text "m")] ∧
      ((Trial.first.after hasty).stored? (Trial.id "n")).map (fun image => (image.name, image.status.jobId)) =
        some (.text "n", "job-1") ∧
      ((Trial.first.after hasty).after [.requestDeletion (Trial.id "n"), .reconcile (Trial.id "n")]).stored?
        (Trial.id "n") = none ∧
      (((Trial.first.after hasty).after [.requestDeletion (Trial.id "n"), .reconcile (Trial.id "n")]).workspace
        "w").jobs = [] :=
  ⟨rfl, rfl, rfl, rfl, rfl⟩

end Session

end ImageOperator
