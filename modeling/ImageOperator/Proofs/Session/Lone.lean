import ImageOperator.Proofs.Cloud.Named
import ImageOperator.Proofs.Scope.Sight
import ImageOperator.Proofs.Session.OneImport

set_option autoImplicit false

namespace ImageOperator

namespace Session

/-- Whether a pass ends because the store refuses the image that is handed back. -/
def persistFails (session : Session) (id : ObjectId) : Bool :=
  (reconcile id session).notes.any (·.submitted?.isSome) &&
    match (reconcile id session).result with
    | .error fault => fault.isStore
    | .ok _ => false

/-- Commands over one object: passes, deletion requests, and progress of jobs that are on their way. The store takes
what passes hand to it, and no other hand puts images or jobs in or takes them out; calls may be made to fail. -/
def loneImport (session : Session) : Command → Bool
  | .add _ _ | .addWritten _ _ => false
  | .cloud _ (.addImage _ _) | .cloud _ (.deleteImage _) | .cloud _ (.deleteJob _) => false
  | .reconcile id => !persistFails session id
  | command => jobsByPasses session command

theorem jobsByPasses_of_loneImport {session : Session} {command : Command}
    (permitted : loneImport session command = true) : jobsByPasses session command = true := by
  unfold loneImport at permitted
  split at permitted
  · cases permitted
  · cases permitted
  · cases permitted
  · cases permitted
  · cases permitted
  · rfl
  · exact permitted

theorem brings_of_loneImport {session : Session} {command : Command} (permitted : loneImport session command = true) :
    session.brings command = none := by
  cases command <;> first | rfl | cases permitted

/-- Whether a job was asked for in a workspace by a pass over an object. -/
def Submitted (id : ObjectId) (name : String) (history : List (Session × Command)) (jobId : String) : Prop :=
  ∃ before other, (before, .reconcile other) ∈ history ∧ other.key? = id.key? ∧
    ∃ workspace request, .called workspace (.createJob request) ∈ (step (.reconcile other) before).notes ∧
      workspace.instanceId = name ∧ (Workspace.createJob request workspace).result = .ok jobId

/-- Whether an image came of a job that was asked for by a pass over an object. -/
def Materialised (id : ObjectId) (name : String) (history : List (Session × Command)) (found : CloudImage) : Prop :=
  ∃ before place jobId, (before, .cloud place (.completeJob jobId)) ∈ history ∧ place.getD before.home = name ∧
    Submitted id name history jobId ∧ (Workspace.completeJob jobId (before.workspace name)).result = .ok found

/-- Whether the store holds an object whose status names no image. -/
def unnamed (session : Session) (id : ObjectId) : Bool :=
  (session.stored? id).any (·.status.imageId = "")

/-- Whether a step puts an image out of sight: one that was not there comes up in the workspace, or a pass is told
that one that is listed is not there. -/
def slips (name : String) (session : Session) : Command → Bool
  | .reconcile id => denied (step (.reconcile id) session).notes
  | command =>
    (session.workspace name).images.length < ((step command session).state.workspace name).images.length

/-- Whether an image was out of sight for the last command: the last step put it there, or it was out of sight before
and the status named none then. -/
def overlooked (id : ObjectId) (name : String) : List (Session × Command) → Bool
  | [] => false
  | (before, command) :: earlier => slips name before command || (before.unnamed id && overlooked id name earlier)

theorem Submitted.later {id : ObjectId} {name jobId : String} {history : List (Session × Command)}
    (submitted : Submitted id name history jobId) (step : Session × Command) :
    Submitted id name (step :: history) jobId := by
  obtain ⟨before, other, given, rest⟩ := submitted
  exact ⟨before, other, List.mem_cons_of_mem _ given, rest⟩

theorem Materialised.later {id : ObjectId} {name : String} {history : List (Session × Command)} {found : CloudImage}
    (materialised : Materialised id name history found) (step : Session × Command) :
    Materialised id name (step :: history) found := by
  obtain ⟨before, place, jobId, given, own, submitted, made⟩ := materialised
  exact ⟨before, place, jobId, List.mem_cons_of_mem _ given, own, submitted.later step, made⟩

theorem overlooked_step {id : ObjectId} {session : Session} {image : Image} (stored : session.stored? id = some image)
    (name : String) (history : List (Session × Command)) (command : Command) :
    overlooked id name ((session, command) :: history) =
      (slips name session command || (decide (image.status.imageId = "") && overlooked id name history)) := by
  simp only [overlooked, unnamed, stored, Option.any_some]

theorem denied_bare {α : Type} {attempt : Attempt Session α} {session : Session} {notes : List Note}
    (noted : (attempt.bare session).notes = notes) : denied (attempt session).notes = denied notes := by
  have deeds (note : Note) : (note.isDeed && note.isDenial) = note.isDenial := by
    cases note <;> rfl
  rw [← noted, Attempt.bare_notes, denied, denied, List.any_filter]
  simp only [deeds]

/-- A step in which no image comes up and none is denied puts none out of sight. -/
theorem slips_of_still {name : String} {session : Session} {command : Command} {after : Scene} {notes : List Note}
    (reached : (step command session).state.scene = after) (noted : ((step command).bare session).notes = notes)
    (quiet : denied notes = false)
    (same : (after.workspaces name).images = (session.scene.workspaces name).images) :
    slips name session command = false := by
  unfold slips
  split
  · rw [denied_bare noted, quiet]
  · rw [← scene_workspaces, ← scene_workspaces, reached, same]
    simp

theorem slips_cloud {name : String} {session : Session} {place : Option String} {order : CloudCommand} {after : Scene}
    (reached : (step (.cloud place order) session).state.scene = after) :
    slips name session (.cloud place order) =
      decide ((session.scene.workspaces name).images.length < (after.workspaces name).images.length) := by
  rw [← reached]
  rfl

theorem slips_reconcile {name : String} {session : Session} {id : ObjectId} {notes : List Note}
    (noted : ((step (.reconcile id)).bare session).notes = notes) :
    slips name session (.reconcile id) = denied notes :=
  denied_bare noted

/-- What is known of the object of a run: the jobs in its workspace were asked for by passes over it, the images came
of such jobs, and an image that the status does not name is there exactly if one was overlooked. -/
structure Traced (id : ObjectId) (name : String) (history : List (Session × Command)) (scene : Scene) (image : Image) :
    Prop where
  known : image.id.key? = id.key?
  own : image.spec.workspace = name
  submitted : ∀ record ∈ (scene.workspaces name).jobs,
    record.request.imageName = image.name ∧ Submitted id name history record.job.jobId
  materialised : ∀ found ∈ (scene.workspaces name).images, Materialised id name history found
  stands : Stands image (scene.workspaces name) (decide (image.status.imageId = "") && overlooked id name history)

/-- The store holds no object, or one alone of which all that is known. -/
inductive Alone (id : ObjectId) (name : String) (history : List (Session × Command)) (scene : Scene) : Prop
  | gone (empty : scene.objects = [])
  | there {key : ObjectKey} {image : Image} (known : id.key? = some key) (alone : scene.objects = [(key, image)])
      (traced : Traced id name history scene image)

variable {id : ObjectId} {name : String} {history : List (Session × Command)} {session : Session} {command : Command}

theorem step_empty (permitted : loneImport session command = true) (empty : session.scene.objects = []) :
    (step command session).state.scene.objects = [] := by
  have routine := routine_of_jobsByPasses (jobsByPasses_of_loneImport permitted)
  obtain ⟨after, notes, reached, noted, moves⟩ := step_moves routine session
  have nothing {key : ObjectKey} {image : Image} (held : session.scene.objects.get? key = some image) : False := by
    rw [empty] at held
    cases held
  rw [reached]
  cases moves with
  | rests => exact empty
  | adds brought adds =>
    rw [brings_of_loneImport permitted] at brought
    cases brought
  | marks marks =>
    cases marks with
    | unknown unknown => exact empty
    | absent known absent => exact empty
    | handed known stored persists => exact (nothing stored).elim
  | turns turns => exact empty
  | reconciles told deeds reconciles =>
    cases reconciles with
    | idle other => exact empty
    | refused known stored client works broken => exact (nothing stored).elim
    | handed known stored client works sound persists => exact (nothing stored).elim

theorem stored?_of {key : ObjectKey} {image : Image} (known : id.key? = some key)
    (alone : session.scene.objects = [(key, image)]) : session.stored? id = some image := by
  rw [stored?, known, Option.bind_some, alone]
  simp [Catalog.get?]

/-- A step that leaves the workspace and the image alike keeps what is known. -/
theorem Traced.quiet {after : Scene} {before image : Image}
    (traced : Traced id name history session.scene before) (stored : session.stored? id = some before)
    (still : slips name session command = false)
    (within : Workspace.Within (session.scene.workspaces name) (after.workspaces name))
    (same : image.id = before.id) (spec : image.spec = before.spec) (status : image.status = before.status)
    (guarded : before.isGuarded = true → image.isGuarded = true) :
    Traced id name ((session, command) :: history) after image where
  known := same ▸ traced.known
  own := spec ▸ traced.own
  submitted := by
    intro record held
    obtain ⟨asked, submitted⟩ := traced.submitted record (within.jobs record held)
    have title : image.name = before.name := congrArg ObjectId.name same
    exact ⟨asked.trans title.symm, submitted.later _⟩
  materialised := by
    intro found held
    rw [within.images] at held
    exact (traced.materialised found held).later _
  stands := by
    have kept := traced.stands.of_same within (congrArg ObjectId.name same) (congrArg Image.Status.imageId status)
      fun _ => guarded
    rw [overlooked_step stored, still, Bool.false_or, kept.blank_and]
    exact kept

theorem Marks.alone {objects : Catalog} {other : ObjectId} {now : String} {result : Except Fault Unit}
    {notes : List Note} {key : ObjectKey} {image : Image} (known : image.id.key? = some key)
    (marks : Depot.Marks [(key, image)] other now result objects notes) :
    denied notes = false ∧
      (objects = [] ∨ objects = [(key, image)] ∨ objects = [(key, image.marked now)]) := by
  cases marks with
  | unknown unknown => exact ⟨rfl, .inr (.inl rfl)⟩
  | absent known absent => exact ⟨rfl, .inr (.inl rfl)⟩
  | handed keyed stored persists =>
    obtain ⟨-, rfl⟩ := Catalog.eq_of_get?_single stored
    refine ⟨rfl, ?_⟩
    rcases persists.single ((Image.marked_id _ now).symm ▸ known) with ⟨kept, -⟩ | ⟨gone, -⟩ | put
    · exact .inr (.inl kept)
    · exact .inl gone
    · exact .inr (.inr put)

/-- While a job is on its way nothing is listed, and moving it changes nothing of what is known. -/
theorem Traced.moves {place : Option String} {order : CloudCommand} {jobId : String} {state : JobState}
    {message : Option String} {record : JobRecord} {after : Scene} {image : Image}
    (stored : session.stored? id = some image) (traced : Traced id name history session.scene image)
    (still : slips name session (.cloud place order) = false)
    (found : (session.scene.workspaces name).record? jobId = some record)
    (running : record.job.state.isTerminal = false)
    (moved : after.workspaces name = (session.scene.workspaces name).setJob jobId state message) :
    Traced id name ((session, .cloud place order) :: history) after image where
  known := traced.known
  own := traced.own
  submitted := by
    intro record held
    rw [moved] at held
    obtain ⟨old, member, sameId, sameRequest⟩ := Workspace.mem_setJob held
    obtain ⟨asked, submitted⟩ := traced.submitted old member
    exact ⟨sameRequest ▸ asked, sameId ▸ submitted.later _⟩
  materialised := by
    intro image listed
    rw [moved] at listed
    exact (traced.materialised image listed).later _
  stands := by
    obtain ⟨empty, blank, unseen⟩ := traced.stands.of_running (List.mem_of_find?_eq_some found) running
    rw [overlooked_step stored, unseen, still, moved, Bool.or_false, Bool.and_false]
    exact .clear empty (.inl blank)

/-- Completing a job puts in an image of the object's name, which is the only one and which the status does not name. -/
theorem Traced.completes {key : ObjectKey} {place : Option String} {jobId : String} {record : JobRecord} {after : Scene}
    {image : Image} (known : id.key? = some key) (own : place.getD session.home = name)
    (orderly : session.scene.Orderly) (stored : session.stored? id = some image)
    (traced : Traced id name history session.scene image)
    (reached : (step (.cloud place (.completeJob jobId)) session).state.scene = after)
    (found : (session.scene.workspaces name).record? jobId = some record)
    (running : record.job.state.isTerminal = false)
    (completed : after.workspaces name =
      (((session.scene.workspaces name).setJob jobId .completed none).addImage record.request.imageName "").2) :
    Traced id name ((session, .cloud place (.completeJob jobId)) :: history) after image := by
  have held := List.mem_of_find?_eq_some found
  have title : record.job.jobId = jobId := by simpa using List.find?_some found
  obtain ⟨asked, submitted⟩ := traced.submitted record held
  obtain ⟨empty, blank, -⟩ := traced.stands.of_running held running
  rw [Workspace.addImage_fresh] at completed
  have only := congrArg Workspace.images completed
  simp only [Workspace.setJob, empty, List.nil_append] at only
  refine ⟨traced.known, traced.own, ?_, ?_, ?_⟩
  · intro other moved
    rw [completed] at moved
    obtain ⟨old, member, sameId, sameRequest⟩ := Workspace.mem_setJob moved
    obtain ⟨asked, submitted⟩ := traced.submitted old member
    exact ⟨sameRequest ▸ asked, sameId ▸ submitted.later _⟩
  · intro image listed
    rw [only] at listed
    obtain rfl := List.mem_singleton.mp listed
    have made := Workspace.completeJob_of found
    exact ⟨session, place, jobId, List.mem_cons_self, own, title ▸ submitted.later _, made⟩
  · have came : slips name session (.cloud place (.completeJob jobId)) = true := by
      rw [slips_cloud reached, only, empty]
      exact decide_eq_true Nat.zero_lt_one
    rw [overlooked_step stored, came, Bool.true_or, Bool.and_true, decide_eq_true blank]
    have sameName : record.request.imageName.same image.name = true := by
      rw [asked]
      exact Image.same_name (traced.known.trans known)
    have ended : (after.workspaces name).Ended := by
      rw [completed]
      exact (orderly.workspaces name).completed found running
    exact .unseen ⟨only, sameName, Workspace.imageIdOf_ne _, ended⟩ blank

theorem Traced.turns {key : ObjectKey} {place : Option String} {order : CloudCommand} {workspace : Workspace}
    {notes : List Note} {image : Image} (known : id.key? = some key)
    (permitted : loneImport session (.cloud place order) = true)
    (orderly : session.scene.Orderly) (stored : session.stored? id = some image)
    (traced : Traced id name history session.scene image)
    (reached : (step (.cloud place order) session).state.scene =
      session.scene.withWorkspace (place.getD session.home) workspace)
    (turns : Workspace.Turns (session.scene.workspaces (place.getD session.home)) order workspace notes) :
    Traced id name ((session, .cloud place order) :: history)
      (session.scene.withWorkspace (place.getD session.home) workspace) image := by
  have fair : (session.scene.workspaces (place.getD session.home)).fair order = true :=
    jobsByPasses_of_loneImport permitted
  have still (same : ((session.scene.withWorkspace (place.getD session.home) workspace).workspaces name).images =
      (session.scene.workspaces name).images) : slips name session (.cloud place order) = false := by
    rw [slips_cloud reached, same]
    exact decide_eq_false (Nat.lt_irrefl _)
  by_cases elsewhere : name ≠ place.getD session.home
  · have same := session.scene.withWorkspace_of_ne workspace elsewhere
    exact traced.quiet stored (still (by rw [same])) (same.symm ▸ .refl _) rfl rfl rfl fun guarded => guarded
  · obtain rfl : name = place.getD session.home := Decidable.not_not.mp elsewhere
    have here := session.scene.withWorkspace_self (place.getD session.home) workspace
    cases turns with
    | rests alike noted =>
      refine traced.quiet stored (still ?_) (here.symm ▸ alike.within) rfl rfl rfl fun guarded => guarded
      rw [here, alike.images]
    | imageAdded => cases permitted
    | imageDeleted alike => cases permitted
    | jobDeleted alike => cases permitted
    | jobCreated alike => cases fair
    | jobMoved progress found unfinished =>
      have running := Workspace.running_of_fair fair progress _ found
      exact traced.moves stored (still (by rw [here]; rfl)) found running here
    | @jobCompleted jobId _ found =>
      have progress : (CloudCommand.completeJob jobId).progress? = some (jobId, .completed, none) := rfl
      have running := Workspace.running_of_fair fair progress _ found
      exact traced.completes known rfl orderly stored reached found running here

/-- A pass that hands its image back to the store does not fail on that. -/
theorem ok_of_handed {other : ObjectId} {image : Image} {ending : Except Fault Unit}
    {result : Except Fault Pass.Requeue} {notes : List Note}
    (permitted : loneImport session (.reconcile other) = true)
    (told : (reconcile other session).result = (ending >>= fun _ => result))
    (deeds : ((reconcile other).bare session).notes = notes ++ [.submitted image])
    (store : ∀ fault, ending = .error fault → fault.isStore = true) : ending = .ok () := by
  cases ending with
  | ok => rfl
  | error fault =>
    have held : Note.submitted image ∈ ((reconcile other).bare session).notes := by
      rw [deeds]
      exact List.mem_append_right _ List.mem_cons_self
    have handed : (reconcile other session).notes.any (·.submitted?.isSome) = true :=
      List.any_eq_true.mpr ⟨_, (Attempt.mem_bare_notes rfl).mp held, rfl⟩
    have failed : persistFails session other = true := by
      rw [persistFails, handed, told]
      exact store fault rfl
    simp [loneImport, failed] at permitted

/-- Jobs that a pass adds were submitted for the object, and it adds no images. -/
theorem Traced.of_grown {other : ObjectId} {notes : List Note} {after : Workspace} {image : Image}
    (traced : Traced id name history session.scene image) (same : other.key? = id.key?)
    (orderly : session.scene.Orderly)
    (given : ∀ workspace call, .called workspace call ∈ notes →
      .called workspace call ∈ (step (.reconcile other) session).notes)
    (grown : Pass.Grown image.name notes (session.scene.workspaces name) after) :
    (∀ record ∈ after.jobs, record.request.imageName = image.name ∧
        Submitted id name ((session, .reconcile other) :: history) record.job.jobId) ∧
      ∀ found ∈ after.images, Materialised id name history found := by
  refine ⟨fun record held => ?_, fun found listed => traced.materialised found (grown.images found listed)⟩
  rcases grown.jobs record held with old | ⟨asked, workspace, called, instanceId, answered⟩
  · obtain ⟨asked, submitted⟩ := traced.submitted record old
    exact ⟨asked, submitted.later _⟩
  · have own : workspace.instanceId = name := instanceId.trans (orderly.workspaces name).instanceId
    have noted := given workspace _ called
    exact ⟨asked, session, other, List.mem_cons_self, same, workspace, record.request, noted, own, answered⟩

/-- A pass over the object, with what is known after it: the object has left, and an image is listed exactly if one was
overlooked, or the object is there and all is known of it. -/
theorem Traced.reconciles {key : ObjectKey} {other : ObjectId} {image : Image} {result : Except Fault Pass.Requeue}
    {after : Scene} {notes : List Note} (known : id.key? = some key)
    (permitted : loneImport session (.reconcile other) = true) (orderly : session.scene.Orderly)
    (alone : session.scene.objects = [(key, image)]) (traced : Traced id name history session.scene image)
    (reached : (step (.reconcile other) session).state.scene = after)
    (noted : ((step (.reconcile other)).bare session).notes = notes)
    (told : (reconcile other session).result = result) (deeds : ((reconcile other).bare session).notes = notes)
    (reconciles : Reconciles session.scene other result after notes) :
    (after.objects = [] ∧
        (∀ found ∈ (after.workspaces name).images, Materialised id name history found) ∧
        ((∃ found, found ∈ (after.workspaces name).images) ↔
          overlooked id name ((session, .reconcile other) :: history) = true)) ∨
      ∃ left, after.objects = [(key, left)] ∧ Traced id name ((session, .reconcile other) :: history) after left := by
  have stored := stored?_of known alone
  have slipped : slips name session (.reconcile other) = denied notes := slips_reconcile noted
  have only {keyed : ObjectKey} {found : Image} (held : session.scene.objects.get? keyed = some found) :
      keyed = key ∧ found = image := by
    rw [alone] at held
    exact Catalog.eq_of_get?_single held
  have place {client : String} (served : session.scene.clientOf image = some client) : client = name := by
    rw [← traced.own]
    simpa [Scene.clientOf, orderly.own] using served.symm
  cases reconciles with
  | idle silent =>
    refine .inr ⟨image, alone, traced.quiet stored ?_ (.refl _) rfl rfl rfl fun guarded => guarded⟩
    rw [slipped, denied_nil]
  | @refused keyed found client result bench notes same held served works broken =>
    obtain ⟨rfl, rfl⟩ := only held
    obtain rfl := place served
    obtain ⟨within, quiet⟩ := works.within_of_broken broken
    refine .inr ⟨found, alone, traced.quiet stored (slipped.trans quiet) ?_ rfl rfl rfl fun guarded => guarded⟩
    rw [Scene.withWorkspace_self]
    exact within
  | @handed keyed found client result bench notes ending objects same held served works sound persists =>
    obtain ⟨rfl, rfl⟩ := only held
    obtain rfl := place served
    have here := session.scene.withWorkspace_self client bench.workspace
    have akin := works.akin
    have keyed : bench.image.id.key? = some keyed := by rw [akin.id, traced.known, known]
    have now : overlooked id client ((session, .reconcile other) :: history) =
        (denied notes || (decide (found.status.imageId = "") && overlooked id client history)) := by
      rw [overlooked_step stored, slipped, denied_append]
      simp only [denied, List.any_cons, List.any_nil, Note.isDenial, Bool.or_false]
    have given : ∀ workspace call, .called workspace call ∈ notes →
        .called workspace call ∈ (step (.reconcile other) session).notes := by
      intro workspace call held
      refine (Attempt.mem_bare_notes rfl).mp ?_
      rw [noted]
      exact List.mem_append_left _ held
    obtain ⟨submitted, made⟩ := traced.of_grown (same.trans known.symm) orderly given works.grown
    have title : bench.image.name = found.name := congrArg ObjectId.name akin.id
    rw [← title] at submitted
    rw [alone] at persists
    rcases persists.single keyed with ⟨-, fault, rfl, store⟩ | ⟨rfl, leaving⟩ | rfl
    · have taken := ok_of_handed permitted told deeds fun cause refused => by cases refused; exact store
      cases taken
    · refine .inl ⟨rfl, ?_, ?_⟩
      · rw [Scene.withObjects_workspaces, here]
        exact made
      · rw [Scene.withObjects_workspaces, here, now]
        exact works.listed_iff traced.stands leaving
    · refine .inr ⟨bench.image, rfl, keyed.trans known.symm, akin.spec ▸ traced.own, ?_, ?_, ?_⟩
      · rw [Scene.withObjects_workspaces, here]
        exact submitted
      · rw [Scene.withObjects_workspaces, here]
        exact fun image listed => (made image listed).later _
      · rw [Scene.withObjects_workspaces, here, now]
        exact works.stands traced.stands

theorem step_alone (permitted : loneImport session command = true) (orderly : session.scene.Orderly)
    (alone : Alone id name history session.scene) :
    Alone id name ((session, command) :: history) (step command session).state.scene := by
  cases alone with
  | gone empty => exact .gone (step_empty permitted empty)
  | @there key image known alone traced =>
    have stored := stored?_of known alone
    have routine := routine_of_jobsByPasses (jobsByPasses_of_loneImport permitted)
    obtain ⟨after, notes, reached, noted, moves⟩ := step_moves routine session
    rw [reached]
    cases moves with
    | rests =>
      have still : slips name session command = false := slips_of_still reached noted rfl rfl
      exact .there known alone (traced.quiet stored still (.refl _) rfl rfl rfl fun guarded => guarded)
    | adds brought adds =>
      rw [brings_of_loneImport permitted] at brought
      cases brought
    | @marks other now _ _ _ marks =>
      rw [alone] at marks
      obtain ⟨quiet, left⟩ := Marks.alone (traced.known.trans known) marks
      have still : slips name session (.requestDeletion other) = false := slips_of_still reached noted quiet rfl
      rcases left with empty | same | marked
      · exact .gone empty
      · exact .there known same (traced.quiet stored still (.refl _) rfl rfl rfl fun guarded => guarded)
      · refine .there known marked (traced.quiet stored still (.refl _) (image.marked_id now) (image.marked_spec now)
          (image.marked_status now) fun guarded => ?_)
        rw [Image.isGuarded_of_finalizers (image.marked_finalizers now)]
        exact guarded
    | turns turns => exact .there known alone (traced.turns known permitted orderly stored reached turns)
    | reconciles told deeds reconciles =>
      rcases traced.reconciles known permitted orderly alone reached noted told deeds reconciles with
        ⟨empty, -⟩ | ⟨left, there, later⟩
      · exact .gone empty
      · exact .there known there later

theorem Run.alone {start : Session} (orderly : start.scene.Orderly) (first : Alone id name [] start.scene)
    (ran : Run loneImport start history session) : Alone id name history session.scene := by
  induction ran with
  | rest => exact first
  | step ran allowed ih =>
    have before := ran.orderly_of (fun _ _ permitted => jobsByPasses_of_loneImport permitted) orderly
    exact step_alone allowed before.1 ih

/-- With one image added to an empty store, the store holds it or has refused it, and nothing is in the cloud. -/
theorem add_first (source : Source) (keep : Option String) (settings : Settings) :
    let added := (step (.add source keep) (start settings)).state
    added.scene.workspaces = (start settings).scene.workspaces ∧
      (added.scene.objects = [] ∨
        ∃ key image, image.id.key? = some key ∧ added.scene.objects = [(key, image)]) := by
  intro added
  have routine : (Command.add source keep).isRoutine = true := rfl
  obtain ⟨after, notes, reached, noted, moves⟩ := step_moves routine (start settings)
  rw [reached]
  cases moves with
  | rests => exact ⟨rfl, .inl rfl⟩
  | adds brought adds =>
    refine ⟨rfl, ?_⟩
    cases adds with
    | refused store => exact .inl rfl
    | put known => exact .inr ⟨_, _, known, rfl⟩

theorem traced_first {settings : Settings} {scene : Scene} {image : Image}
    (workspaces : scene.workspaces = (start settings).scene.workspaces) (known : image.id.key? = id.key?) :
    Traced id image.spec.workspace [] scene image where
  known := known
  own := rfl
  submitted := by
    intro record held
    rw [workspaces, scene_workspaces, workspace_start] at held
    cases held
  materialised := by
    intro found held
    rw [workspaces, scene_workspaces, workspace_start] at held
    cases held
  stands := by
    rw [workspaces, scene_workspaces, workspace_start, overlooked, Bool.and_false]
    exact .clear rfl (.inr fun record held => nomatch held)

end Session

end ImageOperator
