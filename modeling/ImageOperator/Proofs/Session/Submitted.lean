import ImageOperator.Proofs.Scope.Turned
import ImageOperator.Proofs.Session.Run

set_option autoImplicit false

/-!
Which jobs came to a workspace after which. Jobs of all objects stand in one queue, of which a client sees the end only.
-/

namespace ImageOperator.Session

open Workspace (Queues Sorted Turns)

/-- Routine commands, whatever they do. -/
def routinely (_ : Session) (command : Command) : Bool :=
  command.isRoutine

/-- A job of an identifier comes to a workspace in the step of a command. -/
def Submits (name jobId : String) (session : Session) (command : Command) : Prop :=
  jobId ∉ (session.workspace name).jobIds ∧ jobId ∈ ((step command session).state.workspace name).jobIds

/-- Of two jobs the later one came to the workspace while the earlier one was there. -/
def CameAfter (name : String) (history : List (Session × Command)) (earlier later : String) : Prop :=
  ∃ before command, (before, command) ∈ history ∧ earlier ∈ (before.workspace name).jobIds ∧
    Submits name later before command

/-- A job that came after a given one is left. -/
def Overtaken (name jobId : String) (history : List (Session × Command)) (session : Session) : Prop :=
  ∃ later ∈ (session.workspace name).jobIds, CameAfter name history jobId later

/-- Jobs stand in the queue as they came. -/
def Queued (name : String) (history : List (Session × Command)) (session : Session) : Prop :=
  (session.workspace name).jobIds.Pairwise (CameAfter name history)

variable {session : Session} {command : Command} {history : List (Session × Command)} {name jobId : String}

theorem Reconciles.holds {property : Workspace → Prop} {scene after : Scene} {id : ObjectId}
    {result : Except Fault Pass.Requeue} {notes : List Note} (reconciles : Reconciles scene id result after notes)
    (kept : ∀ before command after notes, Turns before command after notes → property before → property after)
    (name : String) (held : property (scene.workspaces name)) : property (after.workspaces name) := by
  have put {place : String} {workspace : Workspace}
      (new : property (scene.workspaces place) → property workspace) :
      property ((scene.withWorkspace place workspace).workspaces name) := by
    by_cases own : name = place
    · subst own
      rw [Scene.withWorkspace_self]
      exact new held
    · rw [Scene.withWorkspace_of_ne scene workspace own]
      exact held
  cases reconciles with
  | idle other => exact held
  | refused known stored served works broken => exact put (works.holds kept)
  | handed known stored served works sound persists => exact put (works.holds kept)

/-- What every turn of a workspace keeps is kept by every routine command. -/
theorem step_holds {property : Workspace → Prop} (routine : command.isRoutine = true)
    (kept : ∀ before command after notes, Turns before command after notes → property before → property after)
    (held : property (session.workspace name)) : property ((step command session).state.workspace name) := by
  obtain ⟨after, notes, reached, noted, moves⟩ := step_moves routine session
  rw [← scene_workspaces (step command session).state, reached]
  cases moves with
  | rests | adds brought adds | marks marks => exact held
  | @turns place order workspace _ turns =>
    by_cases own : name = place.getD session.home
    · subst own
      rw [Scene.withWorkspace_self]
      exact kept _ _ _ _ turns held
    · rw [Scene.withWorkspace_of_ne session.scene workspace own]
      exact held
  | reconciles told deeds reconciles => exact reconciles.holds kept name held

theorem step_queues (routine : command.isRoutine = true) (session : Session) (name : String) :
    Queues (session.workspace name) ((step command session).state.workspace name) := by
  have still : Queues (session.workspace name) (session.workspace name) := (Workspace.Alike.refl _).grows.queues
  have put {place : String} {workspace : Workspace} (new : Queues (session.workspace place) workspace) :
      Queues (session.workspace name) ((session.scene.withWorkspace place workspace).workspaces name) := by
    by_cases own : name = place
    · subst own
      rw [Scene.withWorkspace_self]
      exact new
    · rw [Scene.withWorkspace_of_ne session.scene workspace own]
      exact still
  obtain ⟨after, notes, reached, noted, moves⟩ := step_moves routine session
  rw [← scene_workspaces (step command session).state, reached]
  cases moves with
  | rests | adds brought adds | marks marks => exact still
  | turns turns => exact put turns.queues
  | reconciles told deeds reconciles =>
    cases reconciles with
    | idle other => exact still
    | refused known stored served works broken => exact put works.queues
    | handed known stored served works sound persists => exact put works.queues

theorem Submits.fresh (submits : Submits name jobId session command)
    (queues : Queues (session.workspace name) ((step command session).state.workspace name)) :
    jobId = Workspace.jobIdOf ((session.workspace name).serial + 1) := by
  obtain ⟨new, came⟩ := submits
  cases queues with
  | keeps left serial => exact absurd (left.subset came) new
  | adds ids serial =>
    rw [ids] at came
    rcases List.mem_append.mp came with old | fresh
    · exact absurd old new
    · exact List.mem_singleton.mp fresh

theorem CameAfter.later {earlier later : String} (came : CameAfter name history earlier later) :
    CameAfter name ((session, command) :: history) earlier later := by
  obtain ⟨before, order, given, there, submits⟩ := came
  exact ⟨before, order, List.mem_cons_of_mem _ given, there, submits⟩

theorem Queued.next (queued : Queued name history session) (sorted : (session.workspace name).Sorted)
    (queues : Queues (session.workspace name) ((step command session).state.workspace name)) :
    Queued name ((session, command) :: history) (step command session).state := by
  have kept := queued.imp (@CameAfter.later session command history name)
  cases queues with
  | keeps left serial => exact kept.sublist left
  | adds ids serial =>
    rw [Queued, ids]
    refine List.pairwise_append.mpr ⟨kept, List.pairwise_singleton _ _, fun earlier there last only => ?_⟩
    obtain rfl := List.mem_singleton.mp only
    exact ⟨session, command, List.mem_cons_self, there, sorted.fresh, by rw [ids]; exact List.mem_append_right _ only⟩

theorem Run.sorted {settings : Settings} (ran : Run routinely (start settings) history session) (name : String) :
    (session.workspace name).Sorted ∧
      ∀ before command, (before, command) ∈ history →
        routinely before command = true ∧ (before.workspace name).Sorted := by
  have first : ((start settings).workspace name).Sorted := by
    rw [workspace_start]
    exact Workspace.sorted_empty name
  have kept (session : Session) (command : Command) (routine : routinely session command = true)
      (sorted : (session.workspace name).Sorted) : ((Session.step command session).state.workspace name).Sorted :=
    sorted.queues (step_queues routine session name)
  exact ⟨ran.holds first kept, ran.held first kept⟩

theorem Run.queued {settings : Settings} (ran : Run routinely (start settings) history session) (name : String) :
    Queued name history session := by
  induction ran with
  | rest =>
    rw [Queued, workspace_start]
    exact .nil
  | step ran routine ih => exact ih.next (ran.sorted name).1 (step_queues routine _ name)

/-- A job is the last of its queue exactly if none that came later is left. -/
theorem Run.latest_iff {settings : Settings} (ran : Run routinely (start settings) history session)
    (there : jobId ∈ (session.workspace name).jobIds) :
    (session.workspace name).jobIds.getLast? = some jobId ↔ ¬ Overtaken name jobId history session := by
  obtain ⟨sorted, held⟩ := ran.sorted name
  constructor
  · rintro latest ⟨later, left, before, command, given, earlier, submits⟩
    obtain ⟨routine, sorted_before⟩ := held before command given
    obtain ⟨serial, bound, rfl⟩ := sorted_before.numbered earlier
    obtain rfl := submits.fresh (step_queues routine before name)
    have high := sorted.le_last latest left
    omega
  · intro alone
    have inhabited := List.ne_nil_of_mem there
    rw [List.getLast?_eq_some_getLast inhabited, Option.some.injEq]
    refine Classical.byContradiction fun other => alone ?_
    have queued := ran.queued name
    have split := List.dropLast_concat_getLast inhabited
    rw [Queued, ← split] at queued
    rw [← split] at there
    rcases List.mem_append.mp there with early | only
    · exact ⟨_, List.getLast_mem inhabited,
        (List.pairwise_append.mp queued).2.2 _ early _ (List.mem_singleton_self _)⟩
    · exact absurd (List.mem_singleton.mp only).symm other

end ImageOperator.Session
