import ImageOperator.Proofs.Scope.Heed

set_option autoImplicit false

/-!
What is decided about an image that is to exist: by the images that are listed, by the latest job, and by the first call
that fails.
-/

namespace ImageOperator

/-- The calls that were made, each with the workspace as it was then. -/
def Outcome.calls {σ α : Type} (outcome : Outcome σ α) : List (Workspace × Call) :=
  outcome.notes.filterMap Note.call?

theorem Note.call?_eq_some {note : Note} {made : Workspace × Call} :
    note.call? = some made ↔ note = .called made.1 made.2 := by
  cases note <;> simp [call?, Prod.ext_iff]

theorem Attempt.bare_calls {σ α : Type} (attempt : Attempt σ α) (state : σ) :
    (attempt.bare state).calls = (attempt state).calls :=
  Note.filterMap_filter (fun note other => by cases note <;> first | rfl | cases other) _

/-- A call that fails, and is heeded, is the last of the calls. -/
theorem Attempt.Heeded.last {σ α : Type} {outcome : Outcome σ α} (heeded : Attempt.Heeded outcome)
    {workspace : Workspace} {call : Call} {fault : Fault} (made : (workspace, call) ∈ outcome.calls)
    (failed : workspace.fault? call.operation = some fault) :
    outcome.result = .error fault ∧ outcome.calls.getLast? = some (workspace, call) := by
  obtain ⟨note, noted, same⟩ := List.mem_filterMap.mp made
  obtain rfl := Note.call?_eq_some.mp same
  obtain ⟨result, earlier, notes⟩ := heeded.ends noted failed
  refine ⟨result, ?_⟩
  rw [Outcome.calls, notes, List.filterMap_append]
  exact List.getLast?_concat

namespace Bench

variable {bench : Bench} {outcome : Outcome Bench Ensured}

theorem Ensures.images (ensured : Ensures bench outcome) :
    outcome.state.workspace.images = bench.workspace.images := by
  cases ensured <;> rfl

theorem Ensures.spared (ensured : Ensures bench outcome) (other : ∀ jobId, outcome.result ≠ .ok (.created jobId)) :
    outcome.state.workspace.jobs = bench.workspace.jobs ∧
      outcome.state.workspace.requests = bench.workspace.requests := by
  cases ensured with
  | created absent free calm => exact absurd rfl (other _)
  | unlisted failed | found calm first | unasked absent failed | pending absent latest running
  | unrequested absent free failed => exact ⟨rfl, rfl⟩

end Bench

end ImageOperator
