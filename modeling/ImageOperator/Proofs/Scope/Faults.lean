import ImageOperator.Proofs.Scope.Pass
import ImageOperator.Proofs.Store.Persist

set_option autoImplicit false

namespace ImageOperator

/-- Faults that calls to the cloud end with. -/
def Fault.isOfCall : Fault → Bool
  | .call _ _ | .callTarget _ _ | .foreign _ _ => true
  | _ => false

/-- Faults of closing a scope on a status that is not consistent. -/
def Fault.isInconsistent : Fault → Bool
  | .inconsistent _ _ _ => true
  | _ => false

theorem Fault.isInconsistent_of_isStore {fault : Fault} (store : fault.isStore = true) :
    fault.isInconsistent = false := by
  cases fault <;> first | rfl | cases store

theorem Fault.isInconsistent_of_isOfCall {fault : Fault} (called : fault.isOfCall = true) :
    fault.isInconsistent = false := by
  cases fault <;> first | rfl | cases called

theorem Fault.isStore_of_isOfCall {fault : Fault} (called : fault.isOfCall = true) : fault.isStore = false := by
  cases fault <;> first | rfl | cases called

theorem Fault.isOfCall_raised (category : Category) (operation message : String) :
    (Fault.raised category operation message).isOfCall = true := by
  unfold Fault.raised
  split <;> rfl

namespace Workspace

theorem fault?_isOfCall {workspace : Workspace} {operation : Operation} {fault : Fault}
    (failed : workspace.fault? operation = some fault) : fault.isOfCall = true := by
  unfold fault? at failed
  split at failed
  · cases failed
    exact Fault.isOfCall_raised _ _ _
  · split at failed
    · cases failed
      rfl
    · obtain ⟨upset, _, same⟩ := Option.map_eq_some_iff.mp failed
      rw [← same]
      exact Fault.isOfCall_raised _ _ _

theorem deletion_isOfCall {operation : Operation} {what target : String} {present : Bool} {fault : Fault}
    (failed : deletion operation what target present = .error fault) : fault.isOfCall = true := by
  unfold deletion at failed
  split at failed
  · cases failed
  · cases failed
    rfl

theorem deleteImage_isOfCall {imageId : String} {workspace after : Workspace} {fault : Fault} {notes : List Note}
    (failed : (deleteImage imageId).bare workspace = ⟨.error fault, after, notes⟩) : fault.isOfCall = true := by
  cases made : workspace.fault? .deleteImage with
  | some known =>
    rw [deleteImage_of_fault made] at failed
    cases failed
    exact fault?_isOfCall made
  | none =>
    rw [deleteImage_of_calm made, Outcome.mk.injEq] at failed
    exact deletion_isOfCall failed.1

theorem deleteJob_isOfCall {jobId : String} {workspace after : Workspace} {fault : Fault} {notes : List Note}
    (failed : (deleteJob jobId).bare workspace = ⟨.error fault, after, notes⟩) : fault.isOfCall = true := by
  cases made : workspace.fault? .deleteJob with
  | some known =>
    rw [deleteJob_of_fault made] at failed
    cases failed
    exact fault?_isOfCall made
  | none =>
    rw [deleteJob_of_calm made, Outcome.mk.injEq] at failed
    exact deletion_isOfCall failed.1

end Workspace

theorem Bench.error_of_settled {result : Except Fault Unit} {fault : Fault}
    (failed : Bench.settled result = .error fault) : result = .error fault := by
  rcases result with other | done
  · simp only [Bench.settled] at failed
    split at failed
    · cases failed
    · exact failed
  · cases failed

theorem Bench.Ensures.isOfCall {bench after : Bench} {fault : Fault} {notes : List Note}
    (ensured : Bench.Ensures bench ⟨.error fault, after, notes⟩) : fault.isOfCall = true := by
  cases ensured with
  | unlisted failed | unasked absent failed | unrequested absent free failed => exact Workspace.fault?_isOfCall failed

namespace Pass

theorem Looks.isOfCall {bench after : Bench} {fault : Fault} {notes : List Note}
    (looked : Looks bench ⟨.error fault, after, notes⟩) : fault.isOfCall = true := by
  cases looked with
  | unasked failed => exact Workspace.fault?_isOfCall failed

theorem ClearsImage.isOfCall {bench after : Bench} {fault : Fault} {notes : List Note}
    (clears : ClearsImage bench ⟨.error fault, after, notes⟩) : fault.isOfCall = true := by
  cases clears with
  | refused named called failed =>
    rw [Bench.error_of_settled failed] at called
    exact Workspace.deleteImage_isOfCall called

theorem ClearsJob.isOfCall {bench after : Bench} {fault : Fault} {notes : List Note}
    (clears : ClearsJob bench ⟨.error fault, after, notes⟩) : fault.isOfCall = true := by
  cases clears with
  | refused named called failed =>
    rw [Bench.error_of_settled failed] at called
    exact Workspace.deleteJob_isOfCall called

/-- A pass that breaks off does so on a call. -/
theorem Works.isOfCall {config : Config} {bench after : Bench} {fault : Fault} {notes : List Note}
    (works : Works config bench ⟨.error fault, after, notes⟩) : fault.isOfCall = true := by
  cases works with
  | kept kept normal =>
    cases normal with
    | unasked looked => exact looked.isOfCall
    | unsettled looked ensured => exact ensured.isOfCall
  | requested requested deletes =>
    cases deletes with
    | imageRefused image => exact image.isOfCall
    | jobRefused image job => exact job.isOfCall

end Pass

end ImageOperator
