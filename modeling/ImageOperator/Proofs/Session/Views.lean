import ImageOperator.Proofs.Attempt
import ImageOperator.Session.Step

set_option autoImplicit false

/-!
What attempts on a session leave alone. Most of them work on the clouds, or on what is kept and recorded on the side,
and change nothing that shows elsewhere.
-/

namespace ImageOperator.Session

variable {α τ : Type}

/-- Views of a session in which neither the clouds show nor what is recorded. -/
class Unclouded (view : Session → τ) : Prop where
  recorded : ∀ session recorded, view { session with recorded } = view session
  workspaces : ∀ session workspaces, view { session with workspaces } = view session

/-- Views of a session in which neither the clouds show nor what is recorded nor the stores. -/
class Unstored (view : Session → τ) : Prop extends Unclouded view where
  stores : ∀ session index depot, view (putDepot index depot session) = view session

/-- Views of a session in which neither the clouds and their registry show nor what is kept and recorded on the
side. -/
class Overlooks (view : Session → τ) : Prop extends Unclouded view where
  kept : ∀ session drafts kept, view { session with drafts, kept } = view session
  set : ∀ session now registry, view { session with now, registry } = view session

/-- The store in use. -/
def store (session : Session) : Depot :=
  session.depot session.current

instance : Overlooks scopes where
  recorded _ _ := rfl
  workspaces _ _ := rfl
  kept _ _ _ := rfl
  set _ _ _ := rfl

instance : Overlooks depots where
  recorded _ _ := rfl
  workspaces _ _ := rfl
  kept _ _ _ := rfl
  set _ _ _ := rfl

instance : Overlooks disk where
  recorded _ _ := rfl
  workspaces _ _ := rfl
  kept _ _ _ := rfl
  set _ _ _ := rfl

instance : Overlooks store where
  recorded _ _ := rfl
  workspaces _ _ := rfl
  kept _ _ _ := rfl
  set _ _ _ := rfl

section

variable (view : Session → τ)

theorem preserves_keptImage (name : String) : (keptImage name).Preserves view := by
  refine (Attempt.preserves_read view).bind fun session => ?_
  cases session.kept.lookup name with
  | none => exact Attempt.preserves_fail view _
  | some held =>
    cases image : session.heldImage? held with
    | none => simpa only [image] using Attempt.preserves_fail view _
    | some image => simpa only [image] using Attempt.preserves_pure view _

section

variable [Unclouded view]

theorem preserves_emit (notes : List Note) : (emit notes).Preserves view :=
  fun session => Unclouded.recorded session _

theorem preserves_inWorkspace (name : String) (attempt : Attempt Workspace α) :
    (inWorkspace name attempt).Preserves view :=
  fun session => (Unclouded.recorded (putWorkspace name _ session) _).trans (Unclouded.workspaces session _)

theorem preserves_visit (scope : Scope) (attempt : Attempt Bench α) : (visit scope attempt).Preserves view :=
  fun session => (Unclouded.recorded (putWorkspace scope.workspace _ session) _).trans (Unclouded.workspaces session _)

theorem preserves_openScope (opening : Opening) : (openScope opening).Preserves view := by
  obtain ⟨hasStore, image, channel, debug⟩ := opening
  cases hasStore with
  | false => exact Attempt.preserves_fail view _
  | true =>
    cases image with
    | none => exact Attempt.preserves_fail view _
    | some image =>
      refine (Attempt.preserves_read view).bind fun session => ?_
      refine (Attempt.preserves_of view _).bind fun options => ?_
      refine (preserves_emit view _).bind fun _ => (preserves_emit view _).bind fun _ => ?_
      refine (Attempt.preserves_of view _).bind fun workspace => ?_
      exact Attempt.Preserves.bind (Attempt.preserves_update fun before => Unclouded.workspaces before _) fun _ =>
        Attempt.preserves_pure view _

theorem preserves_callCloud (workspace : String) (command : CloudCommand) :
    (callCloud workspace command).Preserves view := by
  have answered {β : Type} (attempt : Attempt Workspace β) (answer : β → Answer) :
      (inWorkspace workspace attempt >>= fun value => pure (answer value)).Preserves view :=
    (preserves_inWorkspace view workspace attempt).bind fun _ => Attempt.preserves_pure view _
  cases command with
  | createJob request =>
    refine (preserves_inWorkspace view _ _).bind fun _ => (Attempt.preserves_of view _).bind fun request => ?_
    exact answered _ _
  | latestJob instanceId =>
    refine (preserves_inWorkspace view _ _).bind fun job => ?_
    cases job <;> exact Attempt.preserves_pure view _
  | addImage | startJob | completeJob | failJob | getJob | deleteJob | listImages | deleteImage | inject | schedule
  | clear => exact answered _ _

end

variable [Overlooks view]

theorem preserves_keep (name : Option String) (image : Image) (held : Option Held) :
    (keep name image held).Preserves view := by
  cases name with
  | none => exact Attempt.preserves_pure view ()
  | some name => cases held <;> exact Attempt.preserves_update fun before => Overlooks.kept before _ _

theorem preserves_takeSource (source : Source) (name : Option String) : (takeSource source name).Preserves view := by
  cases source with
  | document value | fields value =>
    exact (Attempt.preserves_of view _).bind fun image =>
      (preserves_keep view name image none).bind fun _ => Attempt.preserves_pure view image
  | kept kept =>
    exact (preserves_keptImage view kept).bind fun held =>
      (preserves_keep view name held.2 (some held.1)).bind fun _ => Attempt.preserves_pure view held.2

theorem preserves_listStored (name : Option String) (index : Nat) : (listStored name index).Preserves view := by
  refine (Attempt.preserves_read view).bind fun session => ?_
  cases name with
  | none => exact Attempt.preserves_pure view _
  | some name =>
    cases listed : (session.depot session.current).listObjects[index]? with
    | none =>
      simp only [Option.isSome_some, ↓reduceIte, listed]
      exact (Attempt.preserves_fail view _).bind fun _ => Attempt.preserves_pure view _
    | some image =>
      simp only [Option.isSome_some, ↓reduceIte, listed]
      exact (preserves_keep view _ image none).bind fun _ => Attempt.preserves_pure view _

/-- Commands that show what there is, or work on the clouds and their registry alone. -/
def isAside : Command → Bool
  | .list _ _ | .kept _ | .setNow _ | .setRegistry _ | .files | .pathFor _ | .cloud _ _ | .state => true
  | .add _ _ | .addWritten _ _ | .persist _ _ | .get _ _ | .changeKept _ _ | .requestDeletion _ | .modify _ _ _
  | .listen _ _ _ _ | .unlisten _ | .writeFile _ _ | .makeFolder _ | .deleteFile _ | .deleteRoot | .load | .reopen
  | .open _ | .within _ _ _ | .scope _ _ | .reconcile _ => false

theorem step_aside {command : Command} (aside : isAside command = true) : (step command).Preserves view := by
  have done (answer : Answer) : (pure answer : Attempt Session Answer).Preserves view :=
    Attempt.preserves_pure view answer
  cases command with
  | list keep index => exact preserves_listStored view keep index
  | kept name => exact (preserves_keptImage view name).bind fun _ => done _
  | setNow now =>
    refine Attempt.Preserves.bind (Attempt.preserves_update fun session => ?_) fun _ => done _
    exact Overlooks.set session now session.registry
  | setRegistry registry =>
    refine Attempt.Preserves.bind (Attempt.preserves_update fun session => ?_) fun _ => done _
    exact Overlooks.set session session.now registry
  | files =>
    refine (Attempt.preserves_read view).bind fun before => ?_
    cases shown : before.files with
    | none => simpa only [shown] using Attempt.preserves_fail view _
    | some files => simpa only [shown] using done _
  | pathFor id =>
    refine (Attempt.preserves_read view).bind fun before => ?_
    cases before.disk with
    | none => exact (Attempt.preserves_fail view _).bind fun _ => (Attempt.preserves_of view _).bind fun _ => done _
    | some disk => exact (Attempt.preserves_of view _).bind fun _ => done _
  | cloud place command => exact (Attempt.preserves_read view).bind fun _ => preserves_callCloud view _ command
  | state => exact (Attempt.preserves_read view).bind fun _ => done _
  | add | addWritten | persist | get | changeKept | requestDeletion | modify | listen | unlisten | writeFile
  | makeFolder | deleteFile | deleteRoot | load | reopen | «open» | within | scope | reconcile => cases aside

/-- What is changed of a kept image shows in drafts and scopes at most. -/
theorem step_changeKept (scopes : ∀ session scopes, view { session with scopes } = view session) (name : String)
    (edit : Edit) : (step (.changeKept name edit)).Preserves view := by
  refine (preserves_keptImage view name).bind fun held => (Attempt.preserves_of view _).bind fun edited => ?_
  refine (preserves_emit view _).bind fun _ => ?_
  refine Attempt.Preserves.bind (Attempt.preserves_update fun session => ?_) fun _ => Attempt.preserves_pure view _
  unfold setHeld
  split
  · exact Overlooks.kept session _ session.kept
  · split
    · exact scopes session _
    · rfl

end

end ImageOperator.Session
