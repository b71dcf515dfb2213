import ImageOperator.Proofs.Cloud.Orderly
import ImageOperator.Proofs.Scope.Clear

set_option autoImplicit false

namespace ImageOperator

/-- Whether a delete is answered as if its target were not there. -/
def tellsAbsent : Except Fault Unit → Bool
  | .error fault => fault.category = .cloudAbsent
  | .ok _ => false

namespace Workspace

/-- Whether a call is to delete an image that is listed and is answered as if the image were not there. -/
def denies (workspace : Workspace) : Call → Bool
  | .deleteImage imageId =>
    workspace.images.any (·.imageId = imageId) && tellsAbsent (deleteImage imageId workspace).result
  | _ => false

end Workspace

def Note.isDenial : Note → Bool
  | .called workspace call => workspace.denies call
  | _ => false

/-- Whether some delete of a listed image was answered as if the image were not there. -/
def denied (notes : List Note) : Bool :=
  notes.any Note.isDenial

@[simp] theorem denied_nil : denied [] = false := rfl

@[simp] theorem denied_append (first second : List Note) :
    denied (first ++ second) = (denied first || denied second) :=
  List.any_append

theorem denied_of_called {imageId : String} {workspace after : Workspace} {result : Except Fault Unit}
    {notes : List Note} (called : (Workspace.deleteImage imageId).bare workspace = ⟨result, after, notes⟩) :
    denied notes = (workspace.images.any (·.imageId = imageId) && tellsAbsent result) := by
  have answered : (Workspace.deleteImage imageId workspace).result = result := by rw [← Attempt.bare_result, called]
  obtain ⟨rfl, -⟩ := Workspace.deleteImage_cases called
  simp only [denied, List.any_cons, List.any_nil, Bool.or_false, Note.isDenial, Workspace.denies, answered]

open Workspace (Within Ended)

/-- The workspace lists one image, which has the name of the object, and no job is on its way. -/
structure Listed (image : Image) (workspace : Workspace) (found : CloudImage) : Prop where
  only : workspace.images = [found]
  own : found.name.same image.name = true
  named : found.imageId ≠ ""
  ended : workspace.Ended

/-- How an object stands to the workspace of its own: nothing is listed there, or one image is. The index tells whether
an image is listed that the status does not name. -/
inductive Stands (image : Image) (workspace : Workspace) : Bool → Prop
  | clear (empty : workspace.images = []) (free : image.status.imageId = "" ∨ workspace.Ended) :
      Stands image workspace false
  | unseen {found : CloudImage} (listed : Listed image workspace found) (blank : image.status.imageId = "") :
      Stands image workspace true
  | recorded {found : CloudImage} (listed : Listed image workspace found)
      (named : image.status.imageId = found.imageId) (guarded : image.isGuarded = true) :
      Stands image workspace false

theorem Listed.of_same {before after : Image} {workspace later : Workspace} {found : CloudImage}
    (listed : Listed before workspace found) (within : Within workspace later) (name : after.name = before.name) :
    Listed after later found where
  only := within.images.trans listed.only
  own := name ▸ listed.own
  named := listed.named
  ended := listed.ended.within within

theorem Listed.match? {image : Image} {workspace : Workspace} {found : CloudImage}
    (listed : Listed image workspace found) : Bench.match? ⟨image, workspace⟩ = some found := by
  simp [Bench.match?, listed.only, listed.own]

namespace Stands

variable {image : Image} {workspace : Workspace} {left : Bool}

theorem of_same {after : Image} {later : Workspace} (stands : Stands image workspace left)
    (within : Within workspace later) (name : after.name = image.name)
    (imageId : after.status.imageId = image.status.imageId)
    (guarded : image.status.imageId ≠ "" → image.isGuarded = true → after.isGuarded = true) :
    Stands after later left := by
  cases stands with
  | clear empty free =>
    refine .clear (within.images.trans empty) ?_
    rcases free with blank | ended
    · exact .inl (imageId.trans blank)
    · exact .inr (ended.within within)
  | unseen listed blank => exact .unseen (listed.of_same within name) (imageId.trans blank)
  | recorded listed named still =>
    have filled : image.status.imageId ≠ "" := named ▸ listed.named
    exact .recorded (listed.of_same within name) (imageId.trans named) (guarded filled still)

theorem within {later : Workspace} (stands : Stands image workspace left) (within : Within workspace later) :
    Stands image later left :=
  stands.of_same within rfl rfl fun _ guarded => guarded

/-- What is left unnamed is so because the status names nothing. -/
theorem blank_and (stands : Stands image workspace left) :
    (decide (image.status.imageId = "") && left) = left := by
  cases stands with
  | clear empty free => exact Bool.and_false _
  | unseen listed blank => simp [blank]
  | recorded listed named guarded => exact Bool.and_false _

theorem of_absent (stands : Stands image workspace left) (absent : Bench.match? ⟨image, workspace⟩ = none) :
    workspace.images = [] ∧ left = false := by
  cases stands with
  | clear empty free => exact ⟨empty, rfl⟩
  | unseen listed blank =>
    rw [listed.match?] at absent
    cases absent
  | recorded listed named guarded =>
    rw [listed.match?] at absent
    cases absent

theorem of_found {found : CloudImage} (stands : Stands image workspace left)
    (first : Bench.match? ⟨image, workspace⟩ = some found) : Listed image workspace found := by
  cases stands with
  | clear empty free =>
    simp [Bench.match?, empty] at first
  | unseen listed blank =>
    obtain rfl := Option.some.inj (listed.match?.symm.trans first)
    exact listed
  | recorded listed named guarded =>
    obtain rfl := Option.some.inj (listed.match?.symm.trans first)
    exact listed

/-- While a job is on its way, nothing is listed and the status names no image. -/
theorem of_running (stands : Stands image workspace left) {record : JobRecord} (held : record ∈ workspace.jobs)
    (running : record.job.state.isTerminal = false) :
    workspace.images = [] ∧ image.status.imageId = "" ∧ left = false := by
  have contrary (ended : workspace.Ended) : False := by
    rw [ended record held] at running
    cases running
  cases stands with
  | clear empty free =>
    rcases free with blank | ended
    · exact ⟨empty, blank, rfl⟩
    · exact (contrary ended).elim
  | unseen listed blank => exact (contrary listed.ended).elim
  | recorded listed named guarded => exact (contrary listed.ended).elim

/-- When the object may leave, an image is listed exactly if it is one that the status does not name. -/
theorem listed_iff (stands : Stands image workspace left) (leaving : Depot.leaves image = true) :
    (∃ found, found ∈ workspace.images) ↔ left = true := by
  cases stands with
  | clear empty free => simp [empty]
  | unseen listed blank => simp [listed.only]
  | recorded listed named guarded =>
    rw [Image.isGuarded_of_leaves leaving] at guarded
    cases guarded

end Stands

namespace Pass

open Bench (Ensures)

theorem Looks.alike {bench : Bench} {outcome : Outcome Bench (Option Job)} (looked : Looks bench outcome) :
    Workspace.Alike bench.workspace outcome.state.workspace := by
  cases looked with
  | untracked idle => exact .refl _
  | unasked failed | unfailed tracked other | failed tracked latest own state => exact Workspace.alike_written _ _

theorem Looks.within {bench : Bench} {outcome : Outcome Bench (Option Job)} (looked : Looks bench outcome) :
    Within bench.workspace outcome.state.workspace ∧ denied outcome.notes = false := by
  refine ⟨looked.alike.within, ?_⟩
  cases looked <;> rfl

theorem ensures_denied {bench : Bench} {outcome : Outcome Bench Ensured} (ensured : Ensures bench outcome) :
    denied outcome.notes = false := by
  cases ensured <;> rfl

/-- Unless a job was created, making sure that an image exists changes nothing. -/
theorem ensures_alike {bench : Bench} {outcome : Outcome Bench Ensured} (ensured : Ensures bench outcome)
    (other : ∀ jobId, outcome.result ≠ .ok (.created jobId)) :
    Workspace.Alike bench.workspace outcome.state.workspace := by
  cases ensured with
  | unlisted failed | found calm first | unasked absent failed | pending absent latest running
  | unrequested absent free failed => exact ⟨rfl, rfl, rfl, rfl⟩
  | created absent free calm => exact absurd rfl (other _)

theorem ensures_within {bench : Bench} {outcome : Outcome Bench Ensured} (ensured : Ensures bench outcome)
    (other : ∀ jobId, outcome.result ≠ .ok (.created jobId)) : Within bench.workspace outcome.state.workspace :=
  (ensures_alike ensured other).within

/-- A pass over an image that is to be kept names the image that is listed, or has the status name none. -/
theorem Normal.stands {config : Config} {bench : Bench} {outcome : Outcome Bench Requeue} {left : Bool}
    (normal : Normal config bench outcome) (stands : Stands bench.image bench.workspace left) :
    Stands outcome.state.image outcome.state.workspace
        (decide (outcome.state.image.status.imageId = "") && left) ∧
      denied outcome.notes = false := by
  have looking {middle : Workspace} {result : Except Fault (Option Job)} {notes : List Note}
      (looked : Looks ⟨bench.image.guarded, bench.workspace⟩ ⟨result, ⟨bench.image.guarded, middle⟩, notes⟩) :
      Stands bench.image.guarded middle left ∧ denied notes = false := by
    obtain ⟨within, quiet⟩ := looked.within
    refine ⟨stands.of_same within bench.image.guarded_name ?_ fun _ _ => bench.image.guarded_isGuarded, quiet⟩
    rw [bench.image.guarded_status]
  cases normal with
  | unasked looked =>
    obtain ⟨looking, quiet⟩ := looking looked
    exact ⟨looking.blank_and.symm ▸ looking, quiet⟩
  | failed looked =>
    obtain ⟨looking, quiet⟩ := looking looked
    have failed : Stands (bench.image.guarded.withStatus (·.failed)) _ left :=
      looking.of_same (.refl _) rfl rfl fun _ guarded => guarded
    exact ⟨failed.blank_and.symm ▸ failed, quiet⟩
  | unsettled looked ensured =>
    obtain ⟨looking, quiet⟩ := looking looked
    have after := looking.within (ensures_within ensured nofun)
    exact ⟨after.blank_and.symm ▸ after, by rw [denied_append, quiet, ensures_denied ensured]; rfl⟩
  | @found image _ _ _ _ looked ensured =>
    obtain ⟨looking, quiet⟩ := looking looked
    have within := ensures_within ensured nofun
    refine ⟨?_, by rw [denied_append, quiet, ensures_denied ensured]; rfl⟩
    cases ensured with
    | found calm first =>
      have listed : Listed (bench.image.guarded.withStatus (·.available image.imageId)) _ image :=
        (looking.of_found first).of_same within rfl
      have filled : decide (image.imageId = "") = false := by simpa using listed.named
      change Stands _ _ (decide (image.imageId = "") && left)
      rw [filled]
      exact .recorded listed rfl bench.image.guarded_isGuarded
  | created looked ensured =>
    obtain ⟨looking, quiet⟩ := looking looked
    refine ⟨?_, by rw [denied_append, quiet, ensures_denied ensured]; rfl⟩
    cases ensured with
    | created absent free calm =>
      obtain ⟨empty, rfl⟩ := looking.of_absent absent
      rw [Bool.and_false]
      exact .clear empty (.inl rfl)
  | pending looked ensured =>
    obtain ⟨looking, quiet⟩ := looking looked
    refine ⟨?_, by rw [denied_append, quiet, ensures_denied ensured]; rfl⟩
    cases ensured with
    | pending absent latest running =>
      obtain ⟨empty, rfl⟩ := looking.of_absent absent
      rw [Bool.and_false]
      exact .clear empty (.inl rfl)

theorem ClearsImage.within_of_refused {bench after : Bench} {fault : Fault} {notes : List Note}
    (clears : ClearsImage bench ⟨.error fault, after, notes⟩) :
    Within bench.workspace after.workspace ∧ denied notes = false := by
  cases clears with
  | refused named called failed =>
    have told := denied_of_called called
    obtain ⟨-, -, ⟨rfl, -⟩ | ⟨cause, rfl, within⟩⟩ := Workspace.deleteImage_cases called
    · cases failed
    · have present : cause.category ≠ .cloudAbsent := by
        intro absent
        simp [Bench.settled, absent] at failed
      exact ⟨within, by simp [told, tellsAbsent, present]⟩

theorem ClearsImage.within_of_broken {bench after : Bench} {notes : List Note}
    (clears : ClearsImage bench ⟨.ok (), after, notes⟩) (broken : after.image.status.isConsistent = false) :
    Within bench.workspace after.workspace ∧ denied notes = false := by
  cases clears with
  | blank unnamed => exact ⟨.refl _, rfl⟩
  | cleared named called done => cases broken

/-- Clearing the image has the status name none; the image stays only where it is denied to be there. -/
theorem ClearsImage.stands {bench : Bench} {outcome : Outcome Bench Unit} {left : Bool}
    (clears : ClearsImage bench outcome) (stands : Stands bench.image bench.workspace left) :
    Stands outcome.state.image outcome.state.workspace (denied outcome.notes || left) := by
  cases clears with
  | blank unnamed => exact stands
  | @refused fault after notes result named called failed =>
    have refused : ClearsImage bench ⟨.error fault, ⟨bench.image, after⟩, notes⟩ := .refused named called failed
    obtain ⟨within, quiet⟩ := refused.within_of_refused
    change Stands bench.image after (denied notes || left)
    rw [quiet]
    exact stands.within within
  | @cleared after notes result named called done =>
    have told := denied_of_called called
    change Stands (bench.image.withStatus (·.withoutImage)) after (denied notes || left)
    obtain ⟨-, jobs, ⟨rfl, images⟩ | ⟨cause, rfl, within⟩⟩ := Workspace.deleteImage_cases called
    · have quiet : denied notes = false := by simp [told, tellsAbsent]
      rw [quiet]
      cases stands with
      | clear empty free => exact .clear (by rw [images, empty]; rfl) (.inl rfl)
      | unseen listed blank => exact absurd blank named
      | recorded listed same guarded => exact .clear (by simp [images, listed.only, same]) (.inl rfl)
    · have absent : cause.category = .cloudAbsent := by
        refine Decidable.byContradiction fun present => ?_
        simp [Bench.settled, present] at done
      cases stands with
      | clear empty free =>
        have quiet : denied notes = false := by simp [told, empty]
        rw [quiet]
        exact .clear (within.images.trans empty) (.inl rfl)
      | unseen listed blank => exact absurd blank named
      | recorded listed same guarded =>
        have lost : denied notes = true := by simp [told, tellsAbsent, absent, listed.only, same]
        rw [lost]
        exact .unseen (listed.of_same within rfl) rfl

theorem ClearsImage.blank_of_ok {bench after : Bench} {notes : List Note}
    (clears : ClearsImage bench ⟨.ok (), after, notes⟩) : after.image.status.imageId = "" := by
  cases clears with
  | blank unnamed => exact unnamed
  | cleared named called done => rfl

theorem ClearsJob.within {bench : Bench} {outcome : Outcome Bench Unit} (clears : ClearsJob bench outcome) :
    Within bench.workspace outcome.state.workspace ∧ denied outcome.notes = false := by
  cases clears with
  | blank unnamed => exact ⟨.refl _, rfl⟩
  | refused named called failed =>
    obtain ⟨rfl, within⟩ := Workspace.deleteJob_within called
    exact ⟨within, rfl⟩
  | cleared named called done =>
    obtain ⟨rfl, within⟩ := Workspace.deleteJob_within called
    exact ⟨within, rfl⟩

theorem ClearsJob.stands {bench : Bench} {outcome : Outcome Bench Unit} {left : Bool}
    (clears : ClearsJob bench outcome) (stands : Stands bench.image bench.workspace left) :
    Stands outcome.state.image outcome.state.workspace left := by
  have within := clears.within.1
  cases clears with
  | blank unnamed => exact stands
  | refused named called failed => exact stands.within within
  | cleared named called done => exact stands.of_same within rfl rfl fun _ guarded => guarded

theorem Deletes.stands {bench : Bench} {outcome : Outcome Bench Requeue} {left : Bool}
    (deletes : Deletes bench outcome) (stands : Stands bench.image bench.workspace left) :
    Stands outcome.state.image outcome.state.workspace (denied outcome.notes || left) := by
  cases deletes with
  | imageRefused image => exact image.stands stands
  | @jobRefused fault middle after first second image job =>
    have cleared := job.stands (image.stands stands)
    have quiet : denied second = false := job.within.2
    rw [denied_append, quiet, Bool.or_false]
    exact cleared
  | @cleared middle after first second image job =>
    have cleared := job.stands (image.stands stands)
    have quiet : denied second = false := job.within.2
    have blank : after.image.status.imageId = "" := job.done.2.1.trans image.blank_of_ok
    rw [denied_append, quiet, Bool.or_false]
    exact cleared.of_same (.refl _) rfl rfl fun named => absurd blank named

/-- After a pass an image is left unnamed if one was before or was denied to be there, unless the pass found it. -/
theorem Works.stands {config : Config} {bench : Bench} {outcome : Outcome Bench Requeue} {left : Bool}
    (works : Works config bench outcome) (stands : Stands bench.image bench.workspace left) :
    Stands outcome.state.image outcome.state.workspace
      (decide (outcome.state.image.status.imageId = "") && (denied outcome.notes || left)) := by
  cases works with
  | kept kept normal =>
    obtain ⟨after, quiet⟩ := normal.stands stands
    rw [quiet]
    exact after
  | requested requested deletes =>
    have after := deletes.stands stands
    exact after.blank_and.symm ▸ after

/-- A pass after which the object may leave has left an image behind if one was unnamed before or was denied to be
there. -/
theorem Works.listed_iff {config : Config} {bench : Bench} {outcome : Outcome Bench Requeue} {left : Bool}
    (works : Works config bench outcome) (stands : Stands bench.image bench.workspace left)
    (leaving : Depot.leaves outcome.state.image = true) :
    (∃ found, found ∈ outcome.state.workspace.images) ↔ (denied outcome.notes || left) = true := by
  cases works with
  | kept kept normal =>
    have unguarded := Image.isGuarded_of_leaves leaving
    rw [normal.isGuarded] at unguarded
    cases unguarded
  | requested requested deletes => exact (deletes.stands stands).listed_iff leaving

/-- A pass that ends in a status that is not consistent has neither created nor deleted an image or a job, unless it
was the job of the status. -/
theorem Works.within_of_broken {config : Config} {bench : Bench} {outcome : Outcome Bench Requeue}
    (works : Works config bench outcome) (broken : outcome.state.image.status.isConsistent = false) :
    Within bench.workspace outcome.state.workspace ∧ denied outcome.notes = false := by
  cases works with
  | kept kept normal =>
    cases normal with
    | unasked looked => exact looked.within
    | failed looked => exact looked.within
    | unsettled looked ensured | found looked ensured | pending looked ensured =>
      obtain ⟨within, quiet⟩ := looked.within
      refine ⟨within.trans (ensures_within ensured nofun), ?_⟩
      rw [denied_append, quiet, ensures_denied ensured]
      rfl
    | created looked ensured => cases broken
  | requested requested deletes =>
    cases deletes with
    | imageRefused image => exact image.within_of_refused
    | jobRefused image job | cleared image job =>
      obtain ⟨first, quiet⟩ := image.within_of_broken (job.isConsistent.symm.trans broken)
      obtain ⟨second, silent⟩ := job.within
      refine ⟨first.trans second, ?_⟩
      rw [denied_append, quiet, silent]
      rfl

/-- A workspace that may hold less than another one, and besides that no more than jobs that were asked for under a
name by the noted calls. -/
structure Grown (name : Value) (notes : List Note) (before after : Workspace) : Prop where
  images : ∀ found ∈ after.images, found ∈ before.images
  jobs : ∀ record ∈ after.jobs, record ∈ before.jobs ∨ record.request.imageName = name ∧
    ∃ workspace, .called workspace (.createJob record.request) ∈ notes ∧
      workspace.instanceId = before.instanceId ∧
        (Workspace.createJob record.request workspace).result = .ok record.job.jobId

theorem grown_of_within {name : Value} {notes : List Note} {before after : Workspace} (within : Within before after) :
    Grown name notes before after where
  images := by
    rw [within.images]
    exact fun _ held => held
  jobs := fun record held => .inl (within.jobs record held)

theorem Normal.grown {config : Config} {bench : Bench} {outcome : Outcome Bench Requeue}
    (normal : Normal config bench outcome) :
    Grown bench.image.name outcome.notes bench.workspace outcome.state.workspace := by
  cases normal with
  | unasked looked => exact grown_of_within looked.within.1
  | failed looked => exact grown_of_within looked.within.1
  | unsettled looked ensured | found looked ensured | pending looked ensured =>
    exact grown_of_within (looked.within.1.trans (ensures_within ensured nofun))
  | @created jobId middle after first second looked ensured =>
    have alike := looked.alike
    cases ensured with
    | created absent free calm =>
      have made : (Workspace.createJob (Bench.importRequest bench.image.guarded)).bare _ = _ :=
        Workspace.createJob_of_calm calm
      refine ⟨fun found held => alike.images ▸ held, fun record held => ?_⟩
      rcases List.mem_append.mp held with old | new
      · exact .inl (alike.jobs ▸ old)
      · obtain rfl := List.mem_singleton.mp new
        refine .inr ⟨bench.image.guarded_name, (Bench.mk bench.image.guarded middle).asked,
          List.mem_append_right _ ?_, alike.instanceId, ?_⟩
        · exact List.mem_cons_of_mem _ (List.mem_cons_of_mem _ List.mem_cons_self)
        · rw [← Attempt.bare_result, made]
          rfl

theorem Deletes.grown {bench : Bench} {outcome : Outcome Bench Requeue} (deletes : Deletes bench outcome) :
    Grown bench.image.name outcome.notes bench.workspace outcome.state.workspace := by
  have fewer {middle : Bench} {notes : List Note} (image : ClearsImage bench ⟨.ok (), middle, notes⟩) :
      (∀ found ∈ middle.workspace.images, found ∈ bench.workspace.images) ∧
        middle.workspace.jobs = bench.workspace.jobs := by
    cases image with
    | blank unnamed => exact ⟨fun _ held => held, rfl⟩
    | cleared named called done =>
      obtain ⟨-, jobs, ⟨-, images⟩ | ⟨cause, -, within⟩⟩ := Workspace.deleteImage_cases called
      · refine ⟨fun found held => ?_, jobs⟩
        rw [images] at held
        exact List.eraseP_subset held
      · exact ⟨fun found held => within.images ▸ held, jobs⟩
  cases deletes with
  | imageRefused image => exact grown_of_within image.within_of_refused.1
  | jobRefused image job | cleared image job =>
    obtain ⟨images, jobs⟩ := fewer image
    obtain ⟨within, -⟩ := job.within
    refine ⟨fun found held => images found (within.images ▸ held), fun record held => .inl ?_⟩
    exact jobs ▸ within.jobs record held

theorem Works.grown {config : Config} {bench : Bench} {outcome : Outcome Bench Requeue}
    (works : Works config bench outcome) :
    Grown bench.image.name outcome.notes bench.workspace outcome.state.workspace := by
  cases works with
  | kept kept normal => exact normal.grown
  | requested requested deletes => exact deletes.grown

end Pass

end ImageOperator
