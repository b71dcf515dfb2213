import ImageOperator.Proofs.Scope.Sight

set_option autoImplicit false

/-!
Which image a status names, and which images are listed, before and after a pass: a pass takes the identifier from a
listed image of the name of its own, and deletes at most the image that the status names.
-/

namespace ImageOperator

namespace Pass

open Bench (Ensures)

/-- What a pass makes of the image that the status names, and of the images that are listed. -/
inductive Identifies (bench after : Bench) : Prop
  | keeps (same : after.image.status.imageId = bench.image.status.imageId ∨ after.image.status.imageId = "")
      (images : after.workspace.images = bench.workspace.images)
  | finds {found : CloudImage} (first : bench.match? = some found)
      (taken : after.image.status.imageId = found.imageId) (images : after.workspace.images = bench.workspace.images)
  | deletes (requested : bench.image.deletionRequested = true) (named : bench.image.status.imageId ≠ "")
      (same : after.image.status.imageId = bench.image.status.imageId ∨ after.image.status.imageId = "")
      (images : after.workspace.images = bench.workspace.images.eraseP (·.imageId = bench.image.status.imageId))

variable {bench middle after : Bench}

/-- What goes on with the same image and the same list. -/
theorem Identifies.andThen (identifies : Identifies bench middle)
    (imageId : after.image.status.imageId = middle.image.status.imageId)
    (images : after.workspace.images = middle.workspace.images) : Identifies bench after := by
  cases identifies with
  | keeps same listed => exact .keeps (imageId ▸ same) (images.trans listed)
  | finds first taken listed => exact .finds first (imageId.trans taken) (images.trans listed)
  | deletes requested named same listed => exact .deletes requested named (imageId ▸ same) (images.trans listed)

theorem ensures_images {outcome : Outcome Bench Ensured} (ensured : Ensures bench outcome) :
    outcome.state.workspace.images = bench.workspace.images := by
  cases ensured <;> rfl

theorem Normal.identifies {config : Config} {outcome : Outcome Bench Requeue} (normal : Normal config bench outcome) :
    Identifies bench outcome.state := by
  have status : bench.image.guarded.status.imageId = bench.image.status.imageId := by rw [Image.guarded_status]
  cases normal with
  | unasked looked | failed looked => exact .keeps (.inl status) looked.alike.images
  | unsettled looked ensured => exact .keeps (.inl status) ((ensures_images ensured).trans looked.alike.images)
  | created looked ensured | pending looked ensured =>
    exact .keeps (.inr rfl) ((ensures_images ensured).trans looked.alike.images)
  | @found found middle after first second looked ensured =>
    have listed : middle.images = bench.workspace.images := looked.alike.images
    cases ensured with
    | found calm matched =>
      refine .finds ?_ rfl listed
      rw [← matched, Bench.match?, Bench.match?, listed, Image.guarded_name]

theorem ClearsImage.identifies {outcome : Outcome Bench Unit} (clears : ClearsImage bench outcome)
    (requested : bench.image.deletionRequested = true) : Identifies bench outcome.state := by
  cases clears with
  | blank unnamed => exact .keeps (.inl rfl) rfl
  | refused named called failed =>
    obtain ⟨-, -, ⟨-, erased⟩ | ⟨_, -, within⟩⟩ := Workspace.deleteImage_cases called
    · exact .deletes requested named (.inl rfl) erased
    · exact .keeps (.inl rfl) within.images
  | cleared named called done =>
    obtain ⟨-, -, ⟨-, erased⟩ | ⟨_, -, within⟩⟩ := Workspace.deleteImage_cases called
    · exact .deletes requested named (.inr rfl) erased
    · exact .keeps (.inr rfl) within.images

theorem ClearsJob.identity {outcome : Outcome Bench Unit} (clears : ClearsJob bench outcome) :
    outcome.state.image.status.imageId = bench.image.status.imageId ∧
      outcome.state.workspace.images = bench.workspace.images := by
  cases clears with
  | blank unnamed => exact ⟨rfl, rfl⟩
  | refused named called failed | cleared named called done =>
    exact ⟨rfl, (Workspace.deleteJob_within called).2.images⟩

theorem Deletes.identifies {outcome : Outcome Bench Requeue} (deletes : Deletes bench outcome)
    (requested : bench.image.deletionRequested = true) : Identifies bench outcome.state := by
  cases deletes with
  | imageRefused image => exact image.identifies requested
  | jobRefused image job | cleared image job =>
    obtain ⟨imageId, images⟩ := job.identity
    exact (image.identifies requested).andThen imageId images

theorem Works.identifies {config : Config} {outcome : Outcome Bench Requeue} (works : Works config bench outcome) :
    Identifies bench outcome.state := by
  cases works with
  | kept kept normal => exact normal.identifies
  | requested requested deletes => exact deletes.identifies requested

end Pass

end ImageOperator
