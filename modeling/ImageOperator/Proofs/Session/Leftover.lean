import ImageOperator.Proofs.Session.Lone
import ImageOperator.Proofs.Session.Trial

set_option autoImplicit false

namespace ImageOperator.Session

variable {id : ObjectId} {history : List (Session × Command)} {session : Session}

theorem Run.orderly {settings : Settings} {source : Source} {keep : Option String}
    (own : settings.factory = .perWorkspace)
    (ran : Run loneImport (Session.step (.add source keep) (start settings)).state history session) :
    session.scene.Orderly := by
  have permitted : jobsByPasses (start settings) (.add source keep) = true := rfl
  have first := (step_orderly permitted (start_orderly own)).1
  exact (ran.orderly_of (fun _ _ permitted => jobsByPasses_of_loneImport permitted) first).1

/-- All is known of an object that is stored at the end of a run over one image. -/
theorem Run.traced {settings : Settings} {source : Source} {keep : Option String} {image : Image}
    (own : settings.factory = .perWorkspace)
    (ran : Run loneImport (Session.step (.add source keep) (start settings)).state history session)
    (stored : session.stored? id = some image) :
    ∃ key, id.key? = some key ∧ session.scene.objects = [(key, image)] ∧
      Traced id image.spec.workspace history session.scene image := by
  obtain ⟨key, known, held⟩ := Option.bind_eq_some_iff.mp stored
  obtain ⟨workspaces, empty | ⟨first, original, keyed, only⟩⟩ := add_first source keep settings
  · have nothing : session.scene.objects = [] :=
      ran.holds empty fun before command permitted => step_empty permitted
    rw [nothing] at held
    cases held
  · have added : Run loneImport (Session.step (.add source keep) (start settings)).state [] _ := .rest
    have alone (id : ObjectId) (known : id.key? = some first) :
        Alone id original.spec.workspace history session.scene :=
      ran.alone (added.orderly own) (.there known only (traced_first workspaces (keyed.trans known.symm)))
    -- the object of the run is the one that was added, whatever identifier it is asked for by
    have same : id.key? = some first := by
      cases alone original.id keyed with
      | gone empty =>
        rw [empty] at held
        cases held
      | there own alone traced =>
        rw [alone] at held
        obtain ⟨rfl, -⟩ := Catalog.eq_of_get?_single held
        exact known.trans (own.symm.trans keyed)
    cases alone id same with
    | gone empty =>
      rw [empty] at held
      cases held
    | there own alone traced =>
      obtain rfl := Option.some.inj (known.symm.trans own)
      rw [alone] at held
      obtain ⟨-, rfl⟩ := Catalog.eq_of_get?_single held
      exact ⟨key, known, alone, traced.own.symm ▸ traced⟩

/-- What the pass that takes an object out of the store leaves in its workspace. -/
theorem left_by_pass {settings : Settings} {source : Source} {keep : Option String} {image : Image}
    (own : settings.factory = .perWorkspace)
    (ran : Run loneImport (step (.add source keep) (start settings)).state history session)
    (permitted : loneImport session (.reconcile id) = true) (stored : session.stored? id = some image)
    (gone : (step (.reconcile id) session).state.stored? id = none) :
    (∀ found ∈ ((step (.reconcile id) session).state.workspace image.spec.workspace).images,
        Materialised id image.spec.workspace history found) ∧
      ((∃ found, found ∈ ((step (.reconcile id) session).state.workspace image.spec.workspace).images) ↔
        overlooked id image.spec.workspace ((session, .reconcile id) :: history) = true) := by
  obtain ⟨key, known, alone, traced⟩ := ran.traced own stored
  have routine : (Command.reconcile id).isRoutine = true := rfl
  obtain ⟨after, notes, reached, noted, moves⟩ := step_moves routine session
  rw [stored?, known, Option.bind_some, reached] at gone
  rw [← scene_workspaces, reached]
  have still {objects : Catalog} {left : Image} (same : objects = [(key, left)]) (gone : objects.get? key = none) :
      False := by
    simp [same, Catalog.get?] at gone
  cases moves with
  | rests => exact (still alone gone).elim
  | adds brought adds => cases brought
  | reconciles told deeds reconciles =>
    rcases traced.reconciles known permitted (ran.orderly own) alone reached noted told deeds reconciles with
      ⟨-, made, left⟩ | ⟨left, there, -⟩
    · exact ⟨made, left⟩
    · exact (still there gone).elim

/-- In every run over one object in a workspace of its own, in whatever order jobs complete, passes are made and its
deletion is asked for: the pass that takes the object out of the store leaves an image that was imported for it exactly
if the image was overlooked. -/
theorem left_behind_iff_overlooked {settings : Settings} {source : Source} {keep : Option String} {image : Image}
    (own : settings.factory = .perWorkspace)
    (ran : Run loneImport (step (.add source keep) (start settings)).state history session)
    (permitted : loneImport session (.reconcile id) = true) (stored : session.stored? id = some image)
    (gone : (step (.reconcile id) session).state.stored? id = none) :
    (∃ found ∈ ((step (.reconcile id) session).state.workspace image.spec.workspace).images,
        Materialised id image.spec.workspace history found) ↔
      overlooked id image.spec.workspace ((session, .reconcile id) :: history) = true := by
  obtain ⟨made, left⟩ := left_by_pass own ran permitted stored gone
  rw [← left]
  constructor
  · rintro ⟨found, listed, -⟩
    exact ⟨found, listed⟩
  · rintro ⟨found, listed⟩
    exact ⟨found, listed, made found listed⟩

/-- The job completes, and a pass sees the image before its deletion is asked for. -/
def noticed : List Command :=
  [.reconcile (Trial.id "m"), .cloud none (.completeJob "job-1"), .reconcile (Trial.id "m"),
    .requestDeletion (Trial.id "m")]

theorem left_behind_iff_overlooked_of_noticed :
    permits loneImport Trial.lone noticed = true ∧
      loneImport (Trial.lone.after noticed) (.reconcile (Trial.id "m")) = true ∧
      (step (.reconcile (Trial.id "m")) (Trial.lone.after noticed)).state.stored? (Trial.id "m") = none ∧
      ∃ image, (Trial.lone.after noticed).stored? (Trial.id "m") = some image ∧
        ((∃ found ∈ ((step (.reconcile (Trial.id "m")) (Trial.lone.after noticed)).state.workspace
              image.spec.workspace).images,
            Materialised (Trial.id "m") image.spec.workspace (Trial.lone.past [] noticed) found) ↔
          overlooked (Trial.id "m") image.spec.workspace
            ((Trial.lone.after noticed, .reconcile (Trial.id "m")) :: Trial.lone.past [] noticed) = true) := by
  have permitted : permits loneImport Trial.lone noticed = true := by decide +kernel
  have last : loneImport (Trial.lone.after noticed) (.reconcile (Trial.id "m")) = true := by decide +kernel
  have held : ((Trial.lone.after noticed).stored? (Trial.id "m")).isSome = true := by decide +kernel
  have gone : (step (.reconcile (Trial.id "m")) (Trial.lone.after noticed)).state.stored? (Trial.id "m") = none := by
    refine Option.isNone_iff_eq_none.mp ?_
    decide +kernel
  have own : Trial.settings.factory = .perWorkspace := rfl
  obtain ⟨image, stored⟩ := Option.isSome_iff_exists.mp held
  have ran : Run loneImport Trial.lone (Trial.lone.past [] noticed) (Trial.lone.after noticed) :=
    Run.rest.after permitted
  exact ⟨permitted, last, gone, image, stored, left_behind_iff_overlooked own ran last stored gone⟩

/-- The job completes, and the deletion is asked for before a pass sees the image. -/
def overtaken : List Command :=
  [.reconcile (Trial.id "m"), .cloud none (.completeJob "job-1"), .requestDeletion (Trial.id "m")]

theorem left_behind_of_overtaken :
    permits loneImport Trial.lone overtaken = true ∧
      loneImport (Trial.lone.after overtaken) (.reconcile (Trial.id "m")) = true ∧
      ((Trial.lone.after overtaken).stored? (Trial.id "m")).map (·.spec.workspace) = some "w" ∧
      (step (.reconcile (Trial.id "m")) (Trial.lone.after overtaken)).state.stored? (Trial.id "m") = none ∧
      ∃ found ∈ ((step (.reconcile (Trial.id "m")) (Trial.lone.after overtaken)).state.workspace "w").images,
        found.imageId = "image-2" ∧ Materialised (Trial.id "m") "w" (Trial.lone.past [] overtaken) found := by
  have permitted : permits loneImport Trial.lone overtaken = true := by decide +kernel
  have last : loneImport (Trial.lone.after overtaken) (.reconcile (Trial.id "m")) = true := by decide +kernel
  have held : ((Trial.lone.after overtaken).stored? (Trial.id "m")).map (·.spec.workspace) = some "w" := by
    decide +kernel
  have gone : (step (.reconcile (Trial.id "m")) (Trial.lone.after overtaken)).state.stored? (Trial.id "m") = none := by
    refine Option.isNone_iff_eq_none.mp ?_
    decide +kernel
  have listed : ((step (.reconcile (Trial.id "m")) (Trial.lone.after overtaken)).state.workspace "w").images.map
      (·.imageId) = ["image-2"] := by decide +kernel
  have own : Trial.settings.factory = .perWorkspace := rfl
  have ran : Run loneImport Trial.lone (Trial.lone.past [] overtaken) (Trial.lone.after overtaken) :=
    Run.rest.after permitted
  obtain ⟨image, stored, place⟩ := Option.map_eq_some_iff.mp held
  obtain ⟨made, -⟩ := left_by_pass own ran last stored gone
  rw [place] at made
  obtain ⟨found, member, title⟩ := List.mem_map.mp (listed ▸ List.mem_cons_self : "image-2" ∈ List.map _ _)
  exact ⟨permitted, last, held, gone, found, member, title, made found member⟩

end ImageOperator.Session
