import ImageOperator.Proofs.Store.Refused

set_option autoImplicit false

/-!
What a listener is told determines the objects of a store: replayed in order, it turns the objects as they were into
the objects as they are.
-/

namespace ImageOperator

/-- What a listener is told of one change. -/
structure Notice where
  change : Change
  id : ObjectId
  image : Image

/-- What a listener is told, if a note is of telling it. -/
def Note.notice? (listener : String) : Note → Option Notice
  | .fired told change id image => if told = listener then some ⟨change, id, image⟩ else none
  | _ => none

/-- All that a listener is told among notes, in order. -/
def notices (listener : String) (notes : List Note) : List Notice :=
  notes.filterMap (Note.notice? listener)

@[simp] theorem notices_append (listener : String) (notes more : List Note) :
    notices listener (notes ++ more) = notices listener notes ++ notices listener more :=
  List.filterMap_append

/-- A listener is told by stores only. -/
theorem notices_filter_isOfStore (listener : String) (notes : List Note) :
    notices listener (notes.filter Note.isOfStore) = notices listener notes :=
  Note.filterMap_filter (fun note other => by cases note <;> first | rfl | cases other) notes

theorem notices_of_isOfStore {listener : String} {notes : List Note} (apart : notes.filter Note.isOfStore = []) :
    notices listener notes = [] := by
  rw [← notices_filter_isOfStore, apart]
  rfl

namespace Catalog

/-- The catalog after a notice: an image that was added or persisted is put under its identifier, one that was removed
goes. -/
def heed (catalog : Catalog) (notice : Notice) : Catalog :=
  match notice.id.key? with
  | none => catalog
  | some key =>
    match notice.change with
    | .added | .persisted => catalog.put key notice.image
    | .removed => catalog.erase key

/-- The catalog that notices make of another, one after the other. -/
def replay (catalog : Catalog) (notices : List Notice) : Catalog :=
  notices.foldl heed catalog

theorem replay_append (catalog : Catalog) (notices more : List Notice) :
    catalog.replay (notices ++ more) = (catalog.replay notices).replay more :=
  List.foldl_append

/-- To be told once more changes nothing. -/
theorem heed_heed (catalog : Catalog) (notice : Notice) : (catalog.heed notice).heed notice = catalog.heed notice := by
  obtain ⟨change, id, image⟩ := notice
  unfold heed
  cases known : id.key? with
  | none => rfl
  | some key =>
    cases change with
    | added | persisted => exact put_of_get? (get?_put_self catalog key image)
    | removed => simp [erase]

theorem replay_replicate (catalog : Catalog) (notice : Notice) {count : Nat} (some : 0 < count) :
    catalog.replay (List.replicate count notice) = catalog.heed notice := by
  induction count generalizing catalog with
  | zero => exact absurd some (Nat.lt_irrefl 0)
  | succ count ih =>
    change (catalog.heed notice).replay (List.replicate count notice) = catalog.heed notice
    by_cases last : 0 < count
    · rw [ih _ last, heed_heed]
    · obtain rfl : count = 0 := by omega
      rfl

end Catalog

namespace Audience

variable {listener : String}

/-- An audience with a listener that is registered for every change, and that nobody has a handle to take away. -/
structure Hears (listener : String) (audience : Audience) : Prop where
  registered : ∀ change, ∃ registration ∈ audience.registrations,
    registration.change = change ∧ registration.listener = listener
  held : ∀ remover ∈ audience.removers, remover.listener ≠ listener

theorem hears_standard : standard.Hears "default" where
  registered change := ⟨⟨change, "default", .records⟩, List.mem_map_of_mem (by cases change <;> decide), rfl, rfl⟩
  held _ none := absurd none List.not_mem_nil

theorem Hears.register {audience : Audience} (hears : audience.Hears listener) {registration : Registration}
    (other : registration.listener ≠ listener) (handle : String) :
    (audience.register registration handle).Hears listener := by
  constructor
  · intro change
    obtain ⟨own, registered, same⟩ := hears.registered change
    exact ⟨own, List.mem_append_left _ registered, same⟩
  · intro remover held
    rcases List.mem_cons.mp held with rfl | old
    · exact other
    · exact hears.held remover old

theorem Hears.remove {audience : Audience} (hears : audience.Hears listener) {remover : Remover}
    (held : remover ∈ audience.removers) : (audience.remove remover).Hears listener := by
  constructor
  · intro change
    obtain ⟨own, registered, same, listens⟩ := hears.registered change
    refine ⟨own, (List.mem_eraseP_of_neg ?_).mpr registered, same, listens⟩
    have apart := hears.held remover held
    simp [listens, apart.symm]
  · exact hears.held

theorem Hears.act (acts : List Act) {audience : Audience} (hears : audience.Hears listener) (image : Image) :
    (Audience.act acts audience image).1.Hears listener := by
  induction acts generalizing audience image with
  | nil => exact hears
  | cons act rest ih =>
    cases act with
    | edit change => exact ih hears _
    | fail => exact hears
    | unlisten handle =>
      simp only [Audience.act]
      cases found : audience.remover? handle with
      | none => exact hears
      | some remover => exact ih (hears.remove (List.mem_of_find?_eq_some found)) image

theorem Hears.react {audience : Audience} (hears : audience.Hears listener) (registration : Registration)
    (change : Change) (id : ObjectId) (image : Image) :
    (audience.react registration change id image).1.Hears listener := by
  have lived : (audience.live (.told registration.listener change id image)).Hears listener :=
    ⟨hears.registered, hears.held⟩
  exact lived.act _ image

theorem Hears.tell {change : Change} {id : ObjectId} {image : Image} (registrations : List Registration)
    {audience : Audience} (hears : audience.Hears listener) :
    (Audience.tell change id image registrations audience).1.Hears listener := by
  induction registrations generalizing audience with
  | nil => exact hears
  | cons registration rest ih => exact ih (hears.react registration change id image)

/-- A listener is told as often as it is registered. -/
theorem notices_tell (change : Change) (id : ObjectId) (image : Image) (registrations : List Registration)
    (audience : Audience) :
    notices listener (tell change id image registrations audience).2 =
      List.replicate (registrations.countP fun registration => registration.listener = listener)
        ⟨change, id, image⟩ := by
  induction registrations generalizing audience with
  | nil => rfl
  | cons registration rest ih =>
    have later := ih (audience.react registration change id image).1
    have skipped (notes : List Note) : (brokenNote change :: notes).filterMap (Note.notice? listener) =
        notes.filterMap (Note.notice? listener) := rfl
    simp only [notices] at later
    by_cases own : registration.listener = listener
    · cases broken : (audience.react registration change id image).2 <;>
        simp [tell, notices, Note.notice?, own, broken, skipped, later, List.replicate_succ]
    · cases broken : (audience.react registration change id image).2 <;>
        simp [tell, notices, Note.notice?, own, broken, skipped, later]

/-- Whoever hears of everything has replayed the change when it was told. -/
theorem Hears.fire {audience : Audience} (hears : audience.Hears listener) (change : Change) (id : ObjectId)
    (image : Image) :
    ∃ count, 0 < count ∧
      notices listener (audience.fire change id image).2 = List.replicate count ⟨change, id, image⟩ := by
  refine ⟨_, ?_, notices_tell change id image (audience.registered change) audience⟩
  obtain ⟨own, registered, same, listens⟩ := hears.registered change
  apply List.countP_pos_iff.mpr
  exact ⟨own, List.mem_filter.mpr ⟨registered, by simp [same]⟩, by simp [listens]⟩

end Audience

namespace Attempt

variable {σ α β : Type} {listener : String} {hears : σ → Prop} {objects : σ → Catalog}

/-- An attempt that reports all that it does to objects: a listener that hears of everything goes on hearing, and what
it is told turns the objects before into the objects after, each image being told of under its own identifier. -/
def Reports (listener : String) (hears : σ → Prop) (objects : σ → Catalog) (attempt : Attempt σ α) : Prop :=
  ∀ before, hears before →
    hears (attempt before).state ∧
      (objects before).replay (notices listener (attempt before).notes) = objects (attempt before).state ∧
      ∀ notice ∈ notices listener (attempt before).notes, notice.id = notice.image.id

/-- What leaves the objects alone has nothing to tell. -/
theorem reports_aside {attempt : Attempt σ α} (hearing : ∀ before, hears before → hears (attempt before).state)
    (same : ∀ before, objects (attempt before).state = objects before)
    (silent : ∀ before, notices listener (attempt before).notes = []) : Reports listener hears objects attempt := by
  intro before heard
  rw [silent]
  exact ⟨hearing before heard, (same before).symm, fun _ none => absurd none List.not_mem_nil⟩

theorem reports_pure (value : α) : Reports listener hears objects (pure value) :=
  reports_aside (fun _ heard => heard) (fun _ => rfl) fun _ => rfl

theorem reports_fail (fault : Fault) : Reports listener hears objects (fail fault : Attempt σ α) :=
  reports_aside (fun _ heard => heard) (fun _ => rfl) fun _ => rfl

theorem reports_of (result : Except Fault α) : Reports listener hears objects (of result) :=
  reports_aside (fun _ heard => heard) (fun _ => rfl) fun _ => rfl

theorem reports_read : Reports listener hears objects (state : Attempt σ σ) :=
  reports_aside (fun _ heard => heard) (fun _ => rfl) fun _ => rfl

theorem reports_note {notes : List Note} (silent : notices listener notes = []) :
    Reports listener hears objects (note notes) :=
  reports_aside (fun _ heard => heard) (fun _ => rfl) fun _ => silent

theorem reports_log (channel : Channel) (level : Level) (message : String) :
    Reports listener hears objects (log channel level message) :=
  reports_note rfl

/-- What goes on from a result that may not be there. -/
theorem reports_given {result : Except Fault α} {next : α → Attempt σ β}
    (later : ∀ value, result = .ok value → Reports listener hears objects (next value)) :
    Reports listener hears objects (of result >>= next) := by
  cases given : result with
  | error fault => exact reports_fail fault
  | ok value =>
    intro before
    rw [of_then rfl]
    exact later value given before

theorem Reports.bind {first : Attempt σ α} {next : α → Attempt σ β} (reports : Reports listener hears objects first)
    (later : ∀ value, Reports listener hears objects (next value)) :
    Reports listener hears objects (first >>= next) := by
  intro before heard
  obtain ⟨hearing, replayed, own⟩ := reports before heard
  rcases ran : first before with ⟨fault | value, middle, notes⟩
  all_goals rw [ran] at hearing replayed own
  · rw [bind_of_error ran]
    exact ⟨hearing, replayed, own⟩
  · obtain ⟨thenHearing, thenReplayed, thenOwn⟩ := later value middle hearing
    rw [bind_of_ok ran]
    refine ⟨thenHearing, ?_, ?_⟩
    · rw [notices_append, Catalog.replay_append, replayed]
      exact thenReplayed
    · intro notice told
      rw [notices_append] at told
      rcases List.mem_append.mp told with now | thereafter
      · exact own notice now
      · exact thenOwn notice thereafter

end Attempt

namespace Depot

open Attempt (Reports reports_aside reports_pure reports_fail reports_of reports_read reports_note reports_log
  reports_given)

variable {α : Type} {listener : String}

def Hears (listener : String) (depot : Depot) : Prop :=
  depot.audience.Hears listener

/-- What a store does is reported to a listener that hears of everything. -/
abbrev Reported (listener : String) (attempt : Attempt Depot α) : Prop :=
  Reports listener (Hears listener) objects attempt

/-- What the disk is used for is told to nobody. -/
theorem reported_of_disk {attempt : Attempt Depot α} (apart : attempt.Preserves unfiled)
    (silent : attempt.Calls calls) :
    Reported listener attempt := by
  refine reports_aside (fun depot heard => ?_) (fun depot => ?_) fun depot => notices_of_isOfStore (silent depot).2
  · have audience := congrArg Depot.audience (apart depot)
    change (attempt depot).state.audience = depot.audience at audience
    unfold Hears
    rw [audience]
    exact heard
  · have objects := congrArg Depot.objects (apart depot)
    exact objects

theorem reported_writeDocument (image : Image) : Reported listener (writeDocument image) :=
  reported_of_disk (preserves_writeDocument image) (calls_writeDocument image)

theorem reported_removeDocument (id : ObjectId) : Reported listener (removeDocument id) :=
  reported_of_disk (preserves_removeDocument id) (calls_removeDocument id)

/-- A change that is told right after it was made is reported. -/
theorem reported_fire {image : Image} {change : Change} (edit : Catalog → Catalog)
    (told : ∀ catalog : Catalog, catalog.heed ⟨change, image.id, image⟩ = edit catalog) :
    Reported listener (Attempt.update (fun depot : Depot => { depot with objects := edit depot.objects }) >>= fun _ =>
      fire change image) := by
  intro depot heard
  obtain ⟨count, some, notes⟩ := Audience.Hears.fire heard change image.id image
  rw [Attempt.update_then]
  unfold fire
  rw [Attempt.read_then]
  refine ⟨Audience.Hears.tell _ heard, ?_, ?_⟩
  · change depot.objects.replay (notices listener ((depot.audience.fire change image.id image).2)) = edit depot.objects
    rw [notes, Catalog.replay_replicate _ _ some, told]
  · intro notice held
    change notice ∈ notices listener ((depot.audience.fire change image.id image).2) at held
    rw [notes] at held
    rw [(List.mem_replicate.mp held).2]

theorem key?_of_keyOf {id : ObjectId} {key : ObjectKey} (found : keyOf id = .ok key) : id.key? = some key := by
  cases known : id.key? with
  | none =>
    rw [keyOf_of_none known] at found
    cases found
  | some own =>
    rw [keyOf_of known] at found
    rw [Except.ok.inj found]

theorem reported_addObject (image : Image) : Reported listener (addObject image) := by
  apply reports_given
  intro key found
  refine reports_read.bind fun depot => (reports_log _ _ _).bind fun _ => ?_
  apply reported_fire (·.put key image)
  simp [Catalog.heed, key?_of_keyOf found]

theorem reported_addWritten (image : Image) : Reported listener (addWritten image) := by
  refine reports_read.bind fun depot => ?_
  cases depot.disk with
  | none => exact reports_fail _
  | some disk => exact (reported_writeDocument image).bind fun _ => reported_addObject image

theorem reported_persist (image : Image) : Reported listener (persist image) := by
  refine Attempt.Reports.bind (reports_note rfl) fun _ => reports_given fun key found => ?_
  refine reports_read.bind fun depot => ?_
  cases depot.objects.get? key with
  | none => exact reports_fail _
  | some stored =>
    simp only [Option.isNone_some, Bool.false_eq_true, ↓reduceIte]
    cases leaves image with
    | true =>
      refine (reported_removeDocument _).bind fun _ => (reports_log _ _ _).bind fun _ => ?_
      apply reported_fire (·.erase key)
      simp [Catalog.heed, key?_of_keyOf found]
    | false =>
      refine (reported_writeDocument image).bind fun _ => (reports_log _ _ _).bind fun _ => ?_
      apply reported_fire (·.put key image)
      simp [Catalog.heed, key?_of_keyOf found]

theorem reported_requestDeletion (id : ObjectId) (now : String) : Reported listener (requestDeletion id now) := by
  refine (reports_of _).bind fun key => reports_read.bind fun depot => ?_
  cases depot.objects.get? key with
  | none => exact reports_fail _
  | some image => exact (reports_log _ _ _).bind fun _ => reported_persist _

theorem reported_getObject (id : ObjectId) : Reported listener (getObject id) :=
  (reports_of _).bind fun _ => reports_read.bind fun _ => reports_pure _

theorem reported_loadAll (disk : Disk) (paths : List Path) : Reported listener (loadAll disk paths) := by
  induction paths with
  | nil => exact reports_pure _
  | cons path rest ih =>
    refine Attempt.Reports.bind ?_ fun _ => ih
    exact (reports_of _).bind fun image => (reports_log _ _ _).bind fun _ => reported_addObject image

theorem reported_load : Reported listener load := by
  refine reports_read.bind fun depot => ?_
  cases depot.disk with
  | none => exact reports_fail _
  | some disk => exact reported_loadAll disk _

end Depot

end ImageOperator
