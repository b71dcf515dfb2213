import ImageOperator.Proofs.Attempt
import ImageOperator.Store.Depot

set_option autoImplicit false

namespace ImageOperator

/-- Faults that stores answer with. -/
def Fault.isStore : Fault → Bool
  | .type | .attribute | .objectAbsent _ | .file _ => true
  | _ => false

theorem Audience.tell_told (change : Change) (id : ObjectId) (image : Image) (registrations : List Registration) :
    ∀ audience, (tell change id image registrations audience).2.filter Note.isDeed = [] := by
  induction registrations with
  | nil => intro audience; rfl
  | cons registration rest ih =>
    intro audience
    rcases reacted : audience.react registration change id image with ⟨next, broken⟩
    have later := ih next
    rcases told : tell change id image rest next with ⟨last, notes⟩
    rw [told] at later
    simp only [tell, reacted, told]
    cases broken <;> exact later

namespace Depot

variable {α β : Type}

/-- Outcomes that leave the objects of a store as they are, with a store's fault if any, and nothing done. -/
inductive Rests (depot : Depot) : Outcome Depot α → Prop
  | failed {fault : Fault} {after : Depot} (store : fault.isStore = true) (kept : after.objects = depot.objects) :
      Rests depot ⟨.error fault, after, []⟩
  | done {value : α} {after : Depot} (kept : after.objects = depot.objects) : Rests depot ⟨.ok value, after, []⟩

def Still (attempt : Attempt Depot α) : Prop :=
  ∀ depot, Rests depot (attempt.bare depot)

theorem Rests.trans {depot middle : Depot} {outcome : Outcome Depot α} (rests : Rests middle outcome)
    (kept : middle.objects = depot.objects) : Rests depot outcome := by
  cases rests with
  | failed store same => exact .failed store (same.trans kept)
  | done same => exact .done (same.trans kept)

theorem Still.bind {first : Attempt Depot α} {next : α → Attempt Depot β} (still : Still first)
    (later : ∀ value, Still (next value)) : Still (first >>= next) := by
  intro depot
  rw [Attempt.bare_bind]
  have rests := still depot
  generalize ran : first.bare depot = outcome at rests
  cases rests with
  | failed store kept =>
    rw [Attempt.bind_of_error ran]
    exact .failed store kept
  | @done value after kept =>
    rw [Attempt.bind_of_ok ran, List.nil_append]
    exact (later value after).trans kept

theorem still_pure (value : α) : Still (pure value : Attempt Depot α) :=
  fun _ => .done rfl

theorem still_read : Still (Attempt.state : Attempt Depot Depot) :=
  fun _ => .done rfl

theorem still_fail {fault : Fault} (store : fault.isStore = true) : Still (Attempt.fail fault : Attempt Depot α) :=
  fun _ => .failed store rfl

theorem still_update {change : Depot → Depot} (kept : ∀ depot, (change depot).objects = depot.objects) :
    Still (Attempt.update change) :=
  fun depot => .done (kept depot)

theorem still_log (channel : Channel) (level : Level) (message : String) :
    Still (Attempt.log channel level message) := by
  intro depot
  rw [Attempt.bare_log]
  exact .done rfl

theorem still_of {result : Except Fault α} (store : ∀ fault, result = .error fault → fault.isStore = true) :
    Still (Attempt.of result) := by
  intro depot
  cases result with
  | error fault => exact .failed (store fault rfl) rfl
  | ok value => exact .done rfl

theorem documentPath_fault (id : ObjectId) (fault : Fault) (failed : documentPath id = .error fault) :
    fault.isStore = true := by
  unfold documentPath at failed
  split at failed
  · split at failed
    · cases failed
    · split at failed <;> cases failed
      rfl
  · cases failed
    rfl

theorem still_takeSteps (disk : Disk) (steps : List FileStep) : Still (takeSteps disk steps) := by
  unfold takeSteps
  rcases disk.tree.steps steps with ⟨fault | done, tree⟩
  · refine Still.bind (still_update ?_) fun _ => still_fail ?_
    · intro depot
      rfl
    · rfl
  · exact still_update fun _ => rfl

theorem still_writeDocument (image : Image) : Still (writeDocument image) := by
  refine still_read.bind fun depot => ?_
  cases depot.disk with
  | none => exact still_pure ()
  | some disk =>
    refine (still_of (documentPath_fault image.id)).bind fun path => ?_
    exact (still_takeSteps disk _).bind fun _ => still_log _ _ _

theorem still_removeDocument (id : ObjectId) : Still (removeDocument id) := by
  refine still_read.bind fun depot => ?_
  cases depot.disk with
  | none => exact still_pure ()
  | some disk =>
    refine (still_of (documentPath_fault id)).bind fun path => ?_
    refine (still_takeSteps disk _).bind fun _ => ?_
    cases (removeSteps disk.tree path).isEmpty
    · exact still_log _ _ _
    · exact still_pure ()

theorem fire_of (change : Change) (image : Image) (depot : Depot) :
    (fire change image).bare depot =
      ⟨.ok (), { depot with audience := (depot.audience.fire change image.id image).1 }, []⟩ := by
  unfold fire
  have told : (depot.audience.fire change image.id image).2.filter Note.isDeed = [] :=
    Audience.tell_told _ _ _ _ _
  rw [Attempt.bare_bind, Attempt.bare_read, Attempt.read_then]
  simp only [Attempt.bare_bind, Attempt.bare_note _ told]
  rfl

theorem keyOf_of {id : ObjectId} {key : ObjectKey} (known : id.key? = some key) : keyOf id = .ok key := by
  simp only [keyOf, known]

theorem keyOf_of_none {id : ObjectId} (unknown : id.key? = none) : keyOf id = .error .type := by
  simp only [keyOf, unknown]

/-- The ways of handing an image to a store: it is refused, or it takes its object away, or it takes its object's
place. -/
inductive Persists (objects : Catalog) (image : Image) : Except Fault Unit → Catalog → Prop
  | refused {fault : Fault} (store : fault.isStore = true) : Persists objects image (.error fault) objects
  | removed {key : ObjectKey} (known : image.id.key? = some key) (held : (objects.get? key).isSome = true)
      (leaving : leaves image = true) : Persists objects image (.ok ()) (objects.erase key)
  | written {key : ObjectKey} (known : image.id.key? = some key) (held : (objects.get? key).isSome = true)
      (staying : leaves image = false) : Persists objects image (.ok ()) (objects.put key image)

/-- The work on the disk that goes before an image takes its object's place, or takes it away. -/
def refile (image : Image) : Attempt Depot Unit :=
  if leaves image then removeDocument image.id else writeDocument image

/-- The objects after an image was handed over for the object of a key. -/
def turn (objects : Catalog) (key : ObjectKey) (image : Image) : Catalog :=
  if leaves image then objects.erase key else objects.put key image

theorem refile_of_leaving {image : Image} (leaving : leaves image = true) : refile image = removeDocument image.id :=
  if_pos leaving

theorem refile_of_staying {image : Image} (staying : leaves image = false) : refile image = writeDocument image := by
  simp only [refile, staying, Bool.false_eq_true, ↓reduceIte]

theorem turn_of_leaving {image : Image} (leaving : leaves image = true) (objects : Catalog) (key : ObjectKey) :
    turn objects key image = objects.erase key :=
  if_pos leaving

theorem turn_of_staying {image : Image} (staying : leaves image = false) (objects : Catalog) (key : ObjectKey) :
    turn objects key image = objects.put key image := by
  simp only [turn, staying, Bool.false_eq_true, ↓reduceIte]

/-- What becomes of an image that is handed to a store: its object is not known or not there, the disk refuses it, or
it is taken. -/
inductive Hands (depot : Depot) (image : Image) : Outcome Depot Unit → Prop
  | unknown (unknown : image.id.key? = none) : Hands depot image ⟨.error .type, depot, [.submitted image]⟩
  | absent {key : ObjectKey} (known : image.id.key? = some key) (absent : depot.objects.get? key = none) :
      Hands depot image ⟨.error (.objectAbsent image.id), depot, [.submitted image]⟩
  | refused {key : ObjectKey} {fault : Fault} {after : Depot} {notes : List Note}
      (known : image.id.key? = some key) (held : (depot.objects.get? key).isSome = true)
      (refiled : (refile image).bare depot = ⟨.error fault, after, notes⟩) :
      Hands depot image ⟨.error fault, after, .submitted image :: notes⟩
  | taken {key : ObjectKey} {after : Depot} {notes : List Note} {audience : Audience}
      (known : image.id.key? = some key) (held : (depot.objects.get? key).isSome = true)
      (refiled : (refile image).bare depot = ⟨.ok (), after, notes⟩) :
      Hands depot image ⟨.ok (), ⟨turn after.objects key image, audience, after.disk⟩, .submitted image :: notes⟩

theorem persist_hands (image : Image) (depot : Depot) : Hands depot image ((persist image).bare depot) := by
  have submitted : (Attempt.note [.submitted image] : Attempt Depot Unit).bare depot =
    ⟨.ok (), depot, [.submitted image]⟩ := rfl
  unfold persist
  rw [Attempt.bare_bind, Attempt.bind_of_ok submitted, Attempt.bare_bind, Attempt.bare_of]
  cases known : image.id.key? with
  | none =>
    rw [keyOf_of_none known]
    exact .unknown known
  | some key =>
    rw [Attempt.of_then (keyOf_of known), Attempt.bare_bind, Attempt.bare_read, Attempt.read_then]
    cases held : depot.objects.get? key with
    | none => exact .absent known held
    | some stored =>
      have present : (depot.objects.get? key).isSome = true := by simp [held]
      simp only [Option.isNone_some, Bool.false_eq_true, ↓reduceIte]
      cases leaving : leaves image with
      | true =>
        simp only [↓reduceIte, Attempt.bare_bind, Attempt.bare_log, pure_bind]
        rw [← refile_of_leaving leaving]
        rcases refiled : (refile image).bare depot with ⟨fault | _, after, notes⟩
        · rw [Attempt.bind_of_error refiled]
          exact .refused known present refiled
        · rw [Attempt.bind_of_ok refiled, Attempt.bare_update, Attempt.update_then, fire_of, List.append_nil,
            ← turn_of_leaving leaving]
          exact .taken known present refiled
      | false =>
        simp only [Bool.false_eq_true, ↓reduceIte, Attempt.bare_bind, Attempt.bare_log, pure_bind]
        rw [← refile_of_staying leaving]
        rcases refiled : (refile image).bare depot with ⟨fault | _, after, notes⟩
        · rw [Attempt.bind_of_error refiled]
          exact .refused known present refiled
        · rw [Attempt.bind_of_ok refiled, putObject, Attempt.bare_update, Attempt.update_then, fire_of, List.append_nil,
            ← turn_of_staying leaving]
          exact .taken known present refiled

theorem still_refile (image : Image) : Still (refile image) := by
  cases leaving : leaves image with
  | true => exact refile_of_leaving leaving ▸ still_removeDocument image.id
  | false => exact refile_of_staying leaving ▸ still_writeDocument image

theorem Persists.turned {objects : Catalog} {image : Image} {key : ObjectKey} (known : image.id.key? = some key)
    (held : (objects.get? key).isSome = true) : Persists objects image (.ok ()) (turn objects key image) := by
  cases leaving : leaves image with
  | true => exact turn_of_leaving leaving objects key ▸ .removed known held leaving
  | false => exact turn_of_staying leaving objects key ▸ .written known held leaving

theorem persist_persists (image : Image) (depot : Depot) :
    let outcome := (persist image).bare depot
    Persists depot.objects image outcome.result outcome.state.objects ∧ outcome.notes = [.submitted image] := by
  have rests := still_refile image depot
  have hands := persist_hands image depot
  generalize (persist image).bare depot = outcome at hands
  cases hands with
  | unknown unknown => exact ⟨.refused rfl, rfl⟩
  | absent known absent => exact ⟨.refused rfl, rfl⟩
  | refused known held refiled =>
    rw [refiled] at rests
    cases rests with
    | failed store kept => exact ⟨kept ▸ .refused store, rfl⟩
  | taken known held refiled =>
    rw [refiled] at rests
    cases rests with
    | done kept =>
      rw [kept]
      exact ⟨.turned known held, rfl⟩

theorem bare_getObject_of {id : ObjectId} {key : ObjectKey} (known : id.key? = some key) (depot : Depot) :
    (getObject id).bare depot = ⟨.ok (depot.objects.get? key), depot, []⟩ := by
  unfold getObject
  rw [keyOf_of known]
  rfl

theorem bare_getObject_of_none {id : ObjectId} (unknown : id.key? = none) (depot : Depot) :
    (getObject id).bare depot = ⟨.error .type, depot, []⟩ := by
  unfold getObject
  rw [keyOf_of_none unknown]
  rfl

/-- The ways of adding an image to a store. -/
inductive Adds (objects : Catalog) (image : Image) : Except Fault Unit → Catalog → Prop
  | refused {fault : Fault} (store : fault.isStore = true) : Adds objects image (.error fault) objects
  | put {key : ObjectKey} (known : image.id.key? = some key) : Adds objects image (.ok ()) (objects.put key image)

theorem bare_addObject_of {image : Image} {key : ObjectKey} (known : image.id.key? = some key) (depot : Depot) :
    (addObject image).bare depot = ⟨.ok (),
      { depot with
        objects := depot.objects.put key image
        audience := (depot.audience.fire .added image.id image).1 }, []⟩ := by
  unfold addObject
  rw [Attempt.bare_bind, Attempt.bare_of, Attempt.of_then (keyOf_of known), Attempt.bare_bind, Attempt.bare_read,
    Attempt.read_then]
  simp only [Attempt.bare_bind, Attempt.bare_log, pure_bind]
  rw [putObject, Attempt.bare_update, Attempt.update_then, fire_of]

theorem addObject_adds (image : Image) (depot : Depot) :
    let outcome := (addObject image).bare depot
    Adds depot.objects image outcome.result outcome.state.objects ∧ outcome.notes = [] := by
  cases known : image.id.key? with
  | none =>
    unfold addObject
    rw [Attempt.bare_bind, Attempt.bare_of, keyOf_of_none known]
    exact ⟨.refused rfl, rfl⟩
  | some key =>
    rw [bare_addObject_of known]
    exact ⟨.put known, rfl⟩

theorem addWritten_adds (image : Image) (depot : Depot) :
    let outcome := (addWritten image).bare depot
    Adds depot.objects image outcome.result outcome.state.objects ∧ outcome.notes = [] := by
  unfold addWritten
  rw [Attempt.bare_bind, Attempt.bare_read, Attempt.read_then]
  cases depot.disk.isNone with
  | true => exact ⟨.refused rfl, rfl⟩
  | false =>
    simp only [Bool.false_eq_true, ↓reduceIte, Attempt.bare_bind]
    have rests := still_writeDocument image depot
    generalize ran : (writeDocument image).bare depot = outcome at rests
    cases rests with
    | failed store kept =>
      rw [Attempt.bind_of_error ran]
      exact ⟨kept ▸ .refused store, rfl⟩
    | @done value after kept =>
      rw [Attempt.bind_of_ok ran, List.nil_append, ← kept]
      exact addObject_adds image after

/-- The ways of asking for a deletion: there is no such object, or its marked image is persisted. -/
inductive Deletes (depot : Depot) (id : ObjectId) (now : String) : Outcome Depot Unit → Prop
  | unknown (unknown : id.key? = none) : Deletes depot id now ⟨.error .type, depot, []⟩
  | absent {key : ObjectKey} (known : id.key? = some key) (absent : depot.objects.get? key = none) :
      Deletes depot id now ⟨.error (.objectAbsent id), depot, []⟩
  | handed {key : ObjectKey} {image : Image} {record : LogRecord} (known : id.key? = some key)
      (stored : depot.objects.get? key = some image) :
      Deletes depot id now ⟨(persist (image.marked now) depot).result, (persist (image.marked now) depot).state,
        .logged record :: (persist (image.marked now) depot).notes⟩

theorem requestDeletion_deletes (id : ObjectId) (now : String) (depot : Depot) :
    Deletes depot id now (requestDeletion id now depot) := by
  unfold requestDeletion
  cases known : id.key? with
  | none =>
    rw [keyOf_of_none known]
    exact .unknown known
  | some key =>
    rw [Attempt.of_then (keyOf_of known), Attempt.read_then]
    cases stored : depot.objects.get? key with
    | none => exact .absent known stored
    | some image => exact .handed known stored

/-- The ways of asking a store to delete an object: nothing is known under its identifier, or the marked image is
persisted. -/
inductive Marks (objects : Catalog) (id : ObjectId) (now : String) : Except Fault Unit → Catalog → List Note → Prop
  | unknown (unknown : id.key? = none) : Marks objects id now (.error .type) objects []
  | absent {key : ObjectKey} (known : id.key? = some key) (absent : objects.get? key = none) :
      Marks objects id now (.error (.objectAbsent id)) objects []
  | handed {key : ObjectKey} {image : Image} {result : Except Fault Unit} {after : Catalog}
      (known : id.key? = some key) (stored : objects.get? key = some image)
      (persists : Persists objects (image.marked now) result after) :
      Marks objects id now result after [.submitted (image.marked now)]

theorem requestDeletion_marks (id : ObjectId) (now : String) (depot : Depot) :
    let outcome := (requestDeletion id now).bare depot
    Marks depot.objects id now outcome.result outcome.state.objects outcome.notes := by
  have deletes := requestDeletion_deletes id now depot
  unfold Attempt.bare
  generalize requestDeletion id now depot = outcome at deletes
  cases deletes with
  | unknown unknown => exact .unknown unknown
  | absent known absent => exact .absent known absent
  | @handed key image record known stored =>
    obtain ⟨persists, handed⟩ := persist_persists (image.marked now) depot
    have notes : (persist (image.marked now) depot).notes.filter Note.isDeed = [.submitted (image.marked now)] := handed
    have unlogged : (.logged record :: (persist (image.marked now) depot).notes).filter Note.isDeed =
        [.submitted (image.marked now)] := notes
    dsimp only
    rw [unlogged]
    exact .handed known stored persists

theorem Persists.forall {objects after : Catalog} {image : Image} {result : Except Fault Unit}
    {property : ObjectKey → Image → Prop} (persists : Persists objects image result after)
    (all : ∀ entry ∈ objects, property entry.1 entry.2)
    (new : ∀ key, image.id.key? = some key → property key image) : ∀ entry ∈ after, property entry.1 entry.2 := by
  intro entry member
  cases persists with
  | refused store => exact all entry member
  | removed known held leaving => exact all entry (Catalog.mem_of_mem_erase member)
  | written known held staying =>
    rcases Catalog.eq_or_mem_of_mem_put member with same | old
    · rw [same]
      exact new _ known
    · exact all entry old

theorem Adds.forall {objects after : Catalog} {image : Image} {result : Except Fault Unit}
    {property : ObjectKey → Image → Prop} (adds : Adds objects image result after)
    (all : ∀ entry ∈ objects, property entry.1 entry.2)
    (new : ∀ key, image.id.key? = some key → property key image) : ∀ entry ∈ after, property entry.1 entry.2 := by
  intro entry member
  cases adds with
  | refused store => exact all entry member
  | put known =>
    rcases Catalog.eq_or_mem_of_mem_put member with same | old
    · rw [same]
      exact new _ known
    · exact all entry old

/-- Other objects stay as they are. -/
theorem Persists.get?_of_ne {objects after : Catalog} {image : Image} {result : Except Fault Unit}
    {own other : ObjectKey} (persists : Persists objects image result after) (known : image.id.key? = some own)
    (different : other ≠ own) : after.get? other = objects.get? other := by
  cases persists with
  | refused store => rfl
  | removed same held leaving =>
    obtain rfl := Option.some.inj (known.symm.trans same)
    exact Catalog.get?_erase_of_ne objects different
  | written same held staying =>
    obtain rfl := Option.some.inj (known.symm.trans same)
    exact Catalog.get?_put_of_ne objects image different

/-- What becomes of the object itself. -/
theorem Persists.get?_own {objects after : Catalog} {image : Image} {result : Except Fault Unit} {own : ObjectKey}
    (persists : Persists objects image result after) (known : image.id.key? = some own) :
    (after.get? own = objects.get? own ∧ ∃ fault, result = .error fault ∧ fault.isStore = true) ∨
      (after.get? own = none ∧ leaves image = true ∧ result = .ok ()) ∨
        (after.get? own = some image ∧ leaves image = false ∧ result = .ok ()) := by
  cases persists with
  | refused store => exact .inl ⟨rfl, _, rfl, store⟩
  | removed same held leaving =>
    obtain rfl := Option.some.inj (known.symm.trans same)
    exact .inr (.inl ⟨Catalog.get?_erase_self objects own, leaving, rfl⟩)
  | written same held staying =>
    obtain rfl := Option.some.inj (known.symm.trans same)
    exact .inr (.inr ⟨Catalog.get?_put_self objects own image, staying, rfl⟩)

/-- What stands under a key afterwards: what stood there before, or nothing, or the image that was handed in. -/
theorem Persists.get?_cases {objects after : Catalog} {image : Image} {result : Except Fault Unit}
    (persists : Persists objects image result after) (key : ObjectKey) :
    after.get? key = objects.get? key ∨ after.get? key = none ∨
      (image.id.key? = some key ∧ after.get? key = some image ∧ leaves image = false ∧ result = .ok ()) := by
  cases persists with
  | refused store => exact .inl rfl
  | @removed own known held leaving =>
    by_cases same : key = own
    · exact .inr (.inl (same ▸ Catalog.get?_erase_self objects own))
    · exact .inl (Catalog.get?_erase_of_ne objects same)
  | @written own known held staying =>
    by_cases same : key = own
    · subst same
      exact .inr (.inr ⟨known, Catalog.get?_put_self objects key image, staying, rfl⟩)
    · exact .inl (Catalog.get?_put_of_ne objects image same)

/-- What becomes of the only object of a store when an image of its own is handed in. -/
theorem Persists.single {key : ObjectKey} {stored image : Image} {result : Except Fault Unit} {after : Catalog}
    (persists : Persists [(key, stored)] image result after) (known : image.id.key? = some key) :
    (after = [(key, stored)] ∧ ∃ fault, result = .error fault ∧ fault.isStore = true) ∨
      (after = [] ∧ leaves image = true) ∨ after = [(key, image)] := by
  cases persists with
  | refused store => exact .inl ⟨rfl, _, rfl, store⟩
  | removed same held leaving =>
    obtain rfl := Option.some.inj (known.symm.trans same)
    exact .inr (.inl ⟨by simp [Catalog.erase], leaving⟩)
  | written same held staying =>
    obtain rfl := Option.some.inj (known.symm.trans same)
    exact .inr (.inr (by simp [Catalog.put]))

theorem Adds.get?_of_ne {objects after : Catalog} {image : Image} {result : Except Fault Unit} {other : ObjectKey}
    (adds : Adds objects image result after) (different : ∀ own, image.id.key? = some own → other ≠ own) :
    after.get? other = objects.get? other := by
  cases adds with
  | refused store => rfl
  | put known => exact Catalog.get?_put_of_ne objects image (different _ known)

/-- What becomes of any object as one is added. -/
theorem Adds.get?_cases {objects after : Catalog} {image : Image} {result : Except Fault Unit}
    (adds : Adds objects image result after) (key : ObjectKey) :
    after.get? key = objects.get? key ∨ after.get? key = some image := by
  cases adds with
  | refused store => exact .inl rfl
  | @put own known =>
    by_cases same : key = own
    · exact .inr (same ▸ Catalog.get?_put_self objects own image)
    · exact .inl (Catalog.get?_put_of_ne objects image same)

end Depot

/-- Every object stands under its own key. -/
def Catalog.Filed (objects : Catalog) : Prop :=
  ∀ entry ∈ objects, entry.2.id.key? = some entry.1

namespace Depot

theorem Persists.filed {objects after : Catalog} {image : Image} {result : Except Fault Unit}
    (persists : Persists objects image result after) (filed : objects.Filed) : after.Filed :=
  @Persists.forall _ _ _ _ (fun key held => held.id.key? = some key) persists filed fun _ known => known

theorem Adds.filed {objects after : Catalog} {image : Image} {result : Except Fault Unit}
    (adds : Adds objects image result after) (filed : objects.Filed) : after.Filed :=
  @Adds.forall _ _ _ _ (fun key held => held.id.key? = some key) adds filed fun _ known => known

theorem Marks.filed {objects after : Catalog} {id : ObjectId} {now : String} {result : Except Fault Unit}
    {notes : List Note} (marks : Marks objects id now result after notes) (filed : objects.Filed) : after.Filed := by
  cases marks with
  | unknown unknown | absent known absent => exact filed
  | handed known stored persists => exact persists.filed filed

end Depot

end ImageOperator
