import ImageOperator.Attempt

set_option autoImplicit false

namespace ImageOperator

/-- Notes of calls and of images handed to a store, as against all that is only told. -/
def Note.isDeed (note : Note) : Bool :=
  note.call?.isSome || note.submitted?.isSome

@[simp] theorem Note.isDeed_called (workspace : Workspace) (call : Call) :
    (Note.called workspace call).isDeed = true := rfl

@[simp] theorem Note.isDeed_submitted (image : Image) : (Note.submitted image).isDeed = true := rfl

@[simp] theorem Note.isDeed_log (channel : Channel) (level : Level) (message : String) :
    (Note.log channel level message).isDeed = false := rfl

/-- Notes of what a store is handed and of what it tells. -/
def Note.isOfStore : Note → Bool
  | .submitted _ | .fired _ _ _ _ => true
  | _ => false

/-- Notes but for what is only told: log records and recorded events. -/
def Note.isOpen : Note → Bool
  | .logged _ | .recorded _ => false
  | _ => true

/-- Notes but for the log records about documents. -/
def Note.isShared : Note → Bool
  | .logged record => record.channel ≠ .documents
  | _ => true

def Note.made? (note : Note) : Option Call :=
  note.call?.map (·.2)

/-- What is read off notes of one kind only is there when the others are dropped. -/
theorem Note.filterMap_filter {β : Type} {kind : Note → Bool} {reads : Note → Option β}
    (within : ∀ note, kind note = false → reads note = none) (notes : List Note) :
    (notes.filter kind).filterMap reads = notes.filterMap reads := by
  rw [List.filterMap_filter]
  congr 1
  funext note
  cases other : kind note with
  | true => rfl
  | false => exact (within note other).symm

namespace Attempt

variable {σ τ α β : Type}

theorem pure_apply (value : α) (state : σ) : (pure value : Attempt σ α) state = ⟨.ok value, state, []⟩ := rfl

theorem bind_of_ok {first : Attempt σ α} {before middle : σ} {value : α} {notes : List Note}
    (done : first before = ⟨.ok value, middle, notes⟩) (next : α → Attempt σ β) :
    (first >>= next) before =
      ⟨(next value middle).result, (next value middle).state, notes ++ (next value middle).notes⟩ := by
  change Attempt.bind first next before = _
  simp only [Attempt.bind, done]

theorem bind_of_error {first : Attempt σ α} {before middle : σ} {fault : Fault} {notes : List Note}
    (failed : first before = ⟨.error fault, middle, notes⟩) (next : α → Attempt σ β) :
    (first >>= next) before = ⟨.error fault, middle, notes⟩ := by
  change Attempt.bind first next before = _
  simp only [Attempt.bind, failed]

theorem result_of_error {first : Attempt σ α} {before : σ} {fault : Fault}
    (failed : (first before).result = .error fault) (next : α → Attempt σ β) :
    ((first >>= next) before).result = .error fault := by
  rcases ran : first before with ⟨other | value, middle, notes⟩
  all_goals
    rw [ran] at failed
    cases failed
  rw [bind_of_error ran]

theorem bind_pure_id (attempt : Attempt σ α) : (attempt >>= pure) = attempt := by
  funext before
  rcases ran : attempt before with ⟨fault | value, middle, notes⟩
  · exact bind_of_error ran pure
  · rw [bind_of_ok ran, pure_apply, List.append_nil]

theorem pure_then (value : α) (next : α → Attempt σ β) : (pure value >>= next) = next value := by
  funext before
  rw [bind_of_ok (pure_apply value before), List.nil_append]

theorem then_assoc {γ : Type} (first : Attempt σ α) (second : α → Attempt σ β) (third : β → Attempt σ γ) :
    (first >>= second >>= third) = first >>= fun value => second value >>= third := by
  funext before
  rcases ran : first before with ⟨fault | value, middle, notes⟩
  · rw [bind_of_error ran, bind_of_error (bind_of_error ran second)]
  · rw [bind_of_ok ran]
    rcases then_ran : second value middle with ⟨fault | result, last, more⟩
    · have both := bind_of_ok ran second
      rw [then_ran] at both
      rw [bind_of_error both, bind_of_error then_ran]
    · have both := bind_of_ok ran second
      rw [then_ran] at both
      rw [bind_of_ok both, bind_of_ok then_ran, List.append_assoc]

instance : LawfulMonad (Attempt σ) :=
  LawfulMonad.mk' _ (fun attempt => bind_pure_id attempt) pure_then then_assoc

@[simp] theorem read_then (next : σ → Attempt σ α) (before : σ) :
    (state >>= next) before = next before before := rfl

@[simp] theorem update_then (change : σ → σ) (next : Unit → Attempt σ α) (before : σ) :
    (update change >>= next) before = next () (change before) := rfl

theorem note_then (notes : List Note) (next : Unit → Attempt σ α) (before : σ) :
    (note notes >>= next) before =
      ⟨(next () before).result, (next () before).state, notes ++ (next () before).notes⟩ := rfl

/-- A result that is there is gone on with. -/
theorem of_then {result : Except Fault α} {value : α} (known : result = .ok value) (next : α → Attempt σ β) :
    (of result >>= next) = next value := by
  rw [known]
  exact pure_then value next

@[simp] theorem fail_then (fault : Fault) (next : α → Attempt σ β) : (fail fault >>= next) = fail fault := rfl

/-- An attempt of which only the deeds are noted. -/
def bare (attempt : Attempt σ α) : Attempt σ α := fun state =>
  let outcome := attempt state
  ⟨outcome.result, outcome.state, outcome.notes.filter Note.isDeed⟩

@[simp] theorem bare_result (attempt : Attempt σ α) (state : σ) :
    (attempt.bare state).result = (attempt state).result := rfl

@[simp] theorem bare_state (attempt : Attempt σ α) (state : σ) :
    (attempt.bare state).state = (attempt state).state := rfl

theorem bare_notes (attempt : Attempt σ α) (state : σ) :
    (attempt.bare state).notes = (attempt state).notes.filter Note.isDeed := rfl

theorem mem_bare_notes {attempt : Attempt σ α} {state : σ} {note : Note} (deed : note.isDeed = true) :
    note ∈ (attempt.bare state).notes ↔ note ∈ (attempt state).notes := by
  simp [bare_notes, deed]

@[simp] theorem bare_bind (first : Attempt σ α) (next : α → Attempt σ β) :
    (first >>= next).bare = first.bare >>= fun value => (next value).bare := by
  funext before
  rcases ran : first before with ⟨fault | value, middle, notes⟩
  · have kept : first.bare before = ⟨.error fault, middle, notes.filter Note.isDeed⟩ := by simp [bare, ran]
    simp only [bare, bind_of_error ran]
    rw [bind_of_error kept]
  · have kept : first.bare before = ⟨.ok value, middle, notes.filter Note.isDeed⟩ := by simp [bare, ran]
    rw [bind_of_ok kept]
    simp only [bare, bind_of_ok ran, List.filter_append]

@[simp] theorem bare_pure (value : α) : (pure value : Attempt σ α).bare = pure value := rfl

@[simp] theorem bare_fail (fault : Fault) : (fail fault : Attempt σ α).bare = fail fault := rfl

@[simp] theorem bare_read : (state : Attempt σ σ).bare = state := rfl

@[simp] theorem bare_update (change : σ → σ) : (update change).bare = update change := rfl

@[simp] theorem bare_of (result : Except Fault α) : (of result : Attempt σ α).bare = of result := rfl

theorem bare_note (notes : List Note) (told : notes.filter Note.isDeed = []) :
    (note notes : Attempt σ Unit).bare = pure () := by
  funext before
  simp [bare, note, told, pure_apply]

@[simp] theorem bare_log (channel : Channel) (level : Level) (message : String) :
    (log channel level message : Attempt σ Unit).bare = pure () :=
  bare_note _ rfl

@[simp] theorem bare_tried (attempt : Attempt σ α) : attempt.tried.bare = attempt.bare.tried := rfl

/-- An attempt that does nothing to be noted and leaves what is viewed of the state as it is. -/
def Keeps (view : σ → τ) (attempt : Attempt σ α) : Prop :=
  ∀ before, view (attempt.bare before).state = view before ∧ (attempt.bare before).notes = []

theorem keeps_pure (view : σ → τ) (value : α) : Keeps view (pure value : Attempt σ α) :=
  fun _ => ⟨rfl, rfl⟩

theorem keeps_read (view : σ → τ) : Keeps view (state : Attempt σ σ) :=
  fun _ => ⟨rfl, rfl⟩

theorem keeps_fail (view : σ → τ) (fault : Fault) : Keeps view (fail fault : Attempt σ α) :=
  fun _ => ⟨rfl, rfl⟩

theorem keeps_of (view : σ → τ) (result : Except Fault α) : Keeps view (of result : Attempt σ α) :=
  fun _ => ⟨rfl, rfl⟩

theorem keeps_update {view : σ → τ} {change : σ → σ} (kept : ∀ before, view (change before) = view before) :
    Keeps view (update change) :=
  fun before => ⟨kept before, rfl⟩

theorem Keeps.bind {view : σ → τ} {first : Attempt σ α} {next : α → Attempt σ β} (keeps : Keeps view first)
    (later : ∀ value, Keeps view (next value)) : Keeps view (first >>= next) := by
  intro before
  obtain ⟨same, quiet⟩ := keeps before
  rw [bare_bind]
  rcases ran : first.bare before with ⟨fault | value, middle, notes⟩
  all_goals rw [ran] at same quiet
  · rw [bind_of_error ran]
    exact ⟨same, quiet⟩
  · obtain rfl : notes = [] := quiet
    obtain ⟨then_same, then_quiet⟩ := later value middle
    rw [bind_of_ok ran]
    exact ⟨then_same.trans same, then_quiet⟩

/-- An attempt that leaves what is viewed of the state as it is, whatever it does besides. -/
def Preserves (view : σ → τ) (attempt : Attempt σ α) : Prop :=
  ∀ before, view (attempt before).state = view before

theorem preserves_pure (view : σ → τ) (value : α) : Preserves view (pure value : Attempt σ α) :=
  fun _ => rfl

theorem preserves_read (view : σ → τ) : Preserves view (state : Attempt σ σ) :=
  fun _ => rfl

theorem preserves_fail (view : σ → τ) (fault : Fault) : Preserves view (fail fault : Attempt σ α) :=
  fun _ => rfl

theorem preserves_of (view : σ → τ) (result : Except Fault α) : Preserves view (of result : Attempt σ α) :=
  fun _ => rfl

theorem preserves_update {view : σ → τ} {change : σ → σ} (kept : ∀ before, view (change before) = view before) :
    Preserves view (update change) :=
  kept

theorem Preserves.tried {view : σ → τ} {attempt : Attempt σ α} (preserves : Preserves view attempt) :
    Preserves view attempt.tried :=
  preserves

theorem Preserves.bind {view : σ → τ} {first : Attempt σ α} {next : α → Attempt σ β} (preserves : Preserves view first)
    (later : ∀ value, Preserves view (next value)) : Preserves view (first >>= next) := by
  intro before
  have same := preserves before
  rcases ran : first before with ⟨fault | value, middle, notes⟩
  all_goals rw [ran] at same
  · rw [bind_of_error ran]
    exact same
  · rw [bind_of_ok ran]
    exact (later value middle).trans same

/-- An attempt after which still holds what held before. -/
def Maintains (property : σ → Prop) (attempt : Attempt σ α) : Prop :=
  ∀ before, property before → property (attempt before).state

theorem maintains_pure (property : σ → Prop) (value : α) : Maintains property (pure value : Attempt σ α) :=
  fun _ held => held

theorem maintains_read (property : σ → Prop) : Maintains property (state : Attempt σ σ) :=
  fun _ held => held

theorem maintains_fail (property : σ → Prop) (fault : Fault) : Maintains property (fail fault : Attempt σ α) :=
  fun _ held => held

theorem maintains_of (property : σ → Prop) (result : Except Fault α) : Maintains property (of result : Attempt σ α) :=
  fun _ held => held

theorem maintains_update {property : σ → Prop} {change : σ → σ}
    (kept : ∀ before, property before → property (change before)) : Maintains property (update change) :=
  kept

theorem Maintains.tried {property : σ → Prop} {attempt : Attempt σ α} (maintains : Maintains property attempt) :
    Maintains property attempt.tried :=
  maintains

theorem Maintains.bind {property : σ → Prop} {first : Attempt σ α} {next : α → Attempt σ β}
    (maintains : Maintains property first) (later : ∀ value, Maintains property (next value)) :
    Maintains property (first >>= next) := by
  intro before held
  have kept := maintains before held
  rcases ran : first before with ⟨fault | value, middle, notes⟩
  all_goals rw [ran] at kept
  · rw [bind_of_error ran]
    exact kept
  · rw [bind_of_ok ran]
    exact later value middle kept

/-- An attempt that has nothing to do with stores, and whose calls are written down as they are noted. -/
def Calls (made : σ → List Call) (attempt : Attempt σ α) : Prop :=
  ∀ before, made (attempt before).state = made before ++ (attempt before).notes.filterMap Note.made? ∧
    (attempt before).notes.filter Note.isOfStore = []

theorem calls_pure (made : σ → List Call) (value : α) : Calls made (pure value : Attempt σ α) :=
  fun _ => ⟨(List.append_nil _).symm, rfl⟩

theorem calls_read (made : σ → List Call) : Calls made (state : Attempt σ σ) :=
  fun _ => ⟨(List.append_nil _).symm, rfl⟩

theorem calls_fail (made : σ → List Call) (fault : Fault) : Calls made (fail fault : Attempt σ α) :=
  fun _ => ⟨(List.append_nil _).symm, rfl⟩

theorem calls_of (made : σ → List Call) (result : Except Fault α) : Calls made (of result : Attempt σ α) :=
  fun _ => ⟨(List.append_nil _).symm, rfl⟩

theorem calls_update {made : σ → List Call} {change : σ → σ} (same : ∀ before, made (change before) = made before) :
    Calls made (update change) :=
  fun before => ⟨(same before).trans (List.append_nil _).symm, rfl⟩

theorem calls_note {made : σ → List Call} {notes : List Note} (silent : notes.filterMap Note.made? = [])
    (apart : notes.filter Note.isOfStore = []) : Calls made (note notes) :=
  fun _ => ⟨by rw [note, silent, List.append_nil], apart⟩

theorem calls_log (made : σ → List Call) (channel : Channel) (level : Level) (message : String) :
    Calls made (Attempt.log channel level message) :=
  calls_note rfl rfl

theorem Calls.tried {made : σ → List Call} {attempt : Attempt σ α} (calls : Calls made attempt) :
    Calls made attempt.tried :=
  calls

theorem Calls.bind {made : σ → List Call} {first : Attempt σ α} {next : α → Attempt σ β} (calls : Calls made first)
    (later : ∀ value, Calls made (next value)) : Calls made (first >>= next) := by
  intro before
  obtain ⟨written, apart⟩ := calls before
  rcases ran : first before with ⟨fault | value, middle, notes⟩
  all_goals rw [ran] at written apart
  · rw [bind_of_error ran]
    exact ⟨written, apart⟩
  · obtain ⟨then_written, then_apart⟩ := later value middle
    rw [bind_of_ok ran]
    refine ⟨?_, ?_⟩
    · rw [List.filterMap_append, ← List.append_assoc, ← written]
      exact then_written
    · rw [List.filter_append, apart, then_apart, List.append_nil]

/-- Outcomes that are alike, where the second is of a part of the state of the first: with the same result and, but for
log records about documents, the same notes. The state of the first has to stay sound. -/
structure Alike (part : σ → τ) (sound : σ → Prop) (first : Outcome σ α) (second : Outcome τ α) : Prop where
  result : second.result = first.result
  state : second.state = part first.state
  notes : second.notes.filter Note.isShared = first.notes.filter Note.isShared
  sound : sound first.state

/-- What goes on alike from outcomes that are alike. -/
theorem Alike.bind {part : σ → τ} {sound : σ → Prop} {first : Attempt σ α} {second : Attempt τ α}
    {next : α → Attempt σ β} {other : α → Attempt τ β} {before : σ} {start : τ}
    (alike : Alike part sound (first before) (second start))
    (later : ∀ value, (first before).result = .ok value → sound (first before).state →
      Alike part sound (next value (first before).state) (other value (part (first before).state))) :
    Alike part sound ((first >>= next) before) ((second >>= other) start) := by
  obtain ⟨result, state, notes, held⟩ := alike
  rcases ran : first before with ⟨fault | value, middle, told⟩
  all_goals
    rcases other_ran : second start with ⟨_, otherMiddle, otherTold⟩
    rw [ran] at result state notes held later
    rw [other_ran] at result state notes
    obtain rfl := result
    obtain rfl := state
  · rw [bind_of_error ran, bind_of_error other_ran]
    exact ⟨rfl, rfl, notes, held⟩
  · obtain ⟨then_result, then_state, then_notes, then_held⟩ := later value rfl held
    rw [bind_of_ok ran, bind_of_ok other_ran]
    refine ⟨then_result, then_state, ?_, then_held⟩
    rw [List.filter_append, List.filter_append, notes, then_notes]

theorem Alike.noted {part : σ → τ} {sound : σ → Prop} {next : Unit → Attempt σ α} {other : Unit → Attempt τ α}
    {before : σ} {start : τ} (alike : Alike part sound (next () before) (other () start)) (notes : List Note) :
    Alike part sound ((note notes >>= next) before) ((note notes >>= other) start) := by
  obtain ⟨result, state, told, held⟩ := alike
  refine ⟨result, state, ?_, held⟩
  simp only [note_then, List.filter_append, told]

theorem Alike.tried {part : σ → τ} {sound : σ → Prop} {first : Attempt σ α} {second : Attempt τ α} {before : σ}
    {start : τ} (alike : Alike part sound (first before) (second start)) :
    Alike part sound (first.tried before) (second.tried start) :=
  ⟨congrArg Except.ok alike.result, alike.state, alike.notes, alike.sound⟩

@[simp] theorem bare_on (part : σ → τ) (put : τ → σ → σ) (attempt : Attempt τ α) :
    (attempt.on part put).bare = attempt.bare.on part put := rfl

end Attempt

end ImageOperator
