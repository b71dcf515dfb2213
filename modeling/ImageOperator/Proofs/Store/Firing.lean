import ImageOperator.Proofs.Store.Told
import ImageOperator.Proofs.Store.Unheeded

set_option autoImplicit false

/-!
Every change reaches everyone who listens for it once, and nobody is called whose registration was removed. Listeners
remove registrations while a change is told, so what they have done is read off their past: of all that goes on among
them, each removal strikes one registration, and nothing else strikes any.
-/

namespace ImageOperator

/-! ### Striking registrations -/

section

variable {α : Type} {struck kept : α → Bool}

/-- What is erased may be dropped before or after, if all that could be erased is kept or none of it. -/
theorem filter_eraseP_of_alike (alike : ∀ one other, struck one = true → struck other = true → kept one = kept other)
    (list : List α) : (list.eraseP struck).filter kept = (list.filter kept).eraseP struck := by
  induction list with
  | nil => rfl
  | cons first rest ih =>
    by_cases own : struck first = true
    · rw [List.eraseP_cons_of_pos own]
      by_cases keeps : kept first = true
      · rw [List.filter_cons_of_pos keeps, List.eraseP_cons_of_pos own]
      · rw [List.filter_cons_of_neg keeps, List.eraseP_of_forall_not]
        intro other held hit
        have same := alike first other own hit
        exact keeps (same.trans (List.mem_filter.mp held).2)
    · rw [List.eraseP_cons_of_neg own]
      by_cases keeps : kept first = true
      · rw [List.filter_cons_of_pos keeps, List.filter_cons_of_pos keeps, List.eraseP_cons_of_neg own, ih]
      · rw [List.filter_cons_of_neg keeps, List.filter_cons_of_neg keeps, ih]

/-- Where one at most could be erased, the others stay. -/
theorem eraseP_eq_filter_of_single {list : List α}
    (single : list.Pairwise fun one other => struck one = true → struck other = false) :
    list.eraseP struck = list.filter fun one => !struck one := by
  induction list with
  | nil => rfl
  | cons first rest ih =>
    obtain ⟨apart, later⟩ := List.pairwise_cons.mp single
    by_cases own : struck first = true
    · rw [List.eraseP_cons_of_pos own, List.filter_cons_of_neg (by simp [own]), List.filter_eq_self.mpr]
      intro other held
      simp [apart other held own]
    · rw [List.eraseP_cons_of_neg own, List.filter_cons_of_pos (by simp [own]), ih later]

end

namespace Occurrence

/-- Whether a remover of a registration is called. -/
def removes : Occurrence → Registration → Bool
  | .removed remover, registration =>
    registration.change = remover.change && registration.listener = remover.listener
  | .told _ _ _ _, _ => false

/-- Registrations after an occurrence: the first whose remover is called is gone. -/
def strike (registrations : List Registration) (occurrence : Occurrence) : List Registration :=
  registrations.eraseP occurrence.removes

variable {registration other : Registration} {occurrence : Occurrence}

theorem same_of_removes (first : occurrence.removes registration = true) (second : occurrence.removes other = true) :
    registration.change = other.change ∧ registration.listener = other.listener := by
  cases occurrence with
  | told listener change id image => cases first
  | removed remover =>
    simp only [removes, Bool.and_eq_true, decide_eq_true_eq] at first second
    exact ⟨first.1.trans second.1.symm, first.2.trans second.2.symm⟩

/-- The registrations that are left after all that went on. -/
def strikeAll (registrations : List Registration) (since : List Occurrence) : List Registration :=
  since.foldl strike registrations

/-- It does not matter that others are registered as well, for other changes or with other listeners. -/
theorem strikeAll_filter {kept : Registration → Bool}
    (alike : ∀ one other, one.change = other.change → one.listener = other.listener → kept one = kept other)
    (since : List Occurrence) (registrations : List Registration) :
    (strikeAll registrations since).filter kept = strikeAll (registrations.filter kept) since := by
  induction since generalizing registrations with
  | nil => rfl
  | cons occurrence rest ih =>
    have once : (strike registrations occurrence).filter kept = strike (registrations.filter kept) occurrence := by
      apply filter_eraseP_of_alike
      intro one other first second
      obtain ⟨change, listener⟩ := same_of_removes first second
      exact alike one other change listener
    change (strikeAll (strike registrations occurrence) rest).filter kept =
      strikeAll (strike (registrations.filter kept) occurrence) rest
    rw [ih, once]

/-- Of different listeners those are left whose remover was not called. -/
theorem strikeAll_of_distinct {registrations : List Registration}
    (distinct : (registrations.map (·.listener)).Nodup) (since : List Occurrence) :
    strikeAll registrations since = registrations.filter fun registration => !since.any (·.removes registration) := by
  induction since generalizing registrations with
  | nil => exact (List.filter_eq_self.mpr fun _ _ => rfl).symm
  | cons occurrence rest ih =>
    have single : registrations.Pairwise fun one other =>
        occurrence.removes one = true → occurrence.removes other = false := by
      apply (List.pairwise_map.mp distinct).imp
      intro one other apart first
      by_cases second : occurrence.removes other = true
      · exact absurd (same_of_removes first second).2 apart
      · exact Bool.eq_false_iff.mpr second
    have once : strike registrations occurrence = registrations.filter fun one => !occurrence.removes one :=
      eraseP_eq_filter_of_single single
    have still : ((strike registrations occurrence).map (·.listener)).Nodup :=
      distinct.sublist (List.eraseP_sublist.map _)
    change strikeAll (strike registrations occurrence) rest = _
    rw [ih still, once, List.filter_filter]
    apply List.filter_congr
    intro registration _
    rw [List.any_cons, Bool.not_or, Bool.and_comm]

end Occurrence

/-- Whether a registration is for a change, with one of some listeners. -/
def Registration.among (change : Change) (listeners : List String) (registration : Registration) : Bool :=
  registration.change = change && listeners.contains registration.listener

namespace Audience

open Occurrence (strikeAll strikeAll_filter)

variable {before middle after : Audience} {newcomers others : List Registration} {since more : List Occurrence}

/-- How an audience comes about from another: some things go on, and of listeners with whom no newcomer shares the name,
those are left whom what goes on does not strike. -/
structure Since (before after : Audience) (newcomers : List Registration) (since : List Occurrence) : Prop where
  past : after.past = before.past ++ since
  left : ∀ change listeners, (∀ newcomer ∈ newcomers, newcomer.among change listeners = false) →
    after.registrations.filter (·.among change listeners) =
      strikeAll (before.registrations.filter (·.among change listeners)) since

theorem since_refl (audience : Audience) : audience.Since audience [] [] :=
  ⟨(List.append_nil _).symm, fun _ _ _ => rfl⟩

theorem Since.trans (first : before.Since middle newcomers since) (second : middle.Since after others more) :
    before.Since after (newcomers ++ others) (since ++ more) := by
  constructor
  · rw [second.past, first.past, List.append_assoc]
  · intro change listeners apart
    have before_apart := first.left change listeners fun newcomer came => apart newcomer (List.mem_append_left _ came)
    have after_apart := second.left change listeners fun newcomer came => apart newcomer (List.mem_append_right _ came)
    rw [after_apart, before_apart]
    exact List.foldl_append.symm

/-- Nobody new registers by what only goes on. -/
theorem since_of_left {occurrence : Occurrence} (past : after.past = before.past ++ [occurrence])
    (left : after.registrations = strikeAll before.registrations [occurrence]) :
    before.Since after [] [occurrence] := by
  constructor
  · exact past
  · intro change listeners _
    rw [left]
    apply strikeAll_filter
    intro one other same listens
    unfold Registration.among
    rw [same, listens]

theorem since_live (audience : Audience) (listener : String) (change : Change) (id : ObjectId) (image : Image) :
    audience.Since (audience.live (.told listener change id image)) [] [.told listener change id image] := by
  apply since_of_left
  · rfl
  · exact (List.eraseP_of_forall_not fun _ _ => Bool.false_ne_true).symm

theorem since_remove (audience : Audience) (remover : Remover) :
    audience.Since (audience.remove remover) [] [.removed remover] :=
  since_of_left rfl rfl

theorem since_register (audience : Audience) (registration : Registration) (handle : String) :
    audience.Since (audience.register registration handle) [registration] [] := by
  constructor
  · exact (List.append_nil _).symm
  · intro change listeners apart
    have other := apart registration List.mem_cons_self
    change (audience.registrations ++ [registration]).filter (·.among change listeners) = _
    rw [List.filter_append, List.filter_cons_of_neg (by simp [other])]
    exact List.append_nil _

/-- One audience comes about from another without newcomers. -/
def Becomes (before after : Audience) : Prop :=
  ∃ since, before.Since after [] since

theorem becomes_refl (audience : Audience) : audience.Becomes audience :=
  ⟨[], since_refl audience⟩

theorem Becomes.trans (first : before.Becomes middle) (second : middle.Becomes after) : before.Becomes after := by
  obtain ⟨since, first⟩ := first
  obtain ⟨more, second⟩ := second
  exact ⟨since ++ more, first.trans second⟩

/-- The listeners for a change. -/
def listeners (audience : Audience) (change : Change) : List String :=
  (audience.registered change).map (·.listener)

/-- The registrations for a change of which no remover was called since. -/
def remaining (audience : Audience) (change : Change) (since : List Occurrence) : List Registration :=
  (audience.registered change).filter fun registration => !since.any (·.removes registration)

/-- The registrations for a change are those among its listeners. -/
theorem registered_among (audience : Audience) (change : Change) :
    audience.registrations.filter (·.among change (audience.listeners change)) = audience.registered change := by
  apply List.filter_congr
  intro registration registered
  by_cases same : registration.change = change
  · have own : registration.listener ∈ audience.listeners change :=
      List.mem_map_of_mem (List.mem_filter.mpr ⟨registered, decide_eq_true same⟩)
    simp [Registration.among, same, own]
  · simp [Registration.among, same]

theorem becomes_act (acts : List Act) (audience : Audience) (image : Image) :
    audience.Becomes (act acts audience image).1 := by
  induction acts generalizing audience image with
  | nil => exact becomes_refl audience
  | cons first rest ih =>
    cases first with
    | edit change => exact ih audience (change image)
    | fail => exact becomes_refl audience
    | unlisten handle =>
      simp only [act]
      cases audience.remover? handle with
      | none => exact becomes_refl audience
      | some remover => exact Becomes.trans ⟨_, since_remove audience remover⟩ (ih (audience.remove remover) image)

theorem becomes_tell (change : Change) (id : ObjectId) (image : Image) (registrations : List Registration)
    (audience : Audience) : audience.Becomes (tell change id image registrations audience).1 := by
  induction registrations generalizing audience with
  | nil => exact becomes_refl audience
  | cons registration rest ih =>
    have reacted : audience.Becomes (audience.react registration change id image).1 :=
      Becomes.trans ⟨_, since_live audience registration.listener change id image⟩ (becomes_act _ _ image)
    exact reacted.trans (ih _)

end Audience

namespace Depot

variable {α : Type}

/-- Nobody new registers by what does not look at who listens. -/
theorem Deaf.becomes {attempt : Attempt Depot α} (deaf : Deaf attempt) (depot : Depot) :
    depot.audience.Becomes (attempt depot).state.audience := by
  induction deaf generalizing depot with
  | of | note => exact Audience.becomes_refl depot.audience
  | update apart =>
    have same := congrArg Depot.audience (apart depot depot.audience)
    exact same ▸ Audience.becomes_refl depot.audience
  | read apart later ih => exact ih depot depot
  | fire change image =>
    exact Audience.becomes_tell change image.id image (depot.audience.registered change) depot.audience
  | @bind _ _ first next begins later first_ih later_ih =>
    have begun := first_ih depot
    rcases ran : first depot with ⟨fault | value, middle, notes⟩
    all_goals rw [ran] at begun
    · rw [Attempt.bind_of_error ran]
      exact begun
    · rw [Attempt.bind_of_ok ran]
      exact begun.trans (later_ih value middle)

/-- What an operation on a store tells once it is done, and the image that it is about. -/
def Operation.event? (depot : Depot) : Operation → Option (Change × Image)
  | .put image | .request (.add image) => some (.added, image)
  | .request asked => (asked.image? depot).map fun image => (turning image, image)
  | .get _ | .list | .load => none

variable {depot : Depot} {change : Change} {image : Image}

/-- The answer adds nothing to what was told. -/
theorem reaches_answered {attempt : Attempt Depot Unit} {reply answer : Reply}
    (done : ((attempt >>= fun _ => (pure reply : Attempt Depot Reply)) depot).result = .ok answer)
    (reaches : (attempt depot).result = .ok () → Reaches depot.audience change image (attempt depot)) :
    Reaches depot.audience change image ((attempt >>= fun _ => (pure reply : Attempt Depot Reply)) depot) := by
  rcases ran : attempt depot with ⟨fault | value, after, notes⟩
  all_goals rw [ran] at reaches
  · rw [Attempt.bind_of_error ran] at done
    cases done
  · obtain ⟨called, heard, stored⟩ := reaches rfl
    rw [Attempt.bind_of_ok ran]
    constructor
    · rw [← called]
      exact congrArg _ (List.append_nil notes)
    · exact heard
    · exact stored

theorem reaches_requestDeletion {id : ObjectId} {now : String}
    (handed : ((Request.delete id now).image? depot) = some image)
    (done : (requestDeletion id now depot).result = .ok ()) :
    Reaches depot.audience (turning image) image (requestDeletion id now depot) := by
  have deletes := requestDeletion_deletes id now depot
  simp only [Request.image?] at handed
  generalize requestDeletion id now depot = outcome at deletes done
  cases deletes with
  | unknown | absent => cases done
  | handed known stored =>
    rw [known, Option.bind_some, stored] at handed
    obtain rfl := Option.some.inj handed
    obtain ⟨called, heard, stored⟩ := reaches_persist done
    exact ⟨called, heard, stored⟩

theorem reaches_run {operation : Operation} (event : operation.event? depot = some (change, image)) {reply : Reply}
    (done : (operation.run depot).result = .ok reply) :
    Reaches depot.audience change image (operation.run depot) := by
  cases operation with
  | get | list | load => cases event
  | put other =>
    cases event
    exact reaches_answered done reaches_addObject
  | request asked =>
    apply reaches_answered done
    intro asked_done
    cases asked with
    | add other =>
      cases event
      exact reaches_addWritten asked_done
    | persist other =>
      cases event
      exact reaches_persist asked_done
    | delete id now =>
      obtain ⟨own, handed, same⟩ := Option.map_eq_some_iff.mp event
      cases same
      exact reaches_requestDeletion handed asked_done

/-! ### Who is called later -/

/-- Who registers while something happens. -/
def Happening.newcomer? : Happening → Option Registration
  | .listened registration _ => some registration
  | .used _ | .unlistened _ => none

/-- Whatever happens, some things go on among the listeners. -/
theorem since_of_happenings (happenings : List Happening) (depot : Depot) :
    ∃ since, depot.audience.Since (depot.afterAll happenings).audience (happenings.filterMap Happening.newcomer?)
      since := by
  induction happenings generalizing depot with
  | nil => exact ⟨[], Audience.since_refl depot.audience⟩
  | cons happening rest ih =>
    obtain ⟨later, goes⟩ := ih (happening.after depot)
    cases happening with
    | used operation =>
      obtain ⟨since, began⟩ := (deaf_run operation).becomes depot
      exact ⟨since ++ later, began.trans goes⟩
    | listened registration handle =>
      exact ⟨later, (Audience.since_register depot.audience registration handle).trans goes⟩
    | unlistened remover => exact ⟨_, (Audience.since_remove depot.audience remover).trans goes⟩

/-- The call of a registered listener. -/
def callOf (change : Change) (image : Image) (registration : Registration) : Note :=
  .fired registration.listener change image.id image

/-- Whether a note is of calling one of some listeners. -/
def isCallOf (listeners : List String) : Note → Bool
  | .fired listener _ _ _ => listeners.contains listener
  | _ => false

/-- Of those who are registered now, the ones are called that are among some listeners. -/
theorem fire_calls (depot : Depot) (change : Change) (image : Image) (listeners : List String) :
    (fire change image depot).notes.filter (isCallOf listeners) =
      (depot.audience.registrations.filter (·.among change listeners)).map (callOf change image) := by
  have within : ∀ note, (isCallOf listeners note && note.isFired) = isCallOf listeners note := by
    intro note
    cases note <;> simp [isCallOf, Note.isFired]
  have fired := congrArg (List.filter (isCallOf listeners)) (fire_fired change image depot)
  rw [List.filter_filter, List.filter_congr fun note _ => within note] at fired
  rw [fired, Audience.calls, Audience.registered, List.filter_map, List.filter_filter]
  apply congrArg
  apply List.filter_congr
  intro registration _
  exact Bool.and_comm _ _

/-- Every change reaches everyone who listens for it once. To tell a change calls all who are registered for it when the
telling begins, and nobody else, in the order of their registration, each with the identifier and the image of the
change, whatever they do; and an operation that is done tells the image that it has left in the store or taken out.
Meanwhile and later some things go on among the listeners. If they are all different, and nobody of the same name
registers anew, those whose remover was called are not called any more when a change is told later, and all others are,
in the same order. -/
theorem change_reaches_everyone (depot : Depot) (change : Change) (image : Image) :
    (fire change image depot).notes.filter Note.isFired = depot.audience.calls change image ∧
      (∀ (operation : Operation) (reply : Reply), operation.event? depot = some (change, image) →
        (operation.run depot).result = .ok reply → Reaches depot.audience change image (operation.run depot)) ∧
      ∃ during, (fire change image depot).state.audience.past = depot.audience.past ++ during ∧
        ∀ (next : Depot) (happenings : List Happening), next.audience = (fire change image depot).state.audience →
          ∃ later, (next.afterAll happenings).audience.past = depot.audience.past ++ during ++ later ∧
            ∀ event told, (depot.audience.listeners event).Nodup →
              (∀ newcomer ∈ happenings.filterMap Happening.newcomer?,
                newcomer.among event (depot.audience.listeners event) = false) →
              (fire event told (next.afterAll happenings)).notes.filter (isCallOf (depot.audience.listeners event)) =
                (depot.audience.remaining event (during ++ later)).map (callOf event told) := by
  refine ⟨fire_fired change image depot, fun _ _ event done => reaches_run event done, ?_⟩
  obtain ⟨during, began⟩ := (Deaf.fire change image).becomes depot
  refine ⟨during, began.past, ?_⟩
  intro next happenings same
  obtain ⟨later, goes⟩ := since_of_happenings happenings next
  rw [same] at goes
  have whole := began.trans goes
  refine ⟨later, whole.past.trans (List.append_assoc _ _ _).symm, ?_⟩
  intro event told distinct apart
  rw [fire_calls, whole.left event _ apart, depot.audience.registered_among, Occurrence.strikeAll_of_distinct distinct]
  rfl

namespace Trial

/-- Somebody who changes the image, takes the neighbour away and breaks, between two that only listen. -/
def quarrel : Audience where
  registrations :=
    [⟨.added, "first", .records⟩,
      ⟨.added, "second", fun _ => [.edit fun image => { image with finalizers := [] }, .unlisten "third", .fail]⟩,
      ⟨.added, "third", .records⟩, ⟨.persisted, "third", .records⟩, ⟨.added, "fourth", .fails⟩]
  removers := [⟨"third", .added, "third"⟩]
  past := []

def quarrelling : Depot := ⟨[], quarrel, none⟩

end Trial

/-- The neighbour is still called by the change during which it is taken away, and by no later one. -/
theorem change_reaches_everyone_of_quarrel :
    ((Operation.put Trial.clung).run Trial.quarrelling).notes.filter Note.isFired =
        ["first", "second", "third", "fourth"].map (.fired · .added Trial.clung.id Trial.clung) ∧
      ((fire .added (Trial.clung.marked "noon")
        (((Operation.put Trial.clung).run Trial.quarrelling).state.afterAll
          [.listened ⟨.added, "fifth", .records⟩ "fifth"])).notes.filter
            (isCallOf ["first", "second", "third", "fourth"])) =
        ["first", "second", "fourth"].map (.fired · .added Trial.clung.id (Trial.clung.marked "noon")) := by
  obtain ⟨-, tells, during, -, later⟩ := change_reaches_everyone Trial.quarrelling .added Trial.clung
  have reaches := tells (.put Trial.clung) .done rfl rfl
  obtain ⟨more, since, again⟩ := later ((Operation.put Trial.clung).run Trial.quarrelling).state
    [.listened ⟨.added, "fifth", .records⟩ "fifth"] reaches.heard
  refine ⟨reaches.called, ?_⟩
  have called := again .added (Trial.clung.marked "noon") (by decide) (by decide)
  have past : during ++ more = _ := since.symm
  rw [past] at called
  exact called.trans rfl

end Depot

end ImageOperator
