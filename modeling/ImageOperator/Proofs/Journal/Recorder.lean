import ImageOperator.Journal.Recorder
import ImageOperator.Proofs.Attempt

set_option autoImplicit false

/-!
Telling a recorder of an event leaves only log records and events behind, whatever the recorder is.
-/

namespace ImageOperator

/-- What is only told is no deed, no call and not of a store. -/
theorem Note.isOpen_eq_false {note : Note} (told : note.isOpen = false) :
    note.isDeed = false ∧ note.made? = none ∧ note.isOfStore = false := by
  cases note with
  | logged | recorded => exact ⟨rfl, rfl, rfl⟩
  | called | fired | requested | submitted => cases told

namespace Recorder

theorem record_apart {recorder : Recorder} {workspace : Workspace} {event : Event} {notes : List Note}
    (recorded : recorder.record workspace event = .ok notes) : ∀ note ∈ notes, note.isOpen = false := by
  induction recorder with
  | memory =>
    obtain rfl := Except.ok.inj recorded
    simp [Note.isOpen, Note.log]
  | log channel =>
    obtain rfl := Except.ok.inj recorded
    simp [Note.isOpen, Note.log]
  | failing faultAt otherwise ih =>
    unfold record at recorded
    split at recorded
    · cases recorded
    · exact ih recorded

theorem notes_apart (recorder : Recorder) (workspace : Workspace) (event : Event) :
    ∀ note ∈ recorder.notes workspace event, note.isOpen = false := by
  unfold notes
  split
  next recorded => exact record_apart recorded
  next => simp [Note.isOpen, Note.log]

theorem filter_isOpen_notes (recorder : Recorder) (workspace : Workspace) (event : Event) :
    (recorder.notes workspace event).filter Note.isOpen = [] :=
  List.filter_eq_nil_iff.mpr fun note told => by simp [notes_apart recorder workspace event note told]

theorem filter_isDeed_notes (recorder : Recorder) (workspace : Workspace) (event : Event) :
    (recorder.notes workspace event).filter Note.isDeed = [] :=
  List.filter_eq_nil_iff.mpr fun note told => by
    simp [(Note.isOpen_eq_false (notes_apart recorder workspace event note told)).1]

theorem filterMap_made?_notes (recorder : Recorder) (workspace : Workspace) (event : Event) :
    (recorder.notes workspace event).filterMap Note.made? = [] :=
  List.filterMap_eq_nil_iff.mpr fun note told =>
    (Note.isOpen_eq_false (notes_apart recorder workspace event note told)).2.1

theorem filter_isOfStore_notes (recorder : Recorder) (workspace : Workspace) (event : Event) :
    (recorder.notes workspace event).filter Note.isOfStore = [] :=
  List.filter_eq_nil_iff.mpr fun note told => by
    simp [(Note.isOpen_eq_false (notes_apart recorder workspace event note told)).2.2]

end Recorder

end ImageOperator
