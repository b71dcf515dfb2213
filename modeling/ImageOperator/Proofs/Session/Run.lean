import ImageOperator.Proofs.Session.Moves

set_option autoImplicit false

namespace ImageOperator.Session

/-- Runs: from a session on, one permitted command after the other. The history holds each command with the session
that it was given to, the latest first. -/
inductive Run (permitted : Session → Command → Bool) (start : Session) : List (Session × Command) → Session → Prop
  | rest : Run permitted start [] start
  | step {history : List (Session × Command)} {session : Session} {command : Command}
      (ran : Run permitted start history session) (allowed : permitted session command = true) :
      Run permitted start ((session, command) :: history) (step command session).state

variable {permitted : Session → Command → Bool} {start : Session}

/-- What holds at the start and is kept by every permitted command holds at the end of a run. -/
theorem Run.holds {property : Session → Prop} (first : property start)
    (kept : ∀ session command, permitted session command = true → property session →
      property (Session.step command session).state)
    {history : List (Session × Command)} {session : Session} (ran : Run permitted start history session) :
    property session := by
  induction ran with
  | rest => exact first
  | step ran allowed ih => exact kept _ _ allowed ih

/-- What holds at the start and is kept by every permitted command held whenever a command was given. -/
theorem Run.held {property : Session → Prop} (first : property start)
    (kept : ∀ session command, permitted session command = true → property session →
      property (Session.step command session).state)
    {history : List (Session × Command)} {session : Session} (ran : Run permitted start history session) :
    ∀ before command, (before, command) ∈ history → permitted before command = true ∧ property before := by
  induction ran with
  | rest =>
    intro before command given
    exact absurd given List.not_mem_nil
  | step ran allowed ih =>
    intro before command given
    rcases List.mem_cons.mp given with latest | earlier
    · obtain ⟨rfl, rfl⟩ := Prod.mk.inj latest
      exact ⟨allowed, ran.holds first kept⟩
    · exact ih before command earlier

/-- What holds at every point of a run, of the session there and of the history up to there. -/
def Throughout (property : List (Session × Command) → Session → Prop) : List (Session × Command) → Session → Prop
  | [], session => property [] session
  | (before, command) :: earlier, session =>
    property ((before, command) :: earlier) session ∧ Throughout property earlier before

section Throughout

variable {property : List (Session × Command) → Session → Prop} {history : List (Session × Command)} {session : Session}

theorem Throughout.last (throughout : Throughout property history session) : property history session := by
  cases history with
  | nil => exact throughout
  | cons latest earlier => exact throughout.1

theorem Throughout.imp {other : List (Session × Command) → Session → Prop}
    (implies : ∀ history session, property history session → other history session)
    (throughout : Throughout property history session) : Throughout other history session := by
  induction history generalizing session with
  | nil => exact implies _ _ throughout
  | cons latest earlier ih => exact ⟨implies _ _ throughout.1, ih throughout.2⟩

theorem Throughout.given (throughout : Throughout property history session) {before : Session} {command : Command}
    (given : (before, command) ∈ history) : ∃ earlier, property earlier before := by
  induction history generalizing session with
  | nil => cases given
  | cons latest earlier ih =>
    rcases List.mem_cons.mp given with rfl | given
    · exact ⟨earlier, throughout.2.last⟩
    · exact ih throughout.2 given

end Throughout

/-- A property that hinges on what commands break it: it holds at first, and a permitted command leaves it to hold
exactly if it is none of those. The invariant is what the property needs besides, and lasts as long as it does. -/
structure Hinges (permitted : Session → Command → Bool) (start : Session)
    (invariant property : List (Session × Command) → Session → Prop) (breaks : Session → Command → Prop) : Prop where
  sound : invariant [] start
  first : property [] start
  lasts : ∀ history session command, permitted session command = true → invariant history session →
    property history session → invariant ((session, command) :: history) (step command session).state
  turns : ∀ history session command, permitted session command = true → invariant history session →
    property history session → (property ((session, command) :: history) (step command session).state ↔
      ¬ breaks session command)

section Hinges

variable {invariant property : List (Session × Command) → Session → Prop} {breaks : Session → Command → Prop}
  {history : List (Session × Command)} {session : Session}

theorem Hinges.throughout (hinges : Hinges permitted start invariant property breaks)
    (ran : Run permitted start history session)
    (harmless : ∀ before command, (before, command) ∈ history → ¬ breaks before command) :
    Throughout (fun history session => invariant history session ∧ property history session) history session := by
  induction ran with
  | rest => exact ⟨hinges.sound, hinges.first⟩
  | step ran allowed ih =>
    have throughout := ih fun before command given => harmless before command (List.mem_cons_of_mem _ given)
    obtain ⟨sound, held⟩ := throughout.last
    exact ⟨⟨hinges.lasts _ _ _ allowed sound held,
      (hinges.turns _ _ _ allowed sound held).mpr (harmless _ _ List.mem_cons_self)⟩, throughout⟩

theorem Hinges.harmless (hinges : Hinges permitted start invariant property breaks)
    (ran : Run permitted start history session) (throughout : Throughout property history session) :
    invariant history session ∧ ∀ before command, (before, command) ∈ history → ¬ breaks before command := by
  induction ran with
  | rest => exact ⟨hinges.sound, fun _ _ given => absurd given List.not_mem_nil⟩
  | step ran allowed ih =>
    obtain ⟨held, earlier⟩ := throughout
    obtain ⟨sound, harmless⟩ := ih earlier
    refine ⟨hinges.lasts _ _ _ allowed sound earlier.last, fun before command given => ?_⟩
    rcases List.mem_cons.mp given with latest | given
    · obtain ⟨rfl, rfl⟩ := Prod.mk.inj latest
      exact (hinges.turns _ _ _ allowed sound earlier.last).mp held
    · exact harmless before command given

/-- A property holds throughout a run exactly if no command was given that breaks it. -/
theorem Hinges.throughout_iff (hinges : Hinges permitted start invariant property breaks)
    (ran : Run permitted start history session) :
    Throughout property history session ↔ ∀ before command, (before, command) ∈ history → ¬ breaks before command :=
  ⟨fun throughout => (hinges.harmless ran throughout).2,
    fun harmless => (hinges.throughout ran harmless).imp fun _ _ both => both.2⟩

end Hinges

/-- The session after commands that are given one after the other. -/
def after (session : Session) : List Command → Session
  | [] => session
  | command :: rest => after (step command session).state rest

/-- A history with the commands and the sessions that they were given to put before it. -/
def past (session : Session) (history : List (Session × Command)) : List Command → List (Session × Command)
  | [] => history
  | command :: rest => past (step command session).state ((session, command) :: history) rest

/-- Whether each of the commands is permitted where it is given. -/
def permits (permitted : Session → Command → Bool) (session : Session) : List Command → Bool
  | [] => true
  | command :: rest => permitted session command && permits permitted (step command session).state rest

theorem Run.after {history : List (Session × Command)} {session : Session} (ran : Run permitted start history session)
    {commands : List Command} (allowed : permits permitted session commands = true) :
    Run permitted start (session.past history commands) (session.after commands) := by
  induction commands generalizing history session with
  | nil => exact ran
  | cons command rest ih =>
    simp only [permits, Bool.and_eq_true] at allowed
    exact ih (ran.step allowed.1) allowed.2

/-- Deeds that were noted in a step are noted of the step without what was only told. -/
theorem mem_notes_of_deed {command : Command} {session : Session} {note : Note} (deed : note.isDeed = true)
    (noted : note ∈ (step command session).notes) : note ∈ ((step command).bare session).notes :=
  (Attempt.mem_bare_notes deed).mpr noted

end ImageOperator.Session
