import ImageOperator.Fault
/-!
Spellings of dates and timestamps in documents. Between date and time stands a letter or blanks, the fraction of a
second is cut after six digits, and an offset may follow. A plain scalar is a date only with two digits for month
and day.
-/

set_option autoImplicit false

namespace ImageOperator.Yaml

/-- A date as it is spelled, and a time of day when there is one. -/
structure Moment where
  year : Nat
  month : Nat
  day : Nat
  /-- Whether month and day both have two digits. -/
  full : Bool
  time : Option (Nat × Nat × Nat)
  fraction : List Char
  /-- Minutes east of universal time. -/
  offset : Option Int

namespace Moment

def number (digits : List Char) : Nat :=
  digits.foldl (fun value c => value * 10 + (c.toNat - 0x30)) 0

/-- A number of at most `most` digits, how many there are, and the rest. -/
def digits (most : Nat) (cs : List Char) : Nat × Nat × List Char :=
  let taken := (cs.take most).takeWhile Char.isDigit
  (number taken, taken.length, cs.drop taken.length)

/-- A number of exactly two digits after a mark. -/
def pair? (mark : Char) : List Char → Option (Nat × List Char)
  | c :: a :: b :: rest => if c = mark && a.isDigit && b.isDigit then some (number [a, b], rest) else none
  | _ => none

/-- The offset at the end: none, the letter for universal time, or hours and perhaps minutes with a sign. -/
def offset? (cs : List Char) : Option (Option Int) :=
  match cs.dropWhile fun c => c = ' ' || c = '\t' with
  | [] => if cs.isEmpty then some none else none
  | ['Z'] => some (some 0)
  | sign :: rest =>
    if sign = '+' || sign = '-' then
      let (hours, count, rest) := digits 2 rest
      let minutes? : Option Nat :=
        match rest with
        | [] => some 0
        | rest =>
          match pair? ':' rest with
          | some (minutes, []) => some minutes
          | _ => none
      if count = 0 then none
      else minutes?.map fun minutes =>
        let span : Int := hours * 60 + minutes
        some (if sign = '-' then -span else span)
    else none

/-- What follows the date: the rest starts at the hour. -/
def afterDate? : List Char → Option (List Char)
  | 'T' :: rest | 't' :: rest => some rest
  | c :: rest =>
    if c = ' ' || c = '\t' then some (rest.dropWhile fun c => c = ' ' || c = '\t') else none
  | [] => none

def time? (date : Moment) (cs : List Char) : Option Moment := do
  let (hour, count, rest) := digits 2 (← afterDate? cs)
  if count = 0 then none
  let (minute, rest) ← pair? ':' rest
  let (second, rest) ← pair? ':' rest
  let (fraction, rest) :=
    match rest with
    | '.' :: more => (more.takeWhile Char.isDigit, more.dropWhile Char.isDigit)
    | rest => ([], rest)
  let offset ← offset? rest
  return { date with time := some (hour, minute, second), fraction, offset }

/-- The moment that a text spells. -/
def ofChars? (cs : List Char) : Option Moment := do
  let (year, yearCount, rest) := digits 4 cs
  if yearCount ≠ 4 || rest.head? ≠ some '-' then none
  let (month, monthCount, rest) := digits 2 rest.tail
  if monthCount = 0 || rest.head? ≠ some '-' then none
  let (day, dayCount, rest) := digits 2 rest.tail
  if dayCount = 0 then none
  let date : Moment := ⟨year, month, day, monthCount = 2 && dayCount = 2, none, [], none⟩
  if rest.isEmpty then some date else time? date rest

/-- Whether a plain scalar with this spelling is a date or timestamp. -/
def isPlain (moment : Moment) : Bool :=
  moment.full || moment.time.isSome

/-- The microseconds of a fraction, its digits beyond the sixth left out. -/
def microseconds (fraction : List Char) : Nat :=
  number ((fraction ++ List.replicate 6 '0').take 6)

/-- The date or timestamp, where the calendar has it. -/
def value (moment : Moment) : Except Fault Value :=
  let date : Date := ⟨moment.year, moment.month, moment.day⟩
  match moment.time with
  | none => if date.isValid then .ok (.date date) else .error .scalarInvalid
  | some (hour, minute, second) =>
    let timestamp : Timestamp := ⟨date, hour, minute, second, microseconds moment.fraction, moment.offset⟩
    if timestamp.isValid then .ok (.timestamp timestamp) else .error .scalarInvalid

end Moment

end ImageOperator.Yaml
