import ImageOperator.Yaml.Cursor
/-!
Block scalars: lines kept as they are, or folded. All lines are indented alike, by the first of them that is not blank
unless the header says how far; what happens to the line breaks at the end is up to the header as well.
-/

set_option autoImplicit false

namespace ImageOperator.Yaml.Block

inductive Chomping
  | clip
  | strip
  | keep
deriving DecidableEq

structure Header where
  chomping : Chomping
  /-- Indentation beyond that of the collection around the scalar. -/
  increment : Option Nat

def chomping? : List Char → Option Chomping × List Char
  | '+' :: rest => (some .keep, rest)
  | '-' :: rest => (some .strip, rest)
  | cs => (none, cs)

def increment? : List Char → Option Nat × List Char
  | c :: rest => if '1' ≤ c && c ≤ '9' then (some (c.toNat - 0x30), rest) else (none, c :: rest)
  | [] => (none, [])

/-- The header behind the mark of a block scalar: chomping and increment in any order. -/
def header (cs : List Char) : Header × List Char :=
  let (before, cs) := chomping? cs
  let (increment, cs) := increment? cs
  let (after, cs) := if before.isSome then (none, cs) else chomping? cs
  (⟨(before <|> after).getD .clip, increment⟩, cs)

structure Line where
  chars : List Char
  /-- The line break, none at the end of the text. -/
  ending : Option Char

def lines : List Char → List Line
  | [] => []
  | c :: rest =>
    if isBreak c then ⟨[], some c⟩ :: lines rest
    else
      match lines rest with
      | [] => [⟨[c], none⟩]
      | line :: more => ⟨c :: line.chars, line.ending⟩ :: more

namespace Line

def indentation (line : Line) : Nat :=
  (line.chars.takeWhile (· = ' ')).length

def isBlank (line : Line) : Bool :=
  line.chars.all (· = ' ')

end Line

/-- The deepest indentation up to the first line that is not blank. -/
def deepest : List Line → Nat
  | [] => 0
  | line :: rest =>
    if line.isBlank && line.ending.isSome then max line.indentation (deepest rest) else line.indentation

/-- A block that is being read; lists of characters have the latest first. -/
structure State where
  text : List Char
  /-- The break of the last line with text. -/
  ending : Option Char
  /-- Whether that line began with a space. -/
  spaced : Bool
  /-- The breaks of the blank lines since then. -/
  breaks : List Char
  /-- How many characters have been read. -/
  length : Nat

namespace State

def empty : State := ⟨[], none, false, [], 0⟩

/-- What stands between the last line with text and the next. -/
def joint (state : State) (folded spaced : Bool) : List Char :=
  match state.ending with
  | none => []
  | some c =>
    if folded && c = '\n' && !state.spaced && !spaced then
      if state.breaks.isEmpty then [' '] else []
    else [c]

def addLine (state : State) (folded : Bool) (chars : List Char) (ending : Option Char) (length : Nat) : State :=
  let spaced := chars.head?.any isSpace
  ⟨chars.reverse ++ (state.breaks ++ (state.joint folded spaced ++ state.text)), ending, spaced, [],
    state.length + length⟩

def addBlank (state : State) (c : Char) (length : Nat) : State :=
  { state with breaks := c :: state.breaks, length := state.length + length }

/-- The text with the line breaks at its end that the chomping leaves. -/
def result (state : State) : Chomping → List Char
  | .strip => state.text.reverse
  | .clip => (state.ending.toList ++ state.text).reverse
  | .keep => (state.breaks ++ (state.ending.toList ++ state.text)).reverse

end State

/-- Reads lines up to one that is not indented far enough. -/
def read (folded : Bool) (indent : Nat) : State → List Line → State
  | state, [] => state
  | state, line :: rest =>
    if line.isBlank && line.chars.length ≤ indent then
      match line.ending with
      | some c => read folded indent (state.addBlank c (line.chars.length + 1)) rest
      | none => { state with length := state.length + line.chars.length }
    else if line.indentation < indent then { state with length := state.length + line.indentation }
    else
      let length := line.chars.length + if line.ending.isSome then 1 else 0
      read folded indent (state.addLine folded (line.chars.drop indent) line.ending length) rest

/-- The text of a block scalar and how many characters it takes, given the indentation around it. -/
def scan (folded : Bool) (outer : Nat) (header : Header) (cs : List Char) : List Char × Nat :=
  let body := lines cs
  let indent :=
    match header.increment with
    | some increment => outer + increment - 1
    | none => max outer (deepest body)
  let state := read folded indent .empty body
  (state.result header.chomping, state.length)

end ImageOperator.Yaml.Block
