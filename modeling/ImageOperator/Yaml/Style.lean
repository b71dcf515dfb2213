import ImageOperator.Yaml.Node
/-!
Styles of scalars. A text is written plain when nothing in it could be taken for structure and its tag can be told
from it, else in single quotes, in double quotes when it has a character outside printable ASCII or blanks beside a
line break. Binary data stands in a literal block.
-/

set_option autoImplicit false

namespace ImageOperator.Yaml

inductive Style
  | plain
  | single
  | double
  | literal
deriving DecidableEq

namespace Style

/-- Characters that only an escape can stand for. -/
def isSpecial (c : Char) : Bool :=
  c ≠ '\n' && !(' ' ≤ c && c ≤ '~')

def isBlank (c : Char) : Bool := c = ' ' || c = '\n'

/-- Whether a blank or the end comes next. -/
def atWordEnd : List Char → Bool
  | [] => true
  | c :: _ => isBlank c

/-- Whether two characters with given properties stand side by side. -/
def hasPair (first second : Char → Bool) : List Char → Bool
  | a :: b :: rest => (first a && second b) || hasPair first second (b :: rest)
  | _ => false

/-- Characters that mean something at the beginning of a node. -/
def indicators : List Char :=
  "#,[]\x7b\x7d&*!|>'\"%@`".toList

/-- A colon before a blank or the end, or a hash sign after a blank. -/
def hasInnerIndicator : List Char → Bool
  | [] => false
  | c :: rest =>
    (c = ':' && atWordEnd rest) || (isBlank c && rest.head? = some '#') || hasInnerIndicator rest

def startsWithIndicator : List Char → Bool
  | [] => false
  | c :: rest => indicators.contains c || ((c = '?' || c = '-') && atWordEnd rest)

/-- Whether a text begins like a line between documents. -/
def startsLikeSeparator (cs : List Char) : Bool :=
  cs.take 3 = ['-', '-', '-'] || cs.take 3 = ['.', '.', '.']

def allowsPlain (cs : List Char) : Bool :=
  cs.all (fun c => !isSpecial c && c ≠ '\n') && !cs.head?.any isBlank && !cs.getLast?.any isBlank &&
    !startsLikeSeparator cs && !startsWithIndicator cs && !hasInnerIndicator cs

def allowsSingle (cs : List Char) : Bool :=
  cs.all (fun c => !isSpecial c) && !hasPair (· = ' ') (· = '\n') cs && !hasPair (· = '\n') (· = ' ') cs

/-- Blocks hold neither special characters nor blanks before a line break or at the end. -/
def allowsLiteral (cs : List Char) : Bool :=
  !cs.isEmpty && cs.all (fun c => !isSpecial c) && !hasPair (· = ' ') (· = '\n') cs && cs.getLast? ≠ some ' '

/-- The style of a scalar; a key that stands in one line with its value is neither empty and plain nor quoted with
breaks. -/
def ofScalar (tag : Tag) (text : String) (inKey : Bool) : Style :=
  let cs := text.toList
  let multiline := cs.contains '\n'
  if tag = .binary then
    if !inKey && allowsLiteral cs then .literal else .double
  else if allowsPlain cs && Tag.ofPlain text = tag && !(inKey && cs.isEmpty) then .plain
  else if allowsSingle cs && !(inKey && multiline) then .single
  else .double

end Style

end ImageOperator.Yaml
