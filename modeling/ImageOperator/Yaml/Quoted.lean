import ImageOperator.Disk.Format
import ImageOperator.Yaml.Gap
import ImageOperator.Yaml.Numeral
/-!
Quoted scalars. In single quotes a quote is written twice; in double quotes a backslash begins an escape. Both may run
over several lines, none of which may look like a line between documents. The results are the text of the scalar and
what follows its closing quote.
-/

set_option autoImplicit false

namespace ImageOperator.Yaml.Quoted

/-- What follows an opening single quote, given the text so far, latest first, and the white space behind it. -/
def single : Gap → List Char → List Char → Except ReadFault (List Char × List Char)
  | _, _, [] => .error .malformed
  | gap, text, c :: rest =>
    if isBreak c then
      if atSeparator rest then .error .malformed else single (gap.addBreak c) text rest
    else if isSpace c then single (gap.addSpace c) text rest
    else if c = '\'' then
      match rest with
      | '\'' :: more => single .none ('\'' :: (gap.chars ++ text)) more
      | _ => .ok ((gap.chars ++ text).reverse, rest)
    else single .none (c :: (gap.chars ++ text)) rest

/-- How far an escape has been read. -/
inductive Escape
  | none
  | begun
  /-- So many digits of a number are to come. -/
  | code (left value : Nat)

def letters : List (Char × Char) := [
  ('0', '\x00'), ('a', '\x07'), ('b', '\x08'), ('t', '\t'), ('\t', '\t'), ('n', '\n'), ('v', '\x0b'),
  ('f', '\x0c'), ('r', '\r'), ('e', '\x1b'), (' ', ' '), ('"', '"'), ('\\', '\\'), ('/', '/'), ('N', '\x85'),
  ('_', '\xa0'), ('L', '\u2028'), ('P', '\u2029')]

/-- How many hexadecimal digits follow a letter. -/
def codeLengths : List (Char × Nat) := [('x', 2), ('u', 4), ('U', 8)]

/-- The character with a number; a surrogate is replaced, as no text holds one. -/
def charOf (code : Nat) : Except ReadFault Char :=
  if 0x110000 ≤ code then .error (.scalar .scalarInvalid)
  else if 0xD800 ≤ code && code < 0xE000 then .ok '\uFFFD'
  else .ok (Char.ofNat code)

/-- What follows an opening double quote, given the text so far, latest first, and the white space behind it. -/
def double : Escape → Gap → List Char → List Char → Except ReadFault (List Char × List Char)
  | _, _, _, [] => .error .malformed
  | .none, gap, text, c :: rest =>
    if isBreak c then
      if atSeparator rest then .error .malformed else double .none (gap.addBreak c) text rest
    else if isSpace c then double .none (gap.addSpace c) text rest
    else if c = '"' then .ok ((gap.chars ++ text).reverse, rest)
    else if c = '\\' then double .begun .none (gap.chars ++ text) rest
    else double .none .none (c :: (gap.chars ++ text)) rest
  | .begun, _, text, c :: rest =>
    if isBreak c then
      if atSeparator rest then .error .malformed else double .none (.joined []) text rest
    else
      match letters.lookup c, codeLengths.lookup c with
      | some letter, _ => double .none .none (letter :: text) rest
      | none, some count => double (.code count 0) .none text rest
      | none, none => .error .malformed
  | .code left value, _, text, c :: rest =>
    match Numeral.digitValue? c with
    | none => .error .malformed
    | some d =>
      if left ≤ 1 then
        match charOf (value * 16 + d) with
        | .error fault => .error fault
        | .ok letter => double .none .none (letter :: text) rest
      else double (.code (left - 1) (value * 16 + d)) .none text rest

end ImageOperator.Yaml.Quoted
