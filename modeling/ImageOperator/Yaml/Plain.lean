import ImageOperator.Yaml.Gap
/-!
Plain scalars. They end at a mark that means something to the structure around them, at a comment, and in a block
at a line that is not indented below the block.
-/

set_option autoImplicit false

namespace ImageOperator.Yaml.Plain

def flowMarks : List Char :=
  [',', '[', ']', '\x7b', '\x7d']

/-- Characters that never begin a plain scalar by themselves. -/
def indicators : List Char :=
  "-?:,[]\x7b\x7d#&*!|>'\"%@`".toList

/-- Whether a plain scalar begins here. -/
def begins (inFlow : Bool) : List Char → Bool
  | [] => false
  | c :: rest =>
    !(isSpace c || isBreak c || indicators.contains c) ||
      (!atWordEnd rest && (c = '-' || (!inFlow && (c = '?' || c = ':'))))

/-- Whether a word of a plain scalar ends before these characters. -/
def ends (inFlow : Bool) : List Char → Bool
  | [] => true
  | c :: rest =>
    isSpace c || isBreak c ||
      (c = ':' && (atWordEnd rest || (inFlow && rest.head?.any flowMarks.contains))) ||
      (inFlow && (c = '?' || flowMarks.contains c))

structure Result where
  text : List Char
  rest : List Char
  /-- Whether the white space behind the scalar holds a line break. -/
  endsLine : Bool

/-- Reads on, given the white space passed, the column within a later line and the text so far, latest first. -/
def scan (inFlow : Bool) (indent : Nat) : Gap → Nat → List Char → List Char → Result
  | gap, _, text, [] => ⟨text.reverse, [], gap.hasBreak⟩
  | gap, column, text, c :: rest =>
    if c = ' ' then scan inFlow indent (gap.addSpace c) (column + 1) text rest
    else if isBreak c then
      if atSeparator rest then ⟨text.reverse, rest, true⟩
      else scan inFlow indent (gap.addBreak c) 0 text rest
    else if ends inFlow (c :: rest) || (!gap.isNone && c = '#') ||
        (!inFlow && gap.hasBreak && column < indent) then
      ⟨text.reverse, c :: rest, gap.hasBreak⟩
    else scan inFlow indent .none (column + 1) (c :: (gap.chars ++ text)) rest

end ImageOperator.Yaml.Plain
