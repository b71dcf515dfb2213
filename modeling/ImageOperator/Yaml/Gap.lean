import ImageOperator.Yaml.Cursor
/-!
White space inside a scalar that runs over several lines. Spaces within a line stand for themselves; a single line
break becomes a space, of more breaks the first is left out, and spaces beside a break vanish.
-/

set_option autoImplicit false

namespace ImageOperator.Yaml

inductive Gap
  /-- Spaces within a line, latest first. -/
  | spaces (run : List Char)
  /-- The first line break and the further ones, latest first. -/
  | breaks (first : Char) (more : List Char)
  /-- Line breaks after one that is escaped, latest first. -/
  | joined (more : List Char)

namespace Gap

def none : Gap := .spaces []

def isNone : Gap → Bool
  | .spaces [] => true
  | _ => false

def addSpace (gap : Gap) (c : Char) : Gap :=
  match gap with
  | .spaces run => .spaces (c :: run)
  | gap => gap

def addBreak (gap : Gap) (c : Char) : Gap :=
  match gap with
  | .spaces _ => .breaks c []
  | .breaks first more => .breaks first (c :: more)
  | .joined more => .joined (c :: more)

/-- What the white space stands for, latest first. -/
def chars : Gap → List Char
  | .spaces run => run
  | .breaks '\n' [] => [' ']
  | .breaks '\n' more => more
  | .breaks first more => more ++ [first]
  | .joined more => more

/-- Whether a line break has been passed. -/
def hasBreak : Gap → Bool
  | .spaces _ => false
  | .breaks _ _ | .joined _ => true

end Gap

end ImageOperator.Yaml
