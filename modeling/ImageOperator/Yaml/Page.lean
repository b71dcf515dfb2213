/-!
Pages: text that is being laid out. A page knows its column, whether its last character separates words, and whether
its current line holds nothing but indentation and marks that leave the line open for a nested collection.
-/

set_option autoImplicit false

namespace ImageOperator.Yaml

structure Page where
  /-- Latest first. -/
  chars : List Char
  column : Nat
  afterBlank : Bool
  isOpen : Bool

namespace Page

def empty : Page := ⟨[], 0, true, true⟩

def text (page : Page) : String :=
  String.ofList page.chars.reverse

def write (page : Page) (cs : List Char) : Page :=
  { page with chars := cs.reverseAux page.chars, column := page.column + cs.length }

def breakLine (page : Page) : Page :=
  ⟨'\n' :: page.chars, 0, true, true⟩

/-- Fills the line up to a column. -/
def fill (page : Page) (column : Nat) : Page :=
  if page.column < column then
    { page.write (List.replicate (column - page.column) ' ') with afterBlank := true }
  else page

/-- Goes to a column where a node of a collection begins: in the current line while it is open and has room. -/
def goTo (page : Page) (column : Nat) : Page :=
  let stays := page.isOpen && (page.column < column || (page.column = column && page.afterBlank))
  (if stays then page else page.breakLine).fill column

/-- Writes a word, apart from what precedes it. -/
def word (page : Page) (cs : List Char) : Page :=
  let page := if page.afterBlank then page else page.write [' ']
  { page.write cs with afterBlank := false, isOpen := false }

/-- Writes a mark after which a nested collection may begin in the same line. -/
def mark (page : Page) (c : Char) : Page :=
  { page.word [c] with isOpen := page.isOpen }

/-- Writes characters right behind what precedes them. -/
def close (page : Page) (cs : List Char) : Page :=
  { page.write cs with afterBlank := false, isOpen := false }

end Page

end ImageOperator.Yaml
