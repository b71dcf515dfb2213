import ImageOperator.Text.Quoted
import ImageOperator.Yaml.Page
import ImageOperator.Yaml.Style
/-!
Layout of nodes. Collections are blocks indented by two, but a sequence that is the value of a key keeps the key's
indentation; an empty collection stands in brackets. Long scalars are folded behind the line width at single spaces.
-/

set_option autoImplicit false

namespace ImageOperator.Yaml

namespace Printer

/-- A scalar is folded at the first chance beyond this column. -/
def lineWidth : Nat := 80

/-- A key of this length or more does not stand in one line with its value. -/
def keyLimit : Nat := 128

/-! ### Scalars -/

/-- Maximal runs of spaces, of line breaks and of other characters. -/
def runs (cs : List Char) : List (List Char) :=
  cs.splitBy fun a b => (a = ' ') = (b = ' ') && (a = '\n') = (b = '\n')

def isLong (folds : Bool) (page : Page) : Bool :=
  folds && lineWidth < page.column

def plainRuns (folds : Bool) (indent : Nat) : List (List Char) → Page → Page
  | [], page => page
  | run :: rest, page =>
    plainRuns folds indent rest
      (if run = [' '] && isLong folds page then page.breakLine.fill indent else page.write run)

def breakLines : Nat → Page → Page
  | 0, page => page
  | count + 1, page => breakLines count page.breakLine

/-- A quote is written twice, and one line break more than the text has. -/
def singleRuns (folds : Bool) (indent : Nat) : Bool → List (List Char) → Page → Page
  | _, [], page => page
  | first, run :: rest, page =>
    singleRuns folds indent false rest
      (if run = [' '] && !first && !rest.isEmpty && isLong folds page then page.breakLine.fill indent
        else if run.head? = some '\n' then (breakLines (run.length + 1) page).fill indent
        else page.write (run.flatMap fun c => if c = '\'' then ['\'', '\''] else [c]))

/-- Characters with an escape of one letter. -/
def escapeLetters : List (Char × Char) := [
  ('\x00', '0'), ('\x07', 'a'), ('\x08', 'b'), ('\t', 't'), ('\n', 'n'), ('\x0b', 'v'), ('\x0c', 'f'),
  ('\r', 'r'), ('\x1b', 'e'), ('"', '"'), ('\\', '\\'), ('\x85', 'N'), ('\xa0', '_'), ('\u2028', 'L'),
  ('\u2029', 'P')]

def escape? (c : Char) : Option (List Char) :=
  match escapeLetters.lookup c with
  | some letter => some ['\\', letter]
  | none =>
    if ' ' ≤ c && c ≤ '~' then none
    else if c.toNat ≤ 0xFF then some ('\\' :: 'x' :: Text.hexChars true 2 c.toNat)
    else if c.toNat ≤ 0xFFFF then some ('\\' :: 'u' :: Text.hexChars true 4 c.toNat)
    else some ('\\' :: 'U' :: Text.hexChars true 8 c.toNat)

/-- Goes to the next line in double quotes; a space that begins it is marked. -/
def foldDouble (indent : Nat) (next : Option Char) (page : Page) : Page :=
  let page := (page.write ['\\']).breakLine.fill indent
  if next = some ' ' then page.write ['\\'] else page

/-- A line ends before a space or beside an escape, but not at either end of the text. -/
def doubleChars (folds : Bool) (indent : Nat) : Bool → Bool → List Char → Page → Page
  | _, _, [], page => page
  | first, escaped, c :: rest, page =>
    let inside := !first && !rest.isEmpty
    match escape? c with
    | some cs =>
      let page := page.write cs
      doubleChars folds indent false true rest
        (if inside && folds && lineWidth + 1 < page.column then foldDouble indent rest.head? page else page)
    | none =>
      let page :=
        if inside && (c = ' ' || escaped) && isLong folds page then foldDouble indent (some c) page else page
      doubleChars folds indent false false rest (page.write [c])

def literalRuns (indent : Nat) : List (List Char) → Page → Page
  | [], page => page
  | run :: rest, page =>
    literalRuns indent rest
      (if run.head? = some '\n' then breakLines run.length page else (page.fill indent).write run)

/-- Joins the words of a line into one run. -/
def lines (cs : List Char) : List (List Char) :=
  cs.splitBy fun a b => (a = '\n') = (b = '\n')

def scalarBody (style : Style) (folds : Bool) (indent : Nat) (cs : List Char) (page : Page) : Page :=
  match style with
  | .plain => (plainRuns folds indent (runs cs) (page.word [])).close []
  | .single => (singleRuns folds indent true (runs cs) (page.word ['\''])).close ['\'']
  | .double => (doubleChars folds indent true false cs (page.word ['"'])).close ['"']
  | .literal => literalRuns indent (lines cs) (page.word ['|']).breakLine

/-- A tag is written where the style does not imply it. -/
def scalar (tag : Tag) (text : String) (inKey : Bool) (indent : Nat) (page : Page) : Page :=
  let style := Style.ofScalar tag text inKey
  let page := if style = .plain || tag = .text then page else page.word tag.short.toList
  scalarBody style (!inKey) indent text.toList page

/-! ### Collections -/

/-- Where a node stands: the indentation of the collection around it, none at the top. -/
structure Place where
  indent : Option Nat
  inMapping : Bool

def Place.top : Place := ⟨none, false⟩

/-- The indentation of a block in a place. -/
def Place.block (place : Place) : Nat :=
  (place.indent.map (· + 2)).getD 0

def Place.scalar (place : Place) : Nat :=
  place.indent.getD 0 + 2

/-- Whether a key stands in one line with its value. -/
def isSimpleKey : Node → Bool
  | .scalar tag text =>
    tag.short.length + text.length < keyLimit && !text.isEmpty && !text.toList.contains '\n'
  | .sequence tag items => tag.short.length < keyLimit && items.isEmpty
  | .mapping tag entries => tag.short.length < keyLimit && entries.isEmpty

mutual

def node (place : Place) : Node → Page → Page
  | .scalar tag text, page => scalar tag text false place.scalar page
  | .sequence tag items, page =>
    let page := if tag = .sequence then page else page.word tag.short.toList
    if items.isEmpty then (page.word ['[']).close [']']
    else
      let indent := if place.inMapping && !page.isOpen then place.indent.getD 0 else place.block
      nodeItems indent items page
  | .mapping tag entries, page =>
    let page := if tag = .mapping then page else page.word tag.short.toList
    if entries.isEmpty then (page.word ['\x7b']).close ['\x7d'] else nodeEntries place.block entries page

def nodeItems (indent : Nat) : List Node → Page → Page
  | [], page => page
  | item :: rest, page =>
    nodeItems indent rest (node ⟨some indent, false⟩ item ((page.goTo indent).mark '-'))

def nodeEntries (indent : Nat) : List (Node × Node) → Page → Page
  | [], page => page
  | (name, value) :: rest, page =>
    let place : Place := ⟨some indent, true⟩
    let page := page.goTo indent
    let named :=
      if isSimpleKey name then (nodeKey place name page).close [':']
      else ((node place name (page.mark '?')).goTo indent).mark ':'
    nodeEntries indent rest (node place value named)

/-- A key in one line with its value is not folded. -/
def nodeKey (place : Place) : Node → Page → Page
  | .scalar tag text, page => scalar tag text true place.scalar page
  | .sequence tag items, page => node place (.sequence tag items) page
  | .mapping tag entries, page => node place (.mapping tag entries) page

end

/-- A document: its beginning is marked, and its last line is ended. -/
def document (root : Node) : String :=
  ((node .top root (Page.empty.word "---".toList)).goTo 0).text

end Printer

end ImageOperator.Yaml
