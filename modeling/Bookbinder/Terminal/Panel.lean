import Bookbinder.Terminal.Cells
import Bookbinder.Text.Ranges
import Bookbinder.Text.Split

/-!
A box with a title around some lines of text: two columns and one line of room on every side. Where
the terminal is too narrow for the text or even for the room, they are left out.

A row of the terminal is made of parts that are measured each by itself: what begins one part does not
join the part before it. A row that is too wide loses whole parts at its end and a piece of the part
at which it becomes too wide. Words are wrapped with the blanks behind them; one goes to the next line if it
does not fit on this one, and is folded if it fits on none.
-/

set_option autoImplicit false

/-! ### Rows -/

namespace Bookbinder.Terminal

/-- A text of so many cells: cut if it is wider, filled up with blanks if it is narrower. -/
def resize (width : Nat) (text : List Char) : List Char :=
  if width = 0 then [] else pad width (cut width text)

abbrev Row := List (List Char)

namespace Row

def cells (row : Row) : Nat := row.foldr (fun part count => Terminal.cells part + count) 0

/-- The parts of a row that is too wide, up to the one that reaches the given width. -/
def keepWithin : Nat → Row → Row
  | _, [] => []
  | width, part :: rest =>
    if Terminal.cells part < width then part :: keepWithin (width - Terminal.cells part) rest
    else [resize width part]

def crop (width : Nat) (row : Row) : Row :=
  if row.cells ≤ width then row else row.keepWithin width

/-- The row made as wide as asked for. -/
def fit (width : Nat) (row : Row) : Row :=
  if row.cells < width then row ++ [List.replicate (width - row.cells) ' '] else row.crop width

/-- The row between two texts. -/
def between (left right : List Char) (row : Row) : Row := left :: row ++ [right]

def text (row : Row) : List Char := row.flatten

theorem crop_of_le {width : Nat} {row : Row} (fits : row.cells ≤ width) : row.crop width = row := by
  simp [crop, fits]

theorem fit_of_eq {width : Nat} {row : Row} (exact : row.cells = width) : row.fit width = row := by
  simp [fit, exact, crop]

end Row

end Bookbinder.Terminal

/-! ### Word wrapping -/

namespace Bookbinder.Terminal

/-- Characters that move the cursor are taken out of what is shown. -/
def movesCursor (c : Char) : Bool :=
  c == '\x07' || c == '\x08' || c == '\x0b' || c == '\x0c' || c == '\x0d'

def withoutMoves (text : List Char) : List Char := text.filter fun c => !movesCursor c

def padToTab (text : List Char) : List Char := pad ((cells text + 7) / 8 * 8) text

/-- Every tab becomes the blanks that lead to the next column that is a multiple of eight. -/
def expandTabs (text : List Char) : List Char :=
  match (Text.splitOn '\t' text).reverse with
  | [] => []
  | last :: before => before.reverse.flatMap (padToTab ∘ (· ++ [' '])) ++ last

def trimEnd (text : List Char) : List Char := (text.reverse.dropWhile Text.blank).reverse

/-- The words from a place on; `word` is the one that is read, last character first, and `ended`
tells whether a blank stands behind it already. -/
def wordsFrom : List Char → Bool → List Char → List (List Char)
  | word, _, [] => if word.all Text.blank then [] else [word.reverse]
  | word, ended, c :: rest =>
    if Text.blank c then wordsFrom (c :: word) (!word.all Text.blank) rest
    else if ended then word.reverse :: wordsFrom [c] false rest
    else wordsFrom (c :: word) false rest

/-- The words of a line with the blanks behind them; the first one has those before it as well. A
line of blanks has none. -/
def words (line : List Char) : List (List Char) := wordsFrom [] false line

/-- Lines that are full, the last one first, and the line that is being filled. -/
structure Filling where
  full : List (List Char) := []
  line : List Char := []
  width : Nat := 0
  deriving Repr

namespace Filling

/-- Goes on in a new line. Before anything has been placed there is no line to be ended. -/
def breakLine (filling : Filling) (line : List Char) : Filling :=
  if filling.full.isEmpty && filling.line.isEmpty then ⟨[], line, cells line⟩
  else ⟨filling.line :: filling.full, line, cells line⟩

def place (available : Nat) (filling : Filling) (word : List Char) : Filling :=
  let needed := cells (trimEnd word)
  if filling.width + needed ≤ available then
    { filling with line := filling.line ++ word, width := filling.width + cells word }
  else if needed > available then (chop available word).foldl breakLine filling
  else filling.breakLine word

end Filling

/-- A line cut into lines of at most `available` cells, blanks at their ends not counted. -/
def divide (available : Nat) (line : List Char) : List (List Char) :=
  match words line with
  | [] => [line]
  | words =>
    let filling := words.foldl (Filling.place available) {}
    (filling.line :: filling.full).reverse

/-- Takes blanks off the end of a line that has more than `available` characters. -/
def dropExcess (available : Nat) (line : List Char) : List Char :=
  let blanks := (line.reverse.takeWhile Text.blank).length
  line.take (line.length - min blanks (line.length - available))

/-- The lines in which a text is shown, none of them wider than `available` cells. -/
def wrap (available : Nat) (text : List Char) : List (List Char) :=
  (Text.splitOn '\n' text).flatMap fun line =>
    (divide available (expandTabs line)).map fun part => cut available (dropExcess available part)

end Bookbinder.Terminal

/-! ### Panels -/

namespace Bookbinder.Terminal

structure Panel where
  title : String
  lines : List String
  deriving DecidableEq, Repr

namespace Panel

/-- The columns that the border takes up. -/
def borderWidth : Nat := 2

/-- The columns of room on both sides of the text. -/
def roomWidth : Nat := 4

def rule (count : Nat) : List Char := List.replicate count '─'

/-- The title between blanks in the middle of the upper border, if there is room for it. -/
def topLine (columns : Nat) (title : String) : List Char :=
  if columns ≤ 4 then '╭' :: rule (columns - 2) ++ ['╮']
  else
    let shown := cut (columns - 4) (' ' :: title.toList ++ [' '])
    let excess := columns - 4 - cells shown
    ['╭', '─'] ++ rule (excess / 2) ++ shown ++ rule (excess - excess / 2) ++ ['─', '╮']

def bottomLine (columns : Nat) : List Char := '╰' :: rule (columns - 2) ++ ['╯']

/-- What the border is drawn around in so many columns: the text with room on all its sides. -/
def inside (columns : Nat) (text : List Char) : List Row :=
  if columns = 0 then []
  else
    let available := columns - roomWidth
    let lines := if available = 0 then [] else wrap available (withoutMoves text)
    let room : Row := [List.replicate columns ' ']
    [room] ++ lines.map (fun line => (Row.fit available [line]).between [' ', ' '] [' ', ' ']) ++ [room]

def rows (panel : Panel) (columns : Nat) : List Row :=
  let available := columns - borderWidth
  [[topLine columns panel.title]] ++
    (inside available (Text.join "\n" panel.lines).toList).map
      (fun row => (row.fit available).between ['│'] ['│']) ++
    [[bottomLine columns]]

/-- The lines of the panel in a terminal of so many columns. -/
def render (panel : Panel) (columns : Nat) : List String :=
  if columns = 0 then []
  else (panel.rows columns).map fun row => String.ofList (row.crop columns).text

end Panel

end Bookbinder.Terminal
