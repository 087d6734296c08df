import Bookbinder.CommandLine.Options

/-!
The help of a command, laid out for a width.
-/

set_option autoImplicit false

namespace Bookbinder.CommandLine

/-- What there is to tell about a command. The texts are paragraphs. -/
structure Help where
  usage : String
  paragraphs : List String
  /-- Spellings and what they do. -/
  options : List (String × String)
  /-- Names and what they are for. -/
  commands : List (String × String)
  deriving DecidableEq, Repr

/-- The columns that help may fill: not more than 78, and 50 even where there are less. -/
def helpWidth (columns : Nat) : Nat := max (min (if columns = 0 then 80 else columns) 80 - 2) 50

/-- A piece of text that is not broken, and whether a blank stands before it. -/
structure Piece where
  spaced : Bool
  text : List Char
  deriving DecidableEq, Repr

/-- A word may be broken after a hyphen between letters. -/
def hyphenPieces : List Char → List (List Char)
  | a :: '-' :: b :: rest =>
    if a.isAlpha && b.isAlpha then [a, '-'] :: hyphenPieces (b :: rest)
    else
      match hyphenPieces ('-' :: b :: rest) with
      | [] => [[a]]
      | first :: others => (a :: first) :: others
  | [] => []
  | a :: rest =>
    match hyphenPieces rest with
    | [] => [[a]]
    | first :: others => (a :: first) :: others

def wordPieces (word : List Char) : List Piece :=
  match hyphenPieces word with
  | [] => []
  | first :: others => ⟨true, first⟩ :: others.map (Piece.mk false)

def textWords (text : String) : List (List Char) :=
  (Text.splitOn ' ' text.toList).filter (· ≠ [])

/-- Fills lines with pieces: `line` is the one that is being filled. -/
def fillLines (width : Nat) (line : List Char) : List Piece → List (List Char)
  | [] => if line.isEmpty then [] else [line]
  | piece :: rest =>
    let longer :=
      if line.isEmpty then piece.text
      else line ++ (if piece.spaced then [' '] else []) ++ piece.text
    if line.isEmpty || longer.length ≤ width then fillLines width longer rest
    else line :: fillLines width piece.text rest

/-- The lines of a paragraph. -/
def fill (width : Nat) (text : String) : List (List Char) :=
  fillLines width [] ((textWords text).flatMap wordPieces)

def indented (columns : Nat) (line : List Char) : List Char :=
  List.replicate columns ' ' ++ line

/-- Two columns: the terms, and beside each what it means. -/
def definitionLines (width : Nat) (rows : List (String × String)) : List (List Char) :=
  let widest := (rows.map fun row => row.1.length).foldl max 0
  let start := min widest 30 + 2
  rows.flatMap fun (term, meaning) =>
    match fill (max (width - start - 2) 10) meaning with
    | [] => [indented 2 term.toList]
    | first :: others =>
      (indented 2 term.toList ++ List.replicate (start - term.length) ' ' ++ first) ::
        others.map (indented (start + 2))

/-- The words that fit, up to the end of the first sentence; what is left out is marked. -/
def shortened (limit : Nat) (text : String) : String :=
  let words := (textWords text).map String.ofList
  let sentence :=
    words.take ((words.takeWhile fun word => word.toList.getLast? ≠ some '.').length + 1)
  let fitting (count : Nat) : String := Text.join " " (words.take count)
  if (Text.join " " sentence).length ≤ limit then Text.join " " sentence
  else
    let counts := (List.range words.length).filter fun count =>
      (fitting count).length + 3 ≤ limit
    fitting (counts.foldl max 0) ++ "..."

namespace Help

def lines (help : Help) (columns : Nat) : List (List Char) :=
  let width := helpWidth columns
  let longest := (help.commands.map fun row => row.1.length).foldl max 0
  let commands := help.commands.map fun (name, text) => (name, shortened (width - 6 - longest) text)
  ["Usage: ".toList ++ help.usage.toList] ++
    help.paragraphs.flatMap (fun paragraph => [] :: (fill (width - 2) paragraph).map (indented 2)) ++
    [[], "Options:".toList] ++ definitionLines width help.options ++
    if help.commands.isEmpty then []
    else [[], "Commands:".toList] ++ definitionLines width commands

def text (help : Help) (columns : Nat) : String :=
  String.ofList (Text.joinWith ['\n'] (help.lines columns))

end Help

end Bookbinder.CommandLine
