import Bookbinder.Shell.Arithmetic
import Bookbinder.Shell.Pattern
import Bookbinder.Shell.State

/-!
What words stand for. Parameters, the output of scripts and the values of expressions take their places;
what was not quoted is cut into fields at separators, and fields that are patterns stand for the names of
files.
-/

set_option autoImplicit false

namespace Bookbinder.Shell

/-- A piece of a word in which everything has taken its place. -/
inductive Piece where
  | char (mark : Mark) (splits : Bool)
  /-- There is a field here, if an empty one. -/
  | field
  /-- The field ends here. -/
  | boundary
  deriving DecidableEq, Repr

namespace Piece

def row (text : Chars) (isQuoted splits : Bool) : List Piece :=
  text.map fun c => .char (c, isQuoted) splits

/-- Pieces as one text in which fields are separated by blanks. -/
def pattern (pieces : List Piece) : Pattern :=
  pieces.filterMap fun piece =>
    match piece with
    | .char mark _ => some mark
    | .boundary => some (' ', true)
    | .field => none

end Piece

/-- Fields while they are cut: those that are complete, the one that is being filled, and whether the one
before was ended by a blank, to which a separator may still belong. -/
structure Cutting where
  done : List Pattern
  current : Option Pattern
  afterBlank : Bool

def Cutting.close (cutting : Cutting) (afterBlank : Bool) : Cutting :=
  match cutting.current with
  | some field => ⟨cutting.done ++ [field], none, afterBlank⟩
  | none => { cutting with afterBlank := afterBlank && cutting.afterBlank }

def Cutting.fill (cutting : Cutting) (marks : Pattern) : Cutting :=
  { cutting with current := some (cutting.current.getD [] ++ marks), afterBlank := false }

def Cutting.step (separators : Chars) (cutting : Cutting) : Piece → Cutting
  | .field => cutting.fill []
  | .boundary => cutting.close false
  | .char mark splits =>
    if splits && separators.contains mark.1 then
      if isBlank mark.1 || mark.1 == '\n' then cutting.close true
      else
        match cutting.current with
        | some _ => cutting.close false
        | none =>
          if cutting.afterBlank then { cutting with afterBlank := false }
          else ⟨cutting.done ++ [[]], none, false⟩
    else cutting.fill [mark]

/-- The fields that pieces are cut into. -/
def cutFields (separators : Chars) (pieces : List Piece) : List Pattern :=
  ((pieces.foldl (Cutting.step separators) ⟨[], none, false⟩).close false).done

/-- The names in a directory. -/
def namesIn (files : FileSystem) (spot : Spot) : List Chars :=
  files.entries.filterMap fun entry =>
    if entry.1.length = spot.length + 1 ∧ spot.isPrefixOf entry.1 then
      entry.1.getLast?.map Chars.ofText
    else none

/-- The names of files that a pattern stands for, part by part between slashes. -/
def matchingPaths (state : State) : Chars → List Pattern → List Chars
  | _, [] => []
  | head, part :: others =>
    let goOn (name : Chars) : List Chars :=
      match others with
      | [] => [head ++ name]
      | _ => matchingPaths state (head ++ name ++ ['/']) others
    if !part.isOpen then
      let found := goOn part.text
      if others.isEmpty then
        found.filter fun path => state.files.isTaken state.cwd path.shown
      else found
    else
      let directory : Chars := if head.isEmpty then ['.'] else head
      match state.files.locate state.cwd true directory.shown with
      | .ok (.occupied spot) =>
        if !state.files.isDirectory spot then []
        else
          let hidden := part.head?.any fun mark => mark.1 == '.'
          let names := (if hidden then [['.'], ['.', '.']] else []) ++ namesIn state.files spot
          let fitting := names.filter fun name =>
            part.fits name && (hidden || name.head? != some '.')
          (fitting.filter fun name =>
            others.isEmpty || state.files.leadsToDirectory state.cwd (head ++ name).shown).flatMap
              goOn
      | _ => []

/-- The parts of a pattern between its slashes. -/
def patternParts (pattern : Pattern) : List Pattern :=
  pattern.foldr
    (fun mark parts =>
      if mark.1 == '/' then [] :: parts
      else
        match parts with
        | part :: others => (mark :: part) :: others
        | [] => [[mark]])
    [[]]

/-- What a field stands for: the files that fit it, in order, or itself if there are none. -/
def pathsOf (state : State) (field : Pattern) : List Chars :=
  if !field.isOpen || state.isOn 'f' then [field.text]
  else
    match matchingPaths state [] (patternParts field) with
    | [] => [field.text]
    | paths => paths.mergeSort fun first second => String.ofList first ≤ String.ofList second

/-- A home directory at the beginning of a word that is not quoted. -/
def withHome (state : State) (word : Word) : Word :=
  match word with
  | .text ('~' :: rest) false :: parts =>
    if rest.head?.all (· == '/') then
      match state.value? "HOME".toList with
      | some home => .text home true :: .text rest false :: parts
      | none => word
    else word
  | _ => word

/-- How words are replaced: `capture` gives what a script writes. -/
abbrev Capture := Script → Running Chars

/-- The pieces of all arguments, each of which is a field. -/
def argumentPieces (arguments : List Chars) (isQuoted : Bool) : List Piece :=
  let each := arguments.map fun argument =>
    (if isQuoted then [.field] else []) ++ Piece.row argument isQuoted (!isQuoted)
  List.flatten (each.intersperse [.boundary])

/-- The pieces of a parameter with a value. -/
def valuePieces (state : State) (name : Chars) (isQuoted : Bool) (value : Chars) : List Piece :=
  if name = ['@'] ∨ (name = ['*'] ∧ !isQuoted) then argumentPieces state.arguments isQuoted
  else Piece.row value isQuoted (!isQuoted)

/-- The value of an expression. -/
def calculate (text : Chars) : Running Chars := do
  let state ← get
  let lookup (name : Chars) := (state.value? name).getD []
  match Arithmetic.evaluate lookup text with
  | .error (.expression reason) =>
    Running.fail ("arithmetic expression: " ++ reason ++ ": \"" ++ text.shown ++ "\"")
  | .error (.illegalNumber value) => Running.fail ("Illegal number: " ++ value.shown)
  | .ok (value, assigned) =>
    assigned.forM fun pair => Running.assign pair.1 pair.2
    return Arithmetic.showNumber value

/-- A text without line feeds at its end. -/
def withoutFinalLines (text : Chars) : Chars := (text.reverse.dropWhile (· == '\n')).reverse

/-- A parameter that has to be set. -/
def requireSet (name : Chars) (value : Option Chars) : Running Chars := do
  let state ← get
  match value with
  | some value => return value
  | none =>
    if state.isOn 'u' ∧ name ≠ ['@'] ∧ name ≠ ['*'] then
      Running.failAbout name "parameter not set"
    return []

mutual

/-- The pieces of a word. Text in it that is not quoted is cut into fields as well if it stands for a
parameter. -/
def expand (capture : Capture) : Nat → Bool → Word → Running (List Piece)
  | 0, _, _ => return []
  | _ + 1, _, [] => return []
  | depth + 1, splitsText, part :: parts => do
    let pieces ← expandPart capture depth splitsText part
    return pieces ++ (← expand capture depth splitsText parts)

def expandPart (capture : Capture) : Nat → Bool → Part → Running (List Piece)
  | 0, _, _ => return []
  | _ + 1, splitsText, .text value isQuoted =>
    return if isQuoted then .field :: Piece.row value true false
      else Piece.row value false splitsText
  | depth + 1, _, .number expression isQuoted => do
    let text := (Piece.pattern (← expand capture depth false expression)).text
    return Piece.row (← calculate text) isQuoted (!isQuoted)
  | _ + 1, _, .output script isQuoted => do
    let written ← capture script
    return Piece.row (withoutFinalLines (written.filter (· ≠ '\x00'))) isQuoted (!isQuoted)
  | depth + 1, _, .parameter name change isQuoted => do
    let state ← get
    let value := state.parameter? name
    match change with
    | .nothing => return valuePieces state name isQuoted (← requireSet name value)
    | .length =>
      let length := (← requireSet name value).length
      return Piece.row (Nat.toDigits 10 length) isQuoted (!isQuoted)
    | .bad => Running.fail "Bad substitution"
    | .trim atFront isLongest pattern =>
      let value ← requireSet name value
      let pattern := Piece.pattern (← expand capture depth false pattern)
      return Piece.row (pattern.trim atFront isLongest value) isQuoted (!isQuoted)
    | .remedy remedy ifEmpty word =>
      let present := value.filter fun value => !(ifEmpty && value.isEmpty)
      match remedy, present with
      | .useWord, some value | .assignWord, some value | .complain, some value =>
        return valuePieces state name isQuoted value
      | .useWord, none | .replace, some _ => expand capture depth (!isQuoted) (withHome state word)
      | .replace, none => return []
      | .assignWord, none =>
        let text := (Piece.pattern (← expand capture depth false (withHome state word))).text
        if !isName name then Running.failAbout name "bad variable name"
        Running.assign name text
        return Piece.row text isQuoted (!isQuoted)
      | .complain, none =>
        let text := (Piece.pattern (← expand capture depth false word)).text
        if word.isEmpty then
          Running.failAbout name
            (if ifEmpty then "parameter not set or null" else "parameter not set")
        else Running.failAbout name text.shown

end

/-- Words are not nested more deeply than this. -/
def expansionDepth : Nat := 10000

/-- The fields that a word stands for. -/
def fieldsOf (capture : Capture) (word : Word) : Running (List Chars) := do
  let pieces ← expand capture expansionDepth false (withHome (← get) word)
  let state ← get
  return (cutFields state.separators pieces).flatMap (pathsOf state)

/-- A word as a pattern. -/
def patternOf (capture : Capture) (word : Word) : Running Pattern :=
  return Piece.pattern (← expand capture expansionDepth false (withHome (← get) word))

/-- A word as one text. -/
def textOf (capture : Capture) (word : Word) : Running Chars :=
  return (← patternOf capture word).text

example : (cutFields [':', ' '] (Piece.row "a : b::c".toList false true)).map Pattern.text =
    ["a".toList, "b".toList, [], "c".toList] := by
  decide +kernel

end Bookbinder.Shell
