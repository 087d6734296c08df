import Bookbinder.Template.Fault
import Bookbinder.Text.Number

/-!
Layout specs: how a value is cut and padded. Main statement: a laid out value is at least as wide as
its spec asks for.
-/

set_option autoImplicit false

namespace Bookbinder.Template

inductive Alignment where
  | left
  | right
  | centre
  | afterSign
  deriving DecidableEq, Repr

def alignment? : Char → Option Alignment
  | '<' => some .left
  | '>' => some .right
  | '^' => some .centre
  | '=' => some .afterSign
  | _ => none

structure Layout where
  fill : Char := ' '
  alignment : Alignment := .left
  sign : Option Char := none
  noNegativeZero : Bool := false
  alternate : Bool := false
  width : Option Nat := none
  separator : Option Char := none
  precision : Option Nat := none
  code : Char := 's'
  deriving DecidableEq, Repr

/-- The largest number that a template may hold. -/
def largestNumber : Nat := 0x7fffffffffffffff

def digitsValue (digits : List Char) : Nat :=
  digits.foldl (fun value c => value * 10 + (Text.decimalDigit? c).getD 0) 0

/-- The number at the start of a text, if there is one, and what follows it. -/
def leadingNumber (text : List Char) : Except Fault (Option Nat × List Char) :=
  let digits := text.takeWhile fun c => (Text.decimalDigit? c).isSome
  let rest := text.drop digits.length
  if digits.isEmpty then .ok (none, rest)
  else if digitsValue digits > largestNumber then .error .tooManyDigits
  else .ok (some (digitsValue digits), rest)

/-- A fill character stands before an alignment only. -/
def readAlignment : List Char → Option Char × Option Alignment × List Char
  | fill :: c :: rest =>
    match alignment? c with
    | some alignment => (some fill, some alignment, rest)
    | none =>
      match alignment? fill with
      | some alignment => (none, some alignment, c :: rest)
      | none => (none, none, fill :: c :: rest)
  | [c] =>
    match alignment? c with
    | some alignment => (none, some alignment, [])
    | none => (none, none, [c])
  | [] => (none, none, [])

def readFlag (flag : Char → Bool) : List Char → Option Char × List Char
  | c :: rest => if flag c then (some c, rest) else (none, c :: rest)
  | [] => (none, [])

/-- A comma or an underscore between digits, not both. -/
def readSeparator (text : List Char) : Except Fault (Option Char × List Char) :=
  let (comma, rest) := readFlag (· == ',') text
  let (underscore, rest) := readFlag (· == '_') rest
  match comma, underscore, rest with
  | some _, some _, _ | none, some _, ',' :: _ => .error .bothSeparators
  | none, some c, _ => .ok (some c, rest)
  | comma, none, _ => .ok (comma, rest)

def readPrecision (text : List Char) : Except Fault (Option Nat × List Char) :=
  match text with
  | '.' :: rest => do
    match ← leadingNumber rest with
    | (none, _) => .error .missingPrecision
    | found => .ok found
  | _ => .ok (none, text)

/-- The codes with which digits can be grouped. -/
def groups (separator code : Char) : Bool :=
  "defgEG%F\x00".toList.contains code || separator == '_' && "boxX".toList.contains code

def readLayout (spec : List Char) : Except Fault Layout := do
  let (fill, alignment, rest) := readAlignment spec
  let (sign, rest) := readFlag (fun c => c == ' ' || c == '+' || c == '-') rest
  let (coercion, rest) := readFlag (· == 'z') rest
  let (alternate, rest) := readFlag (· == '#') rest
  let (padding, rest) := if fill.isNone then readFlag (· == '0') rest else (none, rest)
  let (width, rest) ← leadingNumber rest
  let (separator, rest) ← readSeparator rest
  let (precision, rest) ← readPrecision rest
  let code ← match rest with
    | [] => pure 's'
    | [code] => pure code
    | _ => throw (.malformedSpec spec)
  if let some separator := separator then
    unless groups separator code do throw (.separatorGiven separator code)
  return {
    fill := (fill.or padding).getD ' '
    alignment := alignment.getD .left
    sign := sign
    noNegativeZero := coercion.isSome
    alternate := alternate.isSome
    width := width
    separator := separator
    precision := precision
    code := code }

/-- What numbers alone may have is refused for a text. -/
def Layout.check (layout : Layout) : Except Fault Unit :=
  if layout.code ≠ 's' then .error (.unknownCode layout.code)
  else if layout.sign = some ' ' then .error .spaceGiven
  else if layout.sign.isSome then .error .signGiven
  else if layout.noNegativeZero then .error .negativeZeroGiven
  else if layout.alternate then .error .alternateGiven
  else if layout.alignment = .afterSign then .error .equalsAlignment
  else .ok ()

/-- The value cut to the precision and padded to the width. -/
def Layout.apply (layout : Layout) (value : List Char) : List Char :=
  let shown := match layout.precision with
    | some precision => value.take precision
    | none => value
  let missing := layout.width.getD 0 - shown.length
  let before := match layout.alignment with
    | .left | .afterSign => 0
    | .right => missing
    | .centre => missing / 2
  List.replicate before layout.fill ++ shown ++ List.replicate (missing - before) layout.fill

theorem width_le_length_apply (layout : Layout) (value : List Char) :
    layout.width.getD 0 ≤ (layout.apply value).length := by
  have half (n : Nat) : n / 2 ≤ n := Nat.div_le_self n 2
  simp only [Layout.apply, List.length_append, List.length_replicate]
  generalize (match layout.precision with
    | some precision => value.take precision
    | none => value) = shown
  have := half (layout.width.getD 0 - shown.length)
  split <;> omega

/-- An empty spec leaves the value as it is. -/
def layOut (spec value : List Char) : Except Fault (List Char) :=
  if spec.isEmpty then .ok value
  else do
    let layout ← readLayout spec
    layout.check
    return layout.apply value

end Bookbinder.Template
