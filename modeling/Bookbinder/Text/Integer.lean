import Bookbinder.Text.Number
import Bookbinder.Text.Ranges

/-!
Numbers as people write them: blanks around, a sign, digits with single underscores between them. Whole
numbers have digits of any script; numbers with a fraction have a point and a power of ten besides, or are
the words for what is no finite number.
-/

set_option autoImplicit false

namespace Bookbinder.Text

/-- A text without some characters at its ends. -/
def trimBy (drops : Char → Bool) (text : List Char) : List Char :=
  ((text.dropWhile drops).reverse.dropWhile drops).reverse

def trimBlanks (text : List Char) : List Char := trimBy blank text

/-- The blanks that may stand around a number: all but the information separators. -/
def numberBlank (c : Char) : Bool := blank c && !(0x1c ≤ c.toNat && c.toNat ≤ 0x1f)

/-- Why a text is not read as a whole number. -/
inductive IntegerFault where
  | notWhole
  | tooLong (digits : Nat)
  deriving DecidableEq, Repr

def digitOf? (base : Nat) (c : Char) : Option Nat :=
  (decimalDigit? c).filter fun digit => digit < base

/-- Whether every underscore stands between two digits, in a row that has digits. `inside` says whether
one may stand here. -/
def wellJoined : Bool → List Char → Bool
  | inside, [] => inside
  | inside, c :: rest => if c = '_' then inside && wellJoined false rest else wellJoined true rest

/-- The greatest number of digits of a decimal number that is read. -/
def longestDecimal : Nat := 4300

/-- A number in base eight may say so. -/
def withoutBaseMark (base : Nat) (text : List Char) : List Char :=
  match base, text with
  | 8, '0' :: mark :: '_' :: rest => if mark = 'o' ∨ mark = 'O' then rest else text
  | 8, '0' :: mark :: rest => if mark = 'o' ∨ mark = 'O' then rest else text
  | _, _ => text

/-- The number that digits of a base up to ten denote. That they are too many is seen before anything that
stands after them. -/
def readNatural (base : Nat) (text : List Char) : Except IntegerFault Nat :=
  let marked := withoutBaseMark base text
  let run := marked.takeWhile fun c => (digitOf? base c).isSome || c = '_'
  let digits := run.filterMap (digitOf? base)
  if !wellJoined false run then .error .notWhole
  else if base = 10 ∧ digits.length > longestDecimal then .error (.tooLong digits.length)
  else if run.length < marked.length then .error .notWhole
  else .ok (digits.foldl (fun value digit => value * base + digit) 0)

/-- The number that a text denotes in a base up to ten. -/
def readInteger (base : Nat) (text : List Char) : Except IntegerFault Int :=
  match trimBy numberBlank text with
  | '-' :: rest => (readNatural base rest).map fun value => -(value : Int)
  | '+' :: rest => (readNatural base rest).map Int.ofNat
  | rest => (readNatural base rest).map Int.ofNat

end Bookbinder.Text

/-! ### Numbers with a fraction -/

namespace Bookbinder.Text

inductive Decimal where
  /-- The digits after a point in front of them, times a power of ten. The first digit is not zero. -/
  | finite (isNegative : Bool) (digits : List Nat) (power : Int)
  | infinite (isNegative : Bool)
  | notANumber
  deriving DecidableEq, Repr

namespace Decimal

/-- Whether every underscore stands between two digits. `inside` says whether a digit stands before. -/
def underscoresFit : Bool → List Char → Bool
  | _, [] => true
  | _, ['_'] => false
  | inside, '_' :: next :: rest => inside && next.isDigit && underscoresFit true rest
  | _, c :: rest => underscoresFit c.isDigit rest

/-- The same text with the digits of other scripts as ordinary ones. -/
def ordinary (text : List Char) : List Char :=
  text.map fun c => ((decimalDigit? c).map fun digit => Char.ofNat (48 + digit)).getD c

/-- A row of digits at the beginning of a text, and what comes after it. -/
def spanDigits (text : List Char) : List Nat × List Char :=
  ((text.takeWhile Char.isDigit).map fun c => c.toNat - 48, text.dropWhile Char.isDigit)

/-- The number of a power of ten. -/
def readPower (text : List Char) : Option Int :=
  let ofDigits (text : List Char) : Option Nat :=
    match spanDigits text with
    | (digits@(_ :: _), []) => some (digits.foldl (fun value digit => value * 10 + digit) 0)
    | _ => none
  match text with
  | '-' :: rest => (ofDigits rest).map fun value => -(value : Int)
  | '+' :: rest => (ofDigits rest).map Int.ofNat
  | rest => (ofDigits rest).map Int.ofNat

/-- The number with some digits before its point, some after it, and a power of ten. -/
def ofParts (isNegative : Bool) (whole fraction : List Nat) (power : Int) : Decimal :=
  let digits := whole ++ fraction
  let shown := digits.dropWhile (· = 0)
  if shown = [] then .finite isNegative [] 0
  else .finite isNegative shown (whole.length + power - (digits.length - shown.length))

def readFinite (isNegative : Bool) (text : List Char) : Option Decimal := do
  let (whole, rest) := spanDigits text
  let (fraction, rest) := match rest with
    | '.' :: rest => spanDigits rest
    | _ => ([], rest)
  if whole = [] ∧ fraction = [] then none
  match rest with
  | [] => some (ofParts isNegative whole fraction 0)
  | mark :: rest =>
    if mark = 'e' ∨ mark = 'E' then
      some (ofParts isNegative whole fraction (← readPower rest))
    else none

/-- Reads a number after its sign. -/
def readUnsigned (isNegative : Bool) (text : List Char) : Option Decimal :=
  let word := String.ofList (text.map Char.toLower)
  if word = "inf" ∨ word = "infinity" then some (.infinite isNegative)
  else if word = "nan" then some .notANumber
  else readFinite isNegative text

def read? (text : List Char) : Option Decimal :=
  let text := ordinary (trimBy numberBlank text)
  if underscoresFit false text then
    match text.filter (· != '_') with
    | '-' :: rest => readUnsigned true rest
    | '+' :: rest => readUnsigned false rest
    | rest => readUnsigned false rest
  else none

/-- The greatest whole number that is not above a number, unless it has more digits than `limit`. -/
def floor? (limit : Nat) : Decimal → Option Int
  | .finite isNegative digits power =>
    if power > limit then none
    else
      let places := digits ++ List.replicate (power.toNat - digits.length) 0
      let whole := (places.take power.toNat).foldl (fun value digit => value * 10 + digit) 0
      let hasRest := (places.drop power.toNat).any (· != 0)
      some (if isNegative then -Int.ofNat (whole + hasRest.toNat) else Int.ofNat whole)
  | .infinite _ | .notANumber => none

end Decimal

example : (Decimal.read? "-1_0.50e1 ".toList).bind (Decimal.floor? 20) = some (-105) := by
  decide +kernel

end Bookbinder.Text
