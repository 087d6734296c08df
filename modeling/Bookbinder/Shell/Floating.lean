import Bookbinder.Duration
import Bookbinder.Shell.Number

/-!
Numbers with a fraction: how they are read from the beginning of a text, rounded to what 64 bits can hold, and
written with a number of places, with a power of ten, or with as many digits as are wanted.
-/

set_option autoImplicit false

namespace Bookbinder.Shell

/-- A whole number times a power of two, or something that is no finite number. -/
inductive Floating where
  | finite (isNegative : Bool) (mantissa : Nat) (exponent : Int)
  | infinite (isNegative : Bool)
  | undefined (isNegative : Bool)
  deriving DecidableEq, Repr

namespace Floating

/-- The mantissa of a number has fewer bits than this one. -/
def mantissaLimit : Nat := 0x20000000000000

/-- One bit less. -/
def mantissaFloor : Nat := 0x10000000000000

def leastExponent : Int := -1074

def greatestExponent : Int := 971

def powerOfTen (count : Nat) : Nat := Nat.pow 10 count

/-- A positive quotient as the nearest number, and whether it is out of range. A number that is too small
counts as out of range unless it is exact. -/
def nearest (isNegative : Bool) (numerator denominator : Nat) : Floating × Bool :=
  let estimate : Int := (numerator.log2 : Int) - denominator.log2
  let scaled (exponent : Int) : Nat × Nat :=
    (numerator <<< (-exponent).toNat, denominator <<< exponent.toNat)
  let (top, bottom) := scaled estimate
  let wanted := if top < bottom then estimate - 53 else estimate - 52
  let exponent := max wanted leastExponent
  let (top, bottom) := scaled exponent
  let mantissa := Duration.roundHalfEven top bottom
  let (mantissa, exponent) :=
    if mantissa = mantissaLimit then (mantissaFloor, exponent + 1) else (mantissa, exponent)
  if exponent > greatestExponent then (.infinite isNegative, true)
  else (.finite isNegative mantissa exponent, mantissa < mantissaFloor && top % bottom ≠ 0)

/-- What digits come to. -/
def ofDigits (base : Nat) (digits : Chars) : Nat :=
  digits.foldl (fun value c => value * base + Number.digitValue c) 0

/-- No number has its first digit further from the point than this. -/
def placeLimit : Int := 400

/-- The number that some digits in base ten and a power of ten are. -/
def ofDecimal (isNegative : Bool) (digits : Chars) (power : Int) : Floating × Bool :=
  let digits := digits.dropWhile (· = '0')
  let place : Int := digits.length + power
  if digits.isEmpty then (.finite isNegative 0 0, false)
  else if place > placeLimit then (.infinite isNegative, true)
  else if place < -placeLimit then (.finite isNegative 0 0, true)
  else nearest isNegative (ofDigits 10 digits * powerOfTen power.toNat) (powerOfTen (-power).toNat)

/-- The number that some digits in base sixteen and a power of two are. -/
def ofHex (isNegative : Bool) (digits : Chars) (power : Int) : Floating × Bool :=
  let value := ofDigits 16 digits
  let place : Int := value.log2 + power
  if value = 0 then (.finite isNegative 0 0, false)
  else if place > 8 * placeLimit then (.infinite isNegative, true)
  else if place < -8 * placeLimit then (.finite isNegative 0 0, true)
  else nearest isNegative (value <<< power.toNat) (1 <<< (-power).toNat)

/-- Digits with a point among them: those before it, those after it, and what follows. -/
def spanDigits (base : Nat) (text : Chars) : Chars × Chars × Chars :=
  let isDigit (c : Char) : Bool := Number.digitValue c < base
  let whole := text.takeWhile isDigit
  match text.drop whole.length with
  | '.' :: rest =>
    let fraction := rest.takeWhile isDigit
    if whole.isEmpty && fraction.isEmpty then ([], [], text)
    else (whole, fraction, rest.drop fraction.length)
  | rest => (whole, [], rest)

/-- A power after one of some marks, if digits follow it. -/
def readPower (marks : List Char) (text : Chars) : Int × Chars :=
  match text with
  | c :: rest =>
    if !marks.contains c then (0, text)
    else
      let (isNegative, digits) := match rest with
        | '-' :: rest => (true, rest)
        | '+' :: rest => (false, rest)
        | rest => (false, rest)
      match Number.readDigits 10 digits with
      | some (value, after) => (if isNegative then -(value : Int) else value, after)
      | none => (0, text)
  | [] => (0, text)

/-- A word for what is no finite number, and what follows it. -/
def readName (isNegative : Bool) (text : Chars) : Option (Floating × Chars) :=
  let names : List (String × Floating) :=
    [("infinity", .infinite isNegative), ("inf", .infinite isNegative), ("nan", .undefined isNegative)]
  (names.find? fun pair => pair.1.toList.isPrefixOf (text.map Char.toLower)).map fun pair =>
    (pair.2, text.drop pair.1.length)

/-- The number at the beginning of a text, whether it is out of range, and what follows it. -/
def scan (text : Chars) : Option (Floating × Bool × Chars) :=
  let (isNegative, unsigned) := match text.dropWhile Number.isSpace with
    | '-' :: rest => (true, rest)
    | '+' :: rest => (false, rest)
    | rest => (false, rest)
  let decimal : Option (Floating × Bool × Chars) :=
    let (whole, fraction, rest) := spanDigits 10 unsigned
    let (power, rest) := readPower ['e', 'E'] rest
    if whole.isEmpty && fraction.isEmpty then none
    else
      let (value, isBeyond) := ofDecimal isNegative (whole ++ fraction) (power - fraction.length)
      some (value, isBeyond, rest)
  match readName isNegative unsigned, unsigned with
  | some (value, rest), _ => some (value, false, rest)
  | none, '0' :: mark :: rest =>
    let (whole, fraction, after) := spanDigits 16 rest
    if (mark = 'x' ∨ mark = 'X') ∧ !(whole.isEmpty && fraction.isEmpty) then
      let (power, after) := readPower ['p', 'P'] after
      let (value, isBeyond) := ofHex isNegative (whole ++ fraction) (power - 4 * fraction.length)
      some (value, isBeyond, after)
    else decimal
  | none, _ => decimal

/-- The magnitude as a quotient. -/
def quotient (mantissa : Nat) (exponent : Int) : Nat × Nat :=
  (mantissa <<< exponent.toNat, 1 <<< (-exponent).toNat)

def padZeros (width : Nat) (digits : Chars) : Chars :=
  List.replicate (width - digits.length) '0' ++ digits

/-- Digits with a point before the last ones. -/
def pointed (places : Nat) (keepsPoint : Bool) (value : Nat) : Chars :=
  let digits := padZeros (places + 1) (Nat.toDigits 10 value)
  let whole := digits.take (digits.length - places)
  if places = 0 then whole ++ (if keepsPoint then ['.'] else [])
  else whole ++ '.' :: digits.drop whole.length

/-- A quotient with a number of places after the point. -/
def fixedText (places : Nat) (keepsPoint : Bool) (numerator denominator : Nat) : Chars :=
  pointed places keepsPoint (Duration.roundHalfEven (numerator * powerOfTen places) denominator)

/-- A quotient as one digit and some more, as a whole number, with the power of ten of the first one. -/
def leading (more numerator denominator : Nat) : Nat × Int :=
  if numerator = 0 then (0, 0)
  else
    let scaled (power : Int) : Nat × Nat :=
      (numerator * powerOfTen (-power).toNat, denominator * powerOfTen power.toNat)
    let estimate : Int := ((Nat.toDigits 10 numerator).length : Int) - (Nat.toDigits 10 denominator).length
    let (top, bottom) := scaled estimate
    let power := if top < bottom then estimate - 1 else estimate
    let (top, bottom) := scaled (power - more)
    let value := Duration.roundHalfEven top bottom
    if value = powerOfTen (more + 1) then (powerOfTen more, power + 1) else (value, power)

/-- A power with its mark and sign. -/
def powerText (mark : Char) (width : Nat) (power : Int) : Chars :=
  mark :: (if power < 0 then '-' else '+') :: padZeros width (Nat.toDigits 10 power.natAbs)

/-- A quotient with one digit before the point and a power of ten. -/
def scientificText (places : Nat) (keepsPoint : Bool) (numerator denominator : Nat) : Chars :=
  let (value, power) := leading places numerator denominator
  pointed places keepsPoint value ++ powerText 'e' 2 power

/-- A fraction without zeros at its end. -/
def withoutFinalZeros (text : Chars) : Chars :=
  if text.contains '.' then
    let shorter := (text.reverse.dropWhile (· = '0')).reverse
    if shorter.getLast? = some '.' then shorter.dropLast else shorter
  else text

/-- A quotient with so many digits, in the form that is shorter. -/
def generalText (digits : Nat) (keepsZeros : Bool) (numerator denominator : Nat) : Chars :=
  let digits := max digits 1
  let (value, power) := leading (digits - 1) numerator denominator
  let trimmed (text : Chars) : Chars := if keepsZeros then text else withoutFinalZeros text
  if -4 ≤ power ∧ power < digits then
    trimmed (fixedText (digits - 1 - power).toNat keepsZeros numerator denominator)
  else trimmed (pointed (digits - 1) keepsZeros value) ++ powerText 'e' 2 power

/-- The digits in base sixteen after the first one. -/
def hexPlaces : Nat := 13

/-- A number with a power of two, in base sixteen. -/
def hexText (places : Option Nat) (keepsPoint : Bool) (mantissa : Nat) (exponent : Int) : Chars :=
  let shift := 52 - mantissa.log2
  let (bits, power) : Nat × Int :=
    if mantissa = 0 then (0, 0) else (mantissa <<< shift, exponent + 52 - shift)
  let kept := min (places.getD hexPlaces) hexPlaces
  let rounded := Duration.roundHalfEven bits (1 <<< (4 * (hexPlaces - kept)))
  let digits := padZeros (kept + 1) (Nat.toDigits 16 rounded)
  let fraction := digits.drop 1
  let fraction := match places with
    | some places => fraction ++ List.replicate (places - hexPlaces) '0'
    | none => (fraction.reverse.dropWhile (· = '0')).reverse
  '0' :: 'x' :: digits.take 1 ++ (if fraction.isEmpty && !keepsPoint then [] else '.' :: fraction) ++
    powerText 'p' 1 power

/-- The number without its sign, as a directive asks for it: `f`, `e`, `g` or `a`. -/
def text (form : Char) (precision : Option Nat) (isAlternate : Bool) : Floating → Chars
  | .infinite _ => "inf".toList
  | .undefined _ => "nan".toList
  | .finite _ mantissa exponent =>
    let (top, bottom) := quotient mantissa exponent
    match form with
    | 'f' => fixedText (precision.getD 6) isAlternate top bottom
    | 'e' => scientificText (precision.getD 6) isAlternate top bottom
    | 'g' => generalText (precision.getD 6) isAlternate top bottom
    | _ => hexText precision isAlternate mantissa exponent

def isNegative : Floating → Bool
  | .finite isNegative _ _ | .infinite isNegative | .undefined isNegative => isNegative

def isFinite : Floating → Bool
  | .finite _ _ _ => true
  | _ => false

example : (scan "0.1x".toList).map (fun found => (found.1.text 'g' none false, found.2.2)) =
    some ("0.1".toList, ['x']) := by
  decide +kernel

end Floating

end Bookbinder.Shell
