import Bookbinder.Shell.Syntax

/-!
Whole numbers at the beginning of a text: blanks, a sign, and digits in a base which the first of them may
name.
-/

set_option autoImplicit false

namespace Bookbinder.Shell.Number

/-- The greatest number with a sign. -/
def greatest : Int := 0x7fffffffffffffff

/-- The number of numbers that there are. -/
def width : Nat := 0x10000000000000000

def isInRange (value : Int) : Bool := -(greatest + 1) ≤ value && value ≤ greatest

/-- A number that is too large counts as the one that is nearest to it. -/
def clamp (value : Int) : Int := max (-(greatest + 1)) (min greatest value)

def isSpace (c : Char) : Bool := c == ' ' || (0x09 ≤ c.toNat && c.toNat ≤ 0x0d)

def digitValue (c : Char) : Nat :=
  if c.isDigit then c.toNat - '0'.toNat
  else if c.isLower then c.toNat - 'a'.toNat + 10
  else if c.isUpper then c.toNat - 'A'.toNat + 10
  else 36

/-- The digits of a base at the beginning of a text, as a number, and what follows them. -/
def readDigits (base : Nat) (text : Chars) : Option (Nat × Chars) :=
  let digits := text.takeWhile fun c => digitValue c < base
  if digits.isEmpty then none
  else some (digits.foldl (fun value c => value * base + digitValue c) 0, text.drop digits.length)

/-- A number that says in its first digits in which base it is. -/
def readMarked (text : Chars) : Option (Nat × Chars) :=
  match text with
  | '0' :: mark :: rest =>
    if mark = 'x' ∨ mark = 'X' then (readDigits 16 rest).or (some (0, mark :: rest))
    else readDigits 8 text
  | _ => readDigits 10 text

/-- The number at the beginning of a text, if there is one, and what follows it. -/
def scan (isDecimal : Bool) (text : Chars) : Option (Int × Chars) :=
  let (isNegative, digits) := match text.dropWhile isSpace with
    | '-' :: rest => (true, rest)
    | '+' :: rest => (false, rest)
    | rest => (false, rest)
  let found := if isDecimal then readDigits 10 digits else readMarked digits
  found.map fun (value, rest) => (if isNegative then -(value : Int) else value, rest)

/-- The number that a text is, blanks around it apart. -/
def whole? (isDecimal : Bool) (text : Chars) : Option Int :=
  match scan isDecimal text with
  | some (value, rest) => if rest.all isSpace && isInRange value then some value else none
  | none => none

theorem clamp_of_isInRange (value : Int) (inside : isInRange value = true) : clamp value = value := by
  simp only [isInRange, Bool.and_eq_true, decide_eq_true_eq] at inside
  simp only [clamp]
  omega

example : whole? false " -0x1F ".toList = some (-31) ∧ whole? true "08".toList = some 8 ∧
    whole? false "08".toList = none := by
  decide +kernel

end Bookbinder.Shell.Number
