import Bookbinder.Text.Number

/-!
Durations and how they are shown: below a minute in tenths of a second, from there on in whole
seconds, minutes and hours. A duration is an exact dyadic number; a tenth is the nearest one, and a
tie goes to the even neighbour.
-/

set_option autoImplicit false

namespace Bookbinder

/-- A number of seconds: a whole number times a power of two, with its sign, or none at all. -/
inductive Duration where
  | finite (negative : Bool) (mantissa : Nat) (exponent : Int)
  | infinite (negative : Bool)
  | undefined
  deriving DecidableEq, Repr

namespace Duration

/-- The place of the sign in a double of 64 bits. -/
def signPlace : Nat := 0x8000000000000000

/-- The place of the exponent, above 52 bits of the fraction. -/
def fieldPlace : Nat := 0x10000000000000

/-- The number that a double stands for, from its bits. -/
def ofBits (bits : Nat) : Duration :=
  let negative := bits / signPlace % 2 == 1
  let field : Nat := bits / fieldPlace % 2048
  let fraction := bits % fieldPlace
  if field = 2047 then (if fraction = 0 then .infinite negative else .undefined)
  else if field = 0 then .finite negative fraction (-1074)
  else .finite negative (fieldPlace + fraction) (field - 1075)

def ofFloat (seconds : Float) : Duration := ofBits seconds.toBits.toNat

/-- The magnitude as a quotient of whole numbers. -/
def numerator (mantissa : Nat) (exponent : Int) : Nat := mantissa <<< exponent.toNat

def denominator (exponent : Int) : Nat := 1 <<< (-exponent).toNat

/-- The whole number nearest to a quotient; a tie goes to the even neighbour. -/
def roundHalfEven (numerator denominator : Nat) : Nat :=
  let whole := numerator / denominator
  let twice := 2 * (numerator % denominator)
  if twice < denominator ∨ twice = denominator ∧ whole % 2 = 0 then whole else whole + 1

theorem roundHalfEven_near (n : Nat) {d : Nat} (positive : 0 < d) :
    2 * n ≤ (2 * roundHalfEven n d + 1) * d ∧ 2 * roundHalfEven n d * d ≤ 2 * n + d := by
  have whole := Nat.div_add_mod n d
  have below := Nat.mod_lt n positive
  simp only [roundHalfEven]
  split
  · next small =>
    constructor <;> grind
  · next large =>
    constructor <;> grind

/-- Why a duration has no text: it has no whole part. -/
inductive Fault where
  | undefined
  | infinite
  deriving DecidableEq, Repr

def Fault.message : Fault → String
  | .undefined => "cannot convert float NaN to integer"
  | .infinite => "cannot convert float infinity to integer"

def tenthsText (negative : Bool) (tenths : Nat) : String :=
  (if negative then "-" else "") ++ Text.digits 10 (tenths / 10) ++ "." ++
    Text.digits 10 (tenths % 10) ++ "s"

def wholeText (seconds : Nat) : String :=
  let minutes := seconds / 60
  if minutes < 60 then Text.digits 10 minutes ++ "m " ++ Text.digits 10 (seconds % 60) ++ "s"
  else
    Text.digits 10 (minutes / 60) ++ "h " ++ Text.digits 10 (minutes % 60) ++ "m " ++
      Text.digits 10 (seconds % 60) ++ "s"

/-- The unit is chosen by the exact value, before any rounding. -/
def text : Duration → Except Fault String
  | .undefined => .error .undefined
  | .infinite true => .ok "-infs"
  | .infinite false => .error .infinite
  | .finite negative mantissa exponent =>
    let top := numerator mantissa exponent
    let bottom := denominator exponent
    if negative ∨ top < 60 * bottom then
      .ok (tenthsText negative (roundHalfEven (10 * top) bottom))
    else .ok (wholeText (top / bottom))

end Duration

end Bookbinder
