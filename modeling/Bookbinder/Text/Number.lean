/-!
Digits of whole numbers in the bases that messages and escapes use, and the decimal digits of all scripts.
Every script's ten digits stand in a row, so a script is given by its zero.
-/

set_option autoImplicit false

namespace Bookbinder.Text

/-- The digit of a value below sixteen, lower case. -/
def hexDigit (value : Nat) : Char :=
  if value < 10 then Char.ofNat (48 + value) else Char.ofNat (87 + value)

/-- The value of a hexadecimal digit of either case. -/
def hexValue? (c : Char) : Option Nat :=
  if '0' ≤ c ∧ c ≤ '9' then some (c.toNat - 48)
  else if 'a' ≤ c ∧ c ≤ 'f' then some (c.toNat - 87)
  else if 'A' ≤ c ∧ c ≤ 'F' then some (c.toNat - 55)
  else none

theorem hexValue?_hexDigit : ∀ value : Nat, value < 16 → hexValue? (hexDigit value) = some value
  | 0, _ | 1, _ | 2, _ | 3, _ | 4, _ | 5, _ | 6, _ | 7, _ | 8, _ | 9, _ | 10, _ | 11, _ | 12, _
  | 13, _ | 14, _ | 15, _ => by decide
  | _ + 16, small => absurd small (by omega)

/-- A number in `count` hexadecimal digits, the most significant first; higher ones are dropped. -/
def hexDigits : Nat → Nat → List Char
  | 0, _ => []
  | count + 1, n => hexDigits count (n / 16) ++ [hexDigit (n % 16)]

/-- The number that a row of hexadecimal digits denotes. -/
def ofHexDigits? (digits : List Char) : Option Nat :=
  digits.foldl (fun value c => do return (← value) * 16 + (← hexValue? c)) (some 0)

theorem length_hexDigits (count n : Nat) : (hexDigits count n).length = count := by
  induction count generalizing n with
  | zero => rfl
  | succ count ih => simp [hexDigits, ih]

/-- The least number that needs more than `count` hexadecimal digits. -/
def hexLimit : Nat → Nat
  | 0 => 1
  | count + 1 => hexLimit count * 16

theorem ofHexDigits?_hexDigits (count n : Nat) (fits : n < hexLimit count) :
    ofHexDigits? (hexDigits count n) = some n := by
  induction count generalizing n with
  | zero => simp_all [hexLimit, hexDigits, ofHexDigits?]
  | succ count ih =>
    have high : n / 16 < hexLimit count := by
      simp only [hexLimit] at fits
      omega
    have above := ih (n / 16) high
    simp only [ofHexDigits?] at above
    simp only [hexDigits, ofHexDigits?, List.foldl_append, above, List.foldl_cons, List.foldl_nil,
      hexValue?_hexDigit _ (Nat.mod_lt n (by decide : 0 < 16))]
    simp [bind, Option.bind, pure]
    omega

/-- A number in base `base` without leading zeros. -/
def digits (base n : Nat) : String := String.ofList (Nat.toDigits base n)

def ofInt (n : Int) : String :=
  match n with
  | .ofNat n => digits 10 n
  | .negSucc n => "-" ++ digits 10 (n + 1)

/-- The number that a row of digits of a base up to ten denotes, if all of them are digits of it. -/
def ofDigits? (base : Nat) (text : List Char) : Option Nat :=
  text.foldl (fun value c => do
    let sofar ← value
    if '0' ≤ c ∧ c.toNat < 48 + base then some (sofar * base + (c.toNat - 48)) else none) (some 0)

end Bookbinder.Text

namespace Bookbinder.Text

/-- The zeros of all scripts. -/
def decimalZeros : List Nat :=
  [
    0x0030, 0x0660, 0x06f0, 0x07c0, 0x0966, 0x09e6, 0x0a66, 0x0ae6,
    0x0b66, 0x0be6, 0x0c66, 0x0ce6, 0x0d66, 0x0de6, 0x0e50, 0x0ed0,
    0x0f20, 0x1040, 0x1090, 0x17e0, 0x1810, 0x1946, 0x19d0, 0x1a80,
    0x1a90, 0x1b50, 0x1bb0, 0x1c40, 0x1c50, 0xa620, 0xa8d0, 0xa900,
    0xa9d0, 0xa9f0, 0xaa50, 0xabf0, 0xff10, 0x104a0, 0x10d30, 0x11066,
    0x110f0, 0x11136, 0x111d0, 0x112f0, 0x11450, 0x114d0, 0x11650, 0x116c0,
    0x11730, 0x118e0, 0x11950, 0x11c50, 0x11d50, 0x11da0, 0x16a60, 0x16ac0,
    0x16b50, 0x1d7ce, 0x1d7d8, 0x1d7e2, 0x1d7ec, 0x1d7f6, 0x1e140, 0x1e2f0,
    0x1e950, 0x1fbf0 ]

/-- The value of a decimal digit of any script. -/
def decimalDigit? (c : Char) : Option Nat :=
  (decimalZeros.find? fun first => first ≤ c.toNat && c.toNat < first + 10).map (c.toNat - ·)

theorem decimalDigit?_lt {c : Char} {digit : Nat} (found : decimalDigit? c = some digit) :
    digit < 10 := by
  obtain ⟨first, hit, rfl⟩ := Option.map_eq_some_iff.1 found
  have := List.find?_some hit
  simp at this
  omega

end Bookbinder.Text
