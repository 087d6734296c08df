import Bookbinder.Compression.Bits

/-!
Codes of bits in which no code starts another. They follow from the lengths of the codes alone:
shorter codes come first, and codes of one length are numbered in the order of their symbols.
-/

set_option autoImplicit false

namespace Bookbinder.Compression

/-- The symbols of every length, from one bit on. -/
structure PrefixCode where
  levels : List (List Nat)
  deriving DecidableEq, Repr

namespace PrefixCode

/-- The longest code. -/
def mostBits : Nat := 15

def symbolsOfLength (lengths : List Nat) (length : Nat) : List Nat :=
  (lengths.zipIdx.filter fun pair => pair.1 == length).map Prod.snd

/-- The levels up to the last one with a symbol. -/
def trimmed (levels : List (List Nat)) : List (List Nat) :=
  (levels.reverse.dropWhile List.isEmpty).reverse

def ofLengths (lengths : List Nat) : PrefixCode :=
  ⟨trimmed ((List.range mostBits).map fun place => symbolsOfLength lengths (place + 1))⟩

/-- How many codes are still free after some levels, starting from so many; none if too many are
taken. -/
def free : Nat → List (List Nat) → Option Nat
  | left, [] => some left
  | left, symbols :: others =>
    if symbols.length ≤ 2 * left then free (2 * left - symbols.length) others else none

/-- How well a code uses its bits. -/
inductive Fit where
  | empty
  | complete
  /-- One code of a single bit, and the other bit stands for nothing. -/
  | single
  | incomplete
  | oversubscribed
  deriving DecidableEq, Repr

def fit (code : PrefixCode) : Fit :=
  match code.levels, free 1 code.levels with
  | [], _ => .empty
  | _, none => .oversubscribed
  | _, some 0 => .complete
  | [_], some _ => .single
  | _, some _ => .incomplete

/-- Reads a symbol. `value` is what the bits so far denote among the codes of their length, less those
that belong to shorter ones. -/
def readFrom (damage : Damage) : Nat → List (List Nat) → Reader Nat
  | _, [] => Reader.damaged damage
  | value, symbols :: others => do
    let value := 2 * value + (← Reader.bit).toNat
    match symbols[value]? with
    | some symbol => return symbol
    | none => readFrom damage (value - symbols.length) others

/-- Reads a symbol; a row of bits that is no code is damage. A code without symbols takes one bit to
be found out. -/
def read (code : PrefixCode) (damage : Damage) : Reader Nat := do
  if code.levels.isEmpty then
    let _ ← Reader.bit
    Reader.damaged damage
  else readFrom damage 0 code.levels

end PrefixCode

end Bookbinder.Compression
