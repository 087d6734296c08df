import Bookbinder.Text.Utf8

/-!
Checksums of rows of bytes: the cyclic redundancy check of 32 bits, and a pair of running sums. Main
statements: the sum of a row goes on from the sum of its beginning, for both of them.
-/

set_option autoImplicit false

namespace Bookbinder.Compression

open Bookbinder.Text (Bytes)

/-- The divisor of the redundancy check, the lowest power last. -/
def redundancyDivisor : UInt32 := 0xedb88320

/-- Divides on by one bit. -/
def redundancyStep (remainder : UInt32) : UInt32 :=
  if remainder &&& 1 = 1 then (remainder >>> 1) ^^^ redundancyDivisor else remainder >>> 1

def redundancyByte (remainder : UInt32) (byte : UInt8) : UInt32 :=
  (List.range 8).foldl (fun value _ => redundancyStep value) (remainder ^^^ byte.toUInt32)

/-- The redundancy check of bytes that come after others with the given check. -/
def redundancyAfter (check : UInt32) (bytes : Bytes) : UInt32 :=
  bytes.foldl redundancyByte (check ^^^ 0xffffffff) ^^^ 0xffffffff

def redundancy (bytes : Bytes) : UInt32 := redundancyAfter 0 bytes

/-- The greatest prime below two to the sixteenth. -/
def sumModulus : Nat := 65521

/-- Two sums: of the bytes, and of the first sum after each byte. -/
def sumsStep (sums : Nat × Nat) (byte : UInt8) : Nat × Nat :=
  let first := (sums.1 + byte.toNat) % sumModulus
  (first, (sums.2 + first) % sumModulus)

/-- The running sums in one number, the second above the first. -/
def runningSums (bytes : Bytes) : Nat :=
  let sums := bytes.foldl sumsStep (1, 0)
  sums.2 * 0x10000 + sums.1

theorem redundancyAfter_append (check : UInt32) (first second : Bytes) :
    redundancyAfter check (first ++ second) =
      redundancyAfter (redundancyAfter check first) second := by
  simp only [redundancyAfter, List.foldl_append, UInt32.xor_assoc, UInt32.xor_self, UInt32.xor_zero]

theorem foldl_sumsStep_append (sums : Nat × Nat) (first second : Bytes) :
    (first ++ second).foldl sumsStep sums = second.foldl sumsStep (first.foldl sumsStep sums) :=
  List.foldl_append

end Bookbinder.Compression
