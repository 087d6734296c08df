import Bookbinder.Text.Utf8

/-!
Bytes as rows of bits, the lowest bit of a byte first, and what can be wrong with compressed data.
Reading stops where the data end or where they are damaged.
-/

set_option autoImplicit false

namespace Bookbinder.Compression

open Bookbinder.Text (Bytes)

/-- What can be wrong with compressed data. -/
inductive Damage where
  | badHeader
  | unknownMethod
  | badWindow
  | unknownFlags
  | headerChecksum
  | blockType
  | storedLengths
  | tooManySymbols
  | codeLengths
  | lengthRepeat
  | noEndOfBlock
  | literalLengths
  | distanceLengths
  | literalCode
  | distanceCode
  | tooFarBack
  | dataChecksum
  | dataLength
  deriving DecidableEq, Repr

def Damage.text : Damage → String
  | .badHeader => "incorrect header check"
  | .unknownMethod => "unknown compression method"
  | .badWindow => "invalid window size"
  | .unknownFlags => "unknown header flags set"
  | .headerChecksum => "header crc mismatch"
  | .blockType => "invalid block type"
  | .storedLengths => "invalid stored block lengths"
  | .tooManySymbols => "too many length or distance symbols"
  | .codeLengths => "invalid code lengths set"
  | .lengthRepeat => "invalid bit length repeat"
  | .noEndOfBlock => "invalid code -- missing end-of-block"
  | .literalLengths => "invalid literal/lengths set"
  | .distanceLengths => "invalid distances set"
  | .literalCode => "invalid literal/length code"
  | .distanceCode => "invalid distance code"
  | .tooFarBack => "invalid distance too far back"
  | .dataChecksum => "incorrect data check"
  | .dataLength => "incorrect length check"

def Damage.message (damage : Damage) : String :=
  "Error -3 while decompressing data: " ++ damage.text

/-- Why reading stops before its end; damage is found out when so many bytes have been passed. -/
inductive Stop where
  | cut
  | damaged (damage : Damage) (passed : Nat)
  deriving DecidableEq, Repr

/-- A place in compressed data: what is left of the byte that is being read, the bytes after it, and how
many bytes have been passed, that one included. -/
structure Bits where
  current : List Bool
  rest : Bytes
  passed : Nat
  deriving DecidableEq, Repr

/-- The place before all data. -/
def Bits.start (data : Bytes) : Bits := ⟨[], data, 0⟩

/-- The place so many whole bytes further on. -/
def Bits.skip (bits : Bits) (count : Nat) : Bits :=
  ⟨[], bits.rest.drop count, bits.passed + count⟩

def byteBits (byte : UInt8) : List Bool := (List.range 8).map fun place => byte.toNat.testBit place

/-- A row of bits as a number, the lowest bit first. -/
def ofBits : List Bool → Nat
  | [] => 0
  | bit :: others => bit.toNat + 2 * ofBits others

/-- Reading from a place on. -/
abbrev Reader (α : Type) := StateT Bits (Except Stop) α

namespace Reader

def stop {α : Type} (reason : Stop) : Reader α := throw reason

def damaged {α : Type} (damage : Damage) : Reader α := fun bits =>
  .error (.damaged damage bits.passed)

def bit : Reader Bool := fun bits =>
  match bits.current, bits.rest with
  | first :: others, rest => .ok (first, ⟨others, rest, bits.passed⟩)
  | [], byte :: rest =>
    match byteBits byte with
    | first :: others => .ok (first, ⟨others, rest, bits.passed + 1⟩)
    | [] => .error .cut
  | [], [] => .error .cut

/-- A number in so many bits. -/
def number : Nat → Reader Nat
  | 0 => pure 0
  | count + 1 => do
    let first ← bit
    return first.toNat + 2 * (← number count)

/-- Drops what is left of the byte that is being read. -/
def align : Reader Unit := modify fun bits => { bits with current := [] }

/-- So many whole bytes. -/
def bytes (count : Nat) : Reader Bytes := do
  align
  let place ← get
  if place.rest.length < count then stop .cut
  set (place.skip count)
  return place.rest.take count

/-- A number in so many whole bytes, the lowest byte first. -/
def littleEndian (count : Nat) : Reader Nat := do
  return (← bytes count).foldr (fun byte value => byte.toNat + 256 * value) 0

end Reader

theorem ofBits_byteBits (byte : UInt8) : ofBits (byteBits byte) = byte.toNat := by
  have all : ∀ n : Fin 256, ofBits ((List.range 8).map fun place => n.val.testBit place) = n.val := by
    decide +kernel
  exact all ⟨byte.toNat, byte.toNat_lt⟩

end Bookbinder.Compression
