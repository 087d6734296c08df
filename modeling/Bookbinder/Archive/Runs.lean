import Bookbinder.Archive.Fields

/-!
The runs of files with holes. They are listed in blocks after a header, among fields one by one, in one
field, or in lines before the data.
-/

set_option autoImplicit false

namespace Bookbinder.Archive

open Bookbinder.Text (Bytes)

/-- A number of a list of runs in what is there of a block. -/
def runNumber (block : Bytes) (place : Nat) : Except Trouble Int :=
  match field block place 12 with
  | [] => .error (.fault .cutRuns)
  | bytes =>
    match number? bytes with
    | some value => .ok value
    | none => .error (.header .invalid)

/-- The number of runs in a block after a header. -/
def blockRuns : Nat := 21

/-- The runs in a block after a header; those without a length, or at the very beginning, are none. -/
def runsOfBlock (block : Bytes) : Except Trouble (List Run) := do
  let runs ← (List.range blockRuns).mapM fun index => do
    let place := runSize * index
    return (⟨← runNumber block place, ← runNumber block (place + 12)⟩ : Run)
  return runs.filter fun run => run.offset ≠ 0 ∧ run.length ≠ 0

/-- Whether more runs follow after a block. -/
def blockGoesOn (block : Bytes) : Except Trouble Bool :=
  match field block 504 1 with
  | [] => .error (.fault .cutRuns)
  | byte :: _ => .ok (byte != 0)

/-- Runs as pairs of numbers; one that is left over is none. -/
def Run.ofNumbers : List Int → List Run
  | offset :: length :: rest => ⟨offset, length⟩ :: ofNumbers rest
  | _ => []

/-- Runs that are listed in one field. -/
def runsOfText (text : String) : Except Fault (List Run) :=
  ((Text.splitOn ',' text.toList).mapM fun part => readWhole (String.ofList part)).map
    Run.ofNumbers

/-- In a mark, a point stands for any byte. -/
def anyByte : UInt8 := UInt8.ofNat '.'.toNat

def fitsMark : Bytes → Bytes → Bool
  | [], _ => true
  | _ :: _, [] => false
  | expected :: mark, byte :: bytes => (expected == anyByte || expected == byte) && fitsMark mark bytes

/-- The digits at the end of a line, if a digit and a mark stand before them. -/
def digitsAfterMark? (mark : Bytes) (line : Bytes) : Option Bytes :=
  let reversed := line.reverse
  let before := reversed.dropWhile isDigitByte
  let digit := (before.drop mark.length).head?
  if fitsMark mark.reverse before ∧ digit.any isDigitByte ∧ reversed.head?.any isDigitByte then
    some (reversed.takeWhile isDigitByte).reverse
  else none

/-- Numbers in records, each behind a mark. -/
def markedNumbers (mark : String) (bytes : Bytes) : Except Fault (List Int) :=
  ((endedLines bytes).filterMap (digitsAfterMark? (Text.encodeUtf8 mark.toList))).mapM
    readWholeBytes

/-- Runs that are listed among fields one by one. -/
def runsOfRecords (bytes : Bytes) : Except Fault (List Run) := do
  let offsets ← markedNumbers " GNU.sparse.offset=" bytes
  let lengths ← markedNumbers " GNU.sparse.numbytes=" bytes
  return (offsets.zip lengths).map fun pair => ⟨pair.1, pair.2⟩

/-- The line at the beginning of some bytes, and what comes after it. -/
def splitLine (bytes : Bytes) : Except Fault (Bytes × Bytes) :=
  match bytes.dropWhile (· != 0x0a) with
  | [] => .error (.misvalue .unendedLine)
  | _ :: rest => .ok (bytes.takeWhile (· != 0x0a), rest)

example : digitsAfterMark? [0x20, 0x2e, 0x3d] [0x37, 0x20, 0x61, 0x3d, 0x31, 0x32] =
    some [0x31, 0x32] := by
  decide +kernel

end Bookbinder.Archive
