import Bookbinder.Compression.PrefixCode

/-!
Deflated data: blocks that are stored as they are or written in codes for single bytes and for
repetitions of what came before. What was read before the data stop is kept.
-/

set_option autoImplicit false

namespace Bookbinder.Compression

open Bookbinder.Text (Bytes)

/-- The codes of a block. -/
structure Codes where
  literals : PrefixCode
  distances : PrefixCode

/-- The codes that need not be given. -/
def fixedCodes : Codes where
  literals := .ofLengths
    (List.replicate 144 8 ++ List.replicate 112 9 ++ List.replicate 24 7 ++ List.replicate 8 8)
  distances := .ofLengths (List.replicate 32 5)

/-- The order in which the lengths of the codes for code lengths are given. -/
def lengthOrder : List Nat := [16, 17, 18, 0, 8, 7, 9, 6, 10, 5, 11, 4, 12, 3, 13, 2, 14, 1, 15]

/-- A code for code lengths; one without symbols gives zero for every bit. -/
def readLengthSymbol (code : PrefixCode) : Reader Nat := do
  if code.levels.isEmpty then
    let _ ← Reader.bit
    return 0
  else code.read .codeLengths

/-- What a symbol above 15 repeats, and how often. -/
def readRepeat (last : Option Nat) (symbol : Nat) : Reader (Nat × Nat) :=
  match symbol, last with
  | 16, none => do
    let _ ← Reader.number 2
    Reader.damaged .lengthRepeat
  | 16, some length => do return (length, 3 + (← Reader.number 2))
  | 17, _ => do return (0, 3 + (← Reader.number 3))
  | _, _ => do return (0, 11 + (← Reader.number 7))

/-- Reads code lengths until there are enough. -/
def readLengths (code : PrefixCode) (wanted : Nat) : Nat → List Nat → Reader (List Nat)
  | 0, lengths => pure lengths
  | fuel + 1, lengths =>
    if lengths.length ≥ wanted then pure lengths
    else do
      let symbol ← readLengthSymbol code
      if symbol < 16 then readLengths code wanted fuel (lengths ++ [symbol])
      else
        let (length, count) ← readRepeat lengths.getLast? symbol
        if lengths.length + count > wanted then Reader.damaged .lengthRepeat
        else readLengths code wanted fuel (lengths ++ List.replicate count length)

def readCodes : Reader Codes := do
  let literalCount := 257 + (← Reader.number 5)
  let distanceCount := 1 + (← Reader.number 5)
  let orderCount := 4 + (← Reader.number 4)
  if literalCount > 286 || distanceCount > 30 then Reader.damaged .tooManySymbols
  let given ← (List.range orderCount).mapM fun _ => Reader.number 3
  let ordered := (lengthOrder.take orderCount).zip given
  let lengthCode := PrefixCode.ofLengths
    ((List.range 19).map fun symbol => (ordered.lookup symbol).getD 0)
  if lengthCode.fit ≠ .complete && lengthCode.fit ≠ .empty then Reader.damaged .codeLengths
  let wanted := literalCount + distanceCount
  let lengths ← readLengths lengthCode wanted wanted []
  if lengths.getD 256 0 = 0 then Reader.damaged .noEndOfBlock
  let literals := PrefixCode.ofLengths (lengths.take literalCount)
  if literals.fit ≠ .complete && literals.fit ≠ .single then Reader.damaged .literalLengths
  let distances := PrefixCode.ofLengths (lengths.drop literalCount)
  if distances.fit = .incomplete || distances.fit = .oversubscribed then
    Reader.damaged .distanceLengths
  return ⟨literals, distances⟩

/-- The least length of a repetition and the bits that are added to it, by symbols from 257 on. -/
def repetitionLengths : List (Nat × Nat) :=
  [(3, 0), (4, 0), (5, 0), (6, 0), (7, 0), (8, 0), (9, 0), (10, 0), (11, 1), (13, 1), (15, 1),
    (17, 1), (19, 2), (23, 2), (27, 2), (31, 2), (35, 3), (43, 3), (51, 3), (59, 3), (67, 4),
    (83, 4), (99, 4), (115, 4), (131, 5), (163, 5), (195, 5), (227, 5), (258, 0)]

/-- The least distance and the bits that are added to it, by symbols. -/
def repetitionDistances : List (Nat × Nat) :=
  [(1, 0), (2, 0), (3, 0), (4, 0), (5, 1), (7, 1), (9, 2), (13, 2), (17, 3), (25, 3), (33, 4),
    (49, 4), (65, 5), (97, 5), (129, 6), (193, 6), (257, 7), (385, 7), (513, 8), (769, 8),
    (1025, 9), (1537, 9), (2049, 10), (3073, 10), (4097, 11), (6145, 11), (8193, 12), (12289, 12),
    (16385, 13), (24577, 13)]

def readMeasure (table : List (Nat × Nat)) (symbol : Nat) (damage : Damage) : Reader Nat :=
  match table[symbol]? with
  | none => Reader.damaged damage
  | some (least, extra) => do return least + (← Reader.number extra)

/-- A thing that a coded block is made of. -/
inductive Piece where
  | byte (value : UInt8)
  | repetition (length distance : Nat)
  | endOfBlock
  deriving DecidableEq, Repr

def readPiece (codes : Codes) (written : Nat) : Reader Piece := do
  let symbol ← codes.literals.read .literalCode
  if symbol < 256 then return .byte (UInt8.ofNat symbol)
  else if symbol = 256 then return .endOfBlock
  else
    let length ← readMeasure repetitionLengths (symbol - 257) .literalCode
    let distance ← readMeasure repetitionDistances (← codes.distances.read .distanceCode)
      .distanceCode
    if distance > written then Reader.damaged .tooFarBack
    else return .repetition length distance

/-- Repeats the bytes that stand so far back, one after the other. -/
def copyBack (distance : Nat) : Nat → Array UInt8 → Array UInt8
  | 0, output => output
  | count + 1, output =>
    copyBack distance count (output.push (output.getD (output.size - distance) 0))

/-- Where a piece of the data ends: what was written by then, and how many bytes were passed. Of a piece
that is stored, every byte was written as soon as it was passed. -/
structure Mark where
  written : Nat
  passed : Nat
  isStored : Bool
  deriving DecidableEq, Repr

/-- What was written so far, and the ends of its pieces. -/
structure Written where
  output : Array UInt8 := #[]
  marks : Array Mark := #[]

/-- One more piece, which is written by a change. -/
def Written.extend (written : Written) (change : Array UInt8 → Array UInt8) (passed : Nat)
    (isStored : Bool) : Written :=
  match written with
  | ⟨output, marks⟩ =>
    let output := change output
    let size := output.size
    ⟨output, marks.push ⟨size, passed, isStored⟩⟩

/-- What was written so far, and where reading goes on unless it stopped. -/
structure Progress where
  written : Written
  place : Except Stop Bits

/-- Reads the pieces of a block. Every piece takes a bit at least, which bounds their number. -/
def readPieces (codes : Codes) : Nat → Bits → Written → Progress
  | 0, _, written => ⟨written, .error .cut⟩
  | fuel + 1, bits, written =>
    match (readPiece codes written.output.size).run bits with
    | .error stop => ⟨written, .error stop⟩
    | .ok (.byte value, bits) =>
      readPieces codes fuel bits
        (written.extend (fun output => output.push value) bits.passed false)
    | .ok (.repetition length distance, bits) =>
      readPieces codes fuel bits
        (written.extend (copyBack distance length) bits.passed false)
    | .ok (.endOfBlock, bits) => ⟨written, .ok bits⟩

/-- The length of a stored block. -/
def readStoredLength : Reader Nat := do
  Reader.align
  let length ← Reader.littleEndian 2
  let complement ← Reader.littleEndian 2
  if length + complement ≠ 0xffff then Reader.damaged .storedLengths
  return length

/-- Copies stored bytes, as many as there are. -/
def readStored (bits : Bits) (written : Written) : Progress :=
  match readStoredLength.run bits with
  | .error stop => ⟨written, .error stop⟩
  | .ok (length, bits) =>
    let bytes := (bits.rest.take length).toArray
    let passed := bits.passed + bytes.size
    let isWhole := bytes.size = length
    let written := written.extend (fun output => output ++ bytes) passed true
    ⟨written, if isWhole then .ok (bits.skip length) else .error .cut⟩

/-- Whether a block is the last one, and its kind. -/
def readBlockHeader : Reader (Bool × Nat) := do
  let last ← Reader.bit
  let kind ← Reader.number 2
  if kind = 3 then Reader.damaged .blockType
  return (last, kind)

def Bits.count (bits : Bits) : Nat := bits.current.length + 8 * bits.rest.length

def readBlock (kind : Nat) (bits : Bits) (written : Written) : Progress :=
  if kind = 0 then readStored bits written
  else if kind = 1 then readPieces fixedCodes (bits.count + 1) bits written
  else
    match readCodes.run bits with
    | .error stop => ⟨written, .error stop⟩
    | .ok (codes, bits) => readPieces codes (bits.count + 1) bits written

/-- Reads blocks up to the last one. -/
def readBlocks : Nat → Bits → Written → Progress
  | 0, _, written => ⟨written, .error .cut⟩
  | fuel + 1, bits, written =>
    match readBlockHeader.run bits with
    | .error stop => ⟨written, .error stop⟩
    | .ok ((last, kind), bits) =>
      match readBlock kind bits written with
      | ⟨written, .error stop⟩ => ⟨written, .error stop⟩
      | ⟨written, .ok bits⟩ =>
        if last then ⟨written, .ok bits⟩ else readBlocks fuel bits written

/-- What deflated data held, the ends of its pieces, and the bytes after the data unless they stop. -/
structure Inflated where
  output : Array UInt8
  marks : Array Mark
  rest : Except Stop Bytes

def inflate (data : Bytes) : Inflated :=
  let progress := readBlocks (8 * data.length + 1) (.start data) {}
  ⟨progress.written.output, progress.written.marks, progress.place.map Bits.rest⟩

end Bookbinder.Compression
