import Bookbinder.Compression.Checksum
import Bookbinder.Compression.Inflate
import Bookbinder.Text.Quoted

/-!
Files of compressed members, one after the other. Each member has a header, deflated data, and a
trailer with the checksum and the length of what the data hold. What can be read before a file is cut or
damaged is kept, and of every member the ends of the pieces that its data are made of.
-/

set_option autoImplicit false

namespace Bookbinder.Compression

open Bookbinder.Text (Bytes)

namespace Gzip

/-- The two bytes with which a member starts. -/
def magic : Bytes := [0x1f, 0x8b]

/-- The only method of compression that is known. -/
def deflateMethod : Nat := 8

/-- The flags of a header that tell which fields it has. -/
structure Flags where
  headerChecksum : Bool
  extra : Bool
  name : Bool
  comment : Bool
  /-- Flags without a meaning. -/
  reserved : Bool
  deriving DecidableEq, Repr

def Flags.ofNat (flags : Nat) : Flags where
  headerChecksum := flags.testBit 1
  extra := flags.testBit 2
  name := flags.testBit 3
  comment := flags.testBit 4
  reserved := flags / 32 != 0

/-- Passes over the fields between the fixed part of a header and its checksum. A text ends with a zero;
`skipText` passes over one. -/
def skipFields (skipText : Reader Unit) (flags : Flags) : Reader Unit := do
  if flags.extra then
    let length ← Reader.littleEndian 2
    let _ ← Reader.bytes length
  if flags.name then skipText
  if flags.comment then skipText

/-- What is left of a fixed part after the magic bytes, the method and the flags. -/
def unreadFields : Nat := 6

/-- How a file ends. -/
inductive Ending where
  | finished
  | cut
  /-- Where a member should start, something else stands. -/
  | notGzip (bytes : Bytes)
  | unknownMethod
  | badChecksum (given found : Nat)
  | badLength
  | damaged (damage : Damage)
  deriving DecidableEq, Repr

def cutMessage : String := "Compressed file ended before the end-of-stream marker was reached"

def hexText (value : Nat) : String := "0x" ++ Text.digits 16 value

def Ending.message : Ending → String
  | .finished => ""
  | .cut => cutMessage
  | .notGzip bytes => "Not a gzipped file (" ++ Text.quotedBytes bytes ++ ")"
  | .unknownMethod => "Unknown compression method"
  | .badChecksum given found =>
    "CRC check failed " ++ hexText given ++ " != " ++ hexText found
  | .badLength => "Incorrect length of data produced"
  | .damaged damage => damage.message

/-- Passes over a text and its zero. A text that the file ends in is taken as it is. -/
def skipText : Reader Unit := modify fun bits =>
  bits.skip ((bits.rest.takeWhile (· != 0)).length + 1)

/-- Reads what follows the magic bytes of a header. The header's own checksum is not looked at. -/
def readHeader : Reader Bool := do
  let method ← Reader.littleEndian 1
  let flags ← Reader.littleEndian 1
  let _ ← Reader.bytes unreadFields
  if method ≠ deflateMethod then return false
  let flags := Flags.ofNat flags
  skipFields skipText flags
  if flags.headerChecksum then
    let _ ← Reader.bytes 2
  return true

/-- The checksum and the length in a trailer. -/
def readTrailer : Reader (Nat × Nat) := do
  let fields ← Reader.bytes 8
  let number (bytes : Bytes) := bytes.foldr (fun byte value => byte.toNat + 256 * value) 0
  return (number (fields.take 4), number (fields.drop 4))

/-- Why a stop of reading ends a file. -/
def Ending.ofStop : Stop → Ending
  | .cut => .cut
  | .damaged damage _ => .damaged damage

/-- Lengths are kept in four bytes. -/
def lengthLimit : Nat := 0x100000000

/-- What a trailer says against the data before it. -/
def checkTrailer (content : Array UInt8) (given : Nat × Nat) : Except Ending Unit :=
  let found := (redundancy content.toList).toNat
  if given.1 ≠ found then .error (.badChecksum given.1 found)
  else if given.2 ≠ content.size % lengthLimit then .error .badLength
  else .ok ()

/-- Zeros between members are passed over. -/
def afterTrailer (content : Array UInt8) (rest : Bytes) : Except Ending Bytes :=
  match readTrailer.run (.start rest) with
  | .error stop => .error (.ofStop stop)
  | .ok (given, bits) => (checkTrailer content given).map fun _ => bits.rest.dropWhile (· == 0)

/-- What the compressed data of one member give, and where it starts in the whole. -/
structure Segment where
  start : Nat
  size : Nat
  marks : Array Mark
  /-- What is wrong with the data after this, and how many of them show it. -/
  damage : Option (Damage × Nat)
  deriving DecidableEq, Repr

/-- What a file holds as far as it can be read, and why it ends there. -/
structure Stream where
  bytes : Array UInt8
  segments : List Segment
  ending : Ending
  deriving DecidableEq, Repr

/-- What is wrong with data that stop, and how many of them show it. -/
def damageOf : Except Stop Bytes → Option (Damage × Nat)
  | .error (.damaged damage passed) => some (damage, passed)
  | _ => none

/-- The stream after one more member. -/
def Stream.extend (stream : Stream) (inflated : Inflated) (ending : Ending) : Stream :=
  match stream with
  | ⟨bytes, segments, _⟩ =>
    let segment : Segment :=
      ⟨bytes.size, inflated.output.size, inflated.marks, damageOf inflated.rest⟩
    ⟨bytes ++ inflated.output, segments ++ [segment], ending⟩

/-- How a file goes on after the deflated data of a member. -/
def afterData (inflated : Inflated) : Except Ending Bytes :=
  match inflated.rest with
  | .error stop => .error (.ofStop stop)
  | .ok rest => afterTrailer inflated.output rest

/-- Reads member after member. Each of them takes a byte at least, which bounds their number. -/
def readMembers : Nat → Stream → Bytes → Stream
  | 0, stream, _ => stream
  | fuel + 1, stream, data =>
    match data with
    | [] => stream
    | _ =>
      if data.take 2 ≠ magic then { stream with ending := .notGzip (data.take 2) }
      else
        match readHeader.run (.start (data.drop 2)) with
        | .error stop => { stream with ending := .ofStop stop }
        | .ok (false, _) => { stream with ending := .unknownMethod }
        | .ok (true, bits) =>
          let inflated := inflate bits.rest
          match afterData inflated with
          | .error ending => stream.extend inflated ending
          | .ok rest => readMembers fuel (stream.extend inflated .finished) rest

def read (data : Bytes) : Stream := readMembers (data.length + 1) ⟨#[], [], .finished⟩ data

theorem read_nil : read [] = ⟨#[], [], .finished⟩ := rfl

end Gzip

end Bookbinder.Compression
