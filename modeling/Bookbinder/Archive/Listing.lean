import Bookbinder.Archive.Runs
import Bookbinder.Compression.ReadAhead

/-!
The members of an archive, in the order of their headers. All headers are read before anything is
extracted. An archive ends at a block of zeros, but also where a header is missing, cut or not a
header, unless it is the first one or belongs to the headers of a member.
-/

set_option autoImplicit false

namespace Bookbinder.Archive

open Bookbinder.Text (Bytes)
open Bookbinder.Compression (Gzip.Stream Gzip.Ending Gzip.Cursor)

structure Member where
  header : Header
  /-- Where its headers start, which tells it from other members. -/
  start : Nat
  dataStart : Nat
  deriving DecidableEq, Repr

structure Place where
  cursor : Gzip.Cursor
  /-- Where the next header is expected. -/
  next : Int
  /-- The fields that all members to come have. -/
  shared : Fields
  deriving Repr

def Place.start : Place := ⟨.start, 0, []⟩

/-- Reading headers. The place is kept also where a header cannot be read. -/
abbrev Listing (α : Type) := ExceptT Trouble (StateM Place) α

/-- More bytes than this cannot be asked for at once, and there is no room for this many. -/
def readLimit : Int := 0x8000000000000000

def memoryLimit : Int := 0x1000000000

/-- How many bytes can be asked for. -/
def readCount (length : Int) : Except Fault Nat :=
  if length < 0 then .error (.misvalue .readLength)
  else if length ≥ readLimit then .error (.overflow .readLength)
  else if length ≥ memoryLimit then .error .noMemory
  else .ok length.toNat

namespace Listing

def liftHeader {α : Type} (result : Except HeaderFault α) : Listing α :=
  match result with
  | .ok value => pure value
  | .error fault => throw (.header fault)

def liftTrouble {α : Type} (result : Except Trouble α) : Listing α :=
  match result with
  | .ok value => pure value
  | .error trouble => throw trouble

def liftFault {α : Type} (result : Except Fault α) : Listing α :=
  liftTrouble (Trouble.ofFault result)

def position : Listing Nat := return (← get).cursor.position

/-- So many bytes, or fewer at the end of the stream. -/
def bytes (stream : Gzip.Stream) (length : Int) : Listing Bytes := do
  let count ← liftFault (readCount length)
  match stream.read (← get).cursor count with
  | .ok (bytes, cursor) =>
    modify fun place => { place with cursor := cursor }
    return bytes
  | .error ending => throw (.stream ending)

/-- A fault in a header that has to be there counts as a fault of the archive. -/
def following {α : Type} (listing : Listing α) : Listing α :=
  tryCatch listing fun trouble =>
    match trouble with
    | .header fault => throw (.follower fault)
    | other => throw other

/-- How many bytes a member's data take, up to the next header. -/
def dataLength (header : Header) : Int :=
  if header.kind.hasData then wholeBlocks header.size else 0

/-- The next header is expected after so many bytes. -/
def expectAfter (start : Nat) (length : Int) : Listing Unit :=
  modify fun place => { place with next := start + length }

/-- A member whose header was read last. Where the next header is follows from the header itself, not
from the fields that all members have. -/
def plainMember (header : Header) (start : Nat) : Listing Member := do
  let dataStart ← position
  expectAfter dataStart (dataLength header)
  let amended ← liftFault (header.amend (← get).shared)
  let name := if amended.kind = .directory then PathText.withoutFinalSlashes amended.name
    else amended.name
  return ⟨{ amended with name := name }, start, dataStart⟩

/-- The runs in the blocks that follow. Each block that is there takes bytes, and one that is not has no
runs, which bounds their number. -/
def followingRuns (stream : Gzip.Stream) : Nat → Listing (List Run)
  | 0 => return []
  | fuel + 1 => do
    let block ← bytes stream blockSize
    let runs ← liftTrouble (runsOfBlock block)
    if ← liftTrouble (blockGoesOn block) then
      return runs ++ (← followingRuns stream fuel)
    return runs

/-- A file with holes whose header was read last. The fields that all members have are not its. -/
def holedMember (stream : Gzip.Stream) (header : Header) (outline : Outline) (start : Nat) :
    Listing Member := do
  let more ← if outline.goesOn then followingRuns stream (stream.bytes.size + 1) else pure []
  let dataStart ← position
  expectAfter dataStart (wholeBlocks header.size)
  let runs := outline.runs ++ more
  return ⟨{ header with kind := .file, size := outline.size, runs := some runs }, start, dataStart⟩

/-- The number in the next of the lines before the data, and what was read beyond it. -/
def lineNumber (stream : Gzip.Stream) (ahead : Bytes) : Listing (Int × Bytes) := do
  let block ← if ahead.contains 0x0a then pure [] else bytes stream blockSize
  let (line, rest) ← liftFault (splitLine (ahead ++ block))
  return (← liftFault (readWholeBytes line), rest)

def lineNumbers (stream : Gzip.Stream) : Nat → Bytes → Listing (List Int)
  | 0, _ => return []
  | count + 1, ahead => do
    let (number, rest) ← lineNumber stream ahead
    return number :: (← lineNumbers stream count rest)

/-- The runs that are listed in lines before the data, the number of them first. -/
def linedRuns (stream : Gzip.Stream) : Listing (List Run) := do
  let (count, rest) ← lineNumber stream []
  return Run.ofNumbers (← lineNumbers stream (2 * count).toNat rest)

/-- A member with the runs that fields say it has. -/
def withRuns (stream : Gzip.Stream) (member : Member) (fields : Fields) (records : Bytes) :
    Listing Member := do
  if let some text := Pairs.get? fields "GNU.sparse.map" then
    let runs ← liftFault (runsOfText text)
    return { member with header := { member.header with runs := some runs } }
  else if (Pairs.get? fields "GNU.sparse.size").isSome then
    let runs ← liftFault (runsOfRecords records)
    return { member with header := { member.header with runs := some runs } }
  else if Pairs.get? fields "GNU.sparse.major" = some "1" ∧
      Pairs.get? fields "GNU.sparse.minor" = some "0" then
    let runs ← linedRuns stream
    return {
      member with
      header := { member.header with runs := some runs }
      dataStart := ← position }
  else return member

/-- A directory's name without one slash at its end. -/
def withoutSlash (header : Header) : Header :=
  if header.kind = .directory ∧ PathText.endsInSlash header.name then
    { header with name := String.ofList header.name.toList.dropLast }
  else header

/-- A member with fields of its own. A size among them tells where the next header is. -/
def withFields (member : Member) (fields : Fields) : Listing Member := do
  let header ← liftFault (member.header.amend fields)
  if (Pairs.get? fields "size").isSome then
    expectAfter member.dataStart (dataLength header)
  return { member with header := header }

/-- Reads a member: its header, and those headers before it that are about it. -/
def member (stream : Gzip.Stream) : Nat → Listing Member
  | 0 => throw (.fault .endlessHeaders)
  | depth + 1 => do
    let start ← position
    let header ← liftHeader (Header.read (← bytes stream blockSize))
    match header.kind with
    | .longName =>
      let name := textOf (← bytes stream (wholeBlocks header.size))
      let next ← following (member stream depth)
      return { next with start := start, header := withoutSlash { next.header with name := name } }
    | .longLink =>
      let name := textOf (← bytes stream (wholeBlocks header.size))
      let next ← following (member stream depth)
      return { next with
        start := start, header := withoutSlash { next.header with linkName := name } }
    | .ownFields =>
      let records ← bytes stream (wholeBlocks header.size)
      let fields ← liftTrouble ((← get).shared.extend records)
      let next ← following (member stream depth)
      let next ← withRuns stream next fields records
      return { ← withFields next fields with start := start }
    | .sharedFields =>
      let records ← bytes stream (wholeBlocks header.size)
      let fields ← liftTrouble ((← get).shared.extend records)
      modify fun place => { place with shared := fields }
      let next ← following (member stream depth)
      withRuns stream next (← get).shared records
    | .holed outline => holedMember stream header outline start
    | _ => plainMember header start

/-- Positions have to be below this. -/
def positionLimit : Int := 0x8000000000000000

/-- Goes to a place; before the beginning there is none. -/
def seek (stream : Gzip.Stream) (cursor : Gzip.Cursor) (target : Int) :
    Except Fault Gzip.Cursor :=
  if target < -positionLimit ∨ positionLimit ≤ target then .error (.misvalue .position)
  else
    match stream.seek cursor target.toNat with
    | .ok cursor => .ok cursor
    | .error ending => .error (.stream ending)

/-- Goes on to where the next header is expected. The data before it have to be there. -/
def advance (stream : Gzip.Stream) (place : Place) : Except Fault Place := do
  if place.next = place.cursor.position then return place
  let cursor ← seek stream place.cursor (place.next - 1)
  match stream.read cursor 1 with
  | .ok ([], _) => throw .endOfData
  | .ok (_, cursor) => return { place with cursor := cursor }
  | .error ending => throw (.stream ending)

/-- What trouble with a header means: the end of the archive, or a fault of it. -/
def settle (isFirst : Bool) : Trouble → Except Fault Unit
  | .header .zeroBlock => .ok ()
  | .header .empty => if isFirst then .error .emptyFile else .ok ()
  | .header fault => if isFirst then .error (.header fault) else .ok ()
  | .follower fault => .error (.header fault)
  | .stream (.damaged damage) => .error (.compression damage)
  | .stream .cut => .error (.stream .cut)
  | .stream ending => .error (if isFirst then .notGzip else .stream ending)
  | .fault fault => .error fault

/-- So many headers about a header can be read. -/
def depthLimit : Nat := 328

/-- Reads members up to the end of the archive, and gives where reading ended. Unless a size below zero
leads back, each of them takes a block at least; there is no room for members without end. -/
def members (stream : Gzip.Stream) : Nat → Place → Except Fault (List Member × Gzip.Cursor)
  | 0, _ => .error .noMemory
  | fuel + 1, place => do
    if place.next = 0 ∧ place.cursor.position ≠ 0 then return ([], place.cursor)
    let isFirst := place.next = 0
    let place ← advance stream place
    match (member stream depthLimit).run place with
    | (.ok member, after) =>
      let (others, cursor) ← members stream fuel after
      return (member :: others, cursor)
    | (.error trouble, after) =>
      settle isFirst trouble
      return ([], after.cursor)

end Listing

/-- The members of the archive in a stream, and where reading ended. -/
def list (stream : Gzip.Stream) : Except Fault (List Member × Gzip.Cursor) :=
  Listing.members stream (stream.bytes.size + 1) .start

end Bookbinder.Archive

namespace Bookbinder

structure Archive where
  stream : Compression.Gzip.Stream
  members : List Archive.Member
  /-- Where reading of the headers ended. -/
  cursor : Compression.Gzip.Cursor

/-- The archive in compressed data. -/
def Archive.ofBytes (data : Text.Bytes) : Except Archive.Fault Archive :=
  let stream := Compression.Gzip.read data
  (Archive.list stream).map fun (members, cursor) => ⟨stream, members, cursor⟩

def Archive.names (archive : Archive) : List String :=
  archive.members.map fun member => member.header.name

end Bookbinder
