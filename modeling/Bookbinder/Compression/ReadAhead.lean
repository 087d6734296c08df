import Bookbinder.Compression.Gzip

/-!
Reading in a stream at any place. Data that hold no damage are simply there. Where a stream is damaged it
matters how far ahead it was decompressed: compressed data are taken in pieces, and of a piece that shows
the damage nothing more is given.
-/

set_option autoImplicit false

namespace Bookbinder.Compression

open Bookbinder.Text (Bytes)

namespace Gzip

/-- Compressed data are taken, and decompressed data are held, in pieces of this size. -/
def pieceSize : Nat := 8192

/-- How much of a member is there when so many bytes of its data have been passed. -/
def Segment.reach (segment : Segment) (passed : Nat) : Nat :=
  segment.marks.foldl (fun reach mark =>
    if mark.passed ≤ passed then mark.written
    else if mark.isStored then max reach (mark.written - (mark.passed - passed))
    else reach) 0

/-- How many bytes have been passed when there is no room for a byte of a member. What a coded piece needs
is passed already then. -/
def Segment.passedAt? (segment : Segment) (place : Nat) : Option Nat :=
  match segment.marks.find? fun mark => place < mark.written with
  | some mark =>
    some (if mark.isStored then mark.passed - (mark.written - place) else mark.passed)
  | none => segment.damage.map fun damage => damage.2

/-- How many bytes have to be passed before a byte of a member is there, or else its damage. -/
def Segment.needed (segment : Segment) (place : Nat) : Nat :=
  match segment.marks.find? fun mark => place < mark.written with
  | some mark =>
    if mark.isStored then mark.passed - (mark.written - (place + 1)) else mark.passed
  | none => (segment.damage.map fun damage => damage.2).getD 0

/-- How much of the data is taken to go on: whole pieces, until something comes of them. -/
def offer (passed needed : Nat) : Nat :=
  passed + pieceSize * max 1 ((needed - passed + (pieceSize - 1)) / pieceSize)

/-- A distance that leads too far back is found out only where there is room for what it repeats. -/
def isFoundLate (damage : Damage) : Bool := damage == .tooFarBack

/-- What is held of a stream: from `start` up to `stop`. To come there, so many bytes have been passed of
the data of the member that is read. -/
structure Held where
  start : Nat
  stop : Nat
  passed : Nat
  deriving DecidableEq, Repr

def Held.empty : Held := ⟨0, 0, 0⟩

/-- Decompresses some of a member after what is held, so many bytes at most. -/
def Segment.supply (segment : Segment) (held : Held) (limit : Nat) : Except Damage Held :=
  let place := held.stop - segment.start
  let passed := if place = 0 then 0 else held.passed
  let offered := offer passed (segment.needed place)
  let reach := min (segment.reach offered) (place + limit)
  let isFull := reach = place + limit
  let shown := segment.damage.filter fun damage =>
    reach = segment.size ∧ damage.2 ≤ offered ∧ (¬isFull ∨ !isFoundLate damage.1)
  match shown with
  | some damage => .error damage.1
  | none =>
    let passed := if isFull then min offered ((segment.passedAt? reach).getD offered) else offered
    .ok { held with stop := segment.start + reach, passed := passed }

/-- Decompresses some more of a stream, so many bytes at most, and never beyond one member. -/
def Stream.supply (stream : Stream) (held : Held) (limit : Nat) : Except Damage Held :=
  let goesOn (segment : Segment) : Bool :=
    held.stop < segment.start + segment.size || segment.damage.isSome
  match stream.segments.find? goesOn with
  | some segment => segment.supply held limit
  | none => .ok held

/-- Decompresses up to a place and holds nothing. Every step gives a byte at least, which bounds their
number. -/
def Stream.skipTo (stream : Stream) (target : Nat) : Nat → Held → Except Damage Held
  | 0, held => .ok held
  | fuel + 1, held =>
    if target ≤ held.stop then .ok { held with start := held.stop }
    else do
      let more ← stream.supply held (min pieceSize (target - held.stop))
      stream.skipTo target fuel more

/-- Decompresses whole pieces before a place and holds nothing of them. -/
def Stream.passPieces (stream : Stream) (target : Nat) : Nat → Held → Except Damage Held
  | 0, held => .ok held
  | fuel + 1, held =>
    let limit := (target - held.stop) / pieceSize * pieceSize
    if limit = 0 then .ok { held with start := held.stop }
    else do
      let more ← stream.supply held limit
      stream.passPieces target fuel more

/-- Holds one piece after what was held, or as much of it as reaches a place. -/
def Stream.holdTo (stream : Stream) (target : Nat) : Nat → Held → Except Damage Held
  | 0, held => .ok held
  | fuel + 1, held =>
    if target ≤ held.stop then .ok held
    else do
      let more ← stream.supply held (pieceSize - (held.stop - held.start))
      stream.holdTo target fuel more

/-- A place in a stream, and what is held of it. -/
structure Cursor where
  position : Nat
  held : Held
  deriving DecidableEq, Repr

def Cursor.start : Cursor := ⟨0, .empty⟩

/-- What is held of a damaged stream after a place was sought. -/
def Stream.seekAhead (stream : Stream) (cursor : Cursor) (target : Nat) : Except Damage Held :=
  let held := cursor.held
  if held.start ≤ target ∧ target ≤ held.stop ∧ cursor.position < held.stop then .ok held
  else stream.skipTo target (target + 1) (if target < held.stop then .empty else held)

/-- What is held of a damaged stream after bytes up to a place were read. -/
def Stream.readAhead (stream : Stream) (cursor : Cursor) (target : Nat) : Except Damage Held :=
  if target ≤ cursor.held.stop then .ok cursor.held
  else do
    let passed ← stream.passPieces target (target + 1) cursor.held
    stream.holdTo target (target + 1) passed

/-- The bytes from a place on, so many of them. There are fewer only where the stream is finished. -/
def Stream.slice (stream : Stream) (position count : Nat) : Except Ending Bytes :=
  let bytes := (stream.bytes.extract position (position + count)).toList
  if bytes.length = count ∨ stream.ending = .finished then .ok bytes else .error stream.ending

/-- Reads so many bytes, or fewer where the stream is finished. -/
def Stream.read (stream : Stream) (cursor : Cursor) (count : Nat) : Except Ending (Bytes × Cursor) :=
  match stream.ending with
  | .damaged _ =>
    let target := cursor.position + count
    match stream.readAhead cursor target with
    | .ok held => .ok ((stream.bytes.extract cursor.position target).toList, ⟨target, held⟩)
    | .error damage => .error (.damaged damage)
  | _ => do
    let bytes ← stream.slice cursor.position count
    return (bytes, { cursor with position := cursor.position + bytes.length })

/-- Goes to a place, or to the end where the stream is finished before it. -/
def Stream.seek (stream : Stream) (cursor : Cursor) (target : Nat) : Except Ending Cursor :=
  match stream.ending with
  | .damaged _ =>
    match stream.seekAhead cursor target with
    | .ok held => .ok ⟨target, held⟩
    | .error damage => .error (.damaged damage)
  | .finished => .ok { cursor with position := min target stream.bytes.size }
  | ending =>
    if target ≤ stream.bytes.size then .ok { cursor with position := target } else .error ending

theorem Stream.slice_of_le (stream : Stream) (position count : Nat)
    (inside : position + count ≤ stream.bytes.size) :
    stream.slice position count =
      .ok (stream.bytes.extract position (position + count)).toList := by
  have length : ((stream.bytes.extract position (position + count)).toList).length = count := by
    simp only [Array.length_toList, Array.size_extract]
    omega
  simp only [slice, length, true_or, if_true]

/-- In a stream without damage, reading goes on after the bytes that were read. -/
theorem Stream.read_of_finished (stream : Stream) (cursor : Cursor) (count : Nat)
    (finished : stream.ending = .finished) (inside : cursor.position + count ≤ stream.bytes.size) :
    stream.read cursor count =
      .ok ((stream.bytes.extract cursor.position (cursor.position + count)).toList,
        { cursor with position := cursor.position + count }) := by
  have length :
      ((stream.bytes.extract cursor.position (cursor.position + count)).toList).length = count := by
    simp only [Array.length_toList, Array.size_extract]
    omega
  simp only [read, finished, slice_of_le stream _ _ inside, bind, Except.bind, pure, Except.pure,
    length]

end Gzip

end Bookbinder.Compression
