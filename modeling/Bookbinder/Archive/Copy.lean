import Bookbinder.Archive.Listing
import Bookbinder.Failure

/-!
The data of members as the bytes of files. They are copied in pieces; what was copied before a fault stays.
A file with holes gets its runs where they belong, and zeros between them.
-/

set_option autoImplicit false

namespace Bookbinder.Archive

open Bookbinder.Text (Bytes)
open Bookbinder.Compression (Gzip.Stream Gzip.Cursor)

/-- Data are copied in pieces of this size. -/
def copySize : Nat := 0x4000

/-- The bytes that were copied, where reading goes on, and why there are no more. -/
structure Copied where
  bytes : Bytes
  cursor : Gzip.Cursor
  failure : Option Failure

/-- The next bytes, all of which have to be there. -/
def wholePiece (stream : Gzip.Stream) (cursor : Gzip.Cursor) (size : Nat) :
    Except Fault (Bytes × Gzip.Cursor) :=
  match stream.read cursor size with
  | .error ending => .error (.stream ending)
  | .ok (bytes, cursor) => if bytes.length < size then .error .endOfData else .ok (bytes, cursor)

/-- Bytes, and what is copied after them. -/
def Copied.after (copied : Copied) (bytes : Bytes) : Copied :=
  { copied with bytes := bytes ++ copied.bytes }

def copyPiece (stream : Gzip.Stream) (cursor : Gzip.Cursor) (size : Nat) : Copied :=
  match wholePiece stream cursor size with
  | .error fault => ⟨[], cursor, some (.archive fault)⟩
  | .ok (bytes, cursor) => ⟨bytes, cursor, none⟩

/-- Copies whole pieces, and then a last one unless it is empty. -/
def copyPieces (stream : Gzip.Stream) (last : Nat) : Nat → Gzip.Cursor → Copied
  | 0, cursor => if last = 0 then ⟨[], cursor, none⟩ else copyPiece stream cursor last
  | count + 1, cursor =>
    match wholePiece stream cursor copySize with
    | .error fault => ⟨[], cursor, some (.archive fault)⟩
    | .ok (bytes, cursor) => (copyPieces stream last count cursor).after bytes

/-- Copies so many bytes. A length below zero has no whole piece, but it has a last one. -/
def copy (stream : Gzip.Stream) (length : Int) (cursor : Gzip.Cursor) : Copied :=
  copyPieces stream (length % copySize).toNat (length / copySize).toNat cursor

/-- No file is as long as this. -/
def fileLimit : Int := 0x100000000000

/-- Why one cannot go to a place in a file. -/
def placeFailure? (place : Int) : Option Failure :=
  if place < -Listing.positionLimit ∨ Listing.positionLimit ≤ place then
    some (.archive (.misvalue .position))
  else if place < 0 ∨ fileLimit ≤ place then some (.refused .invalidArgument .unnamed)
  else none

/-- The bytes of a file with so many of them, cut or filled with zeros. -/
def resize (bytes : Bytes) (size : Nat) : Bytes :=
  bytes.take size ++ List.replicate (size - bytes.length) 0

/-- The bytes of a file after others were written from a place on. -/
def writeAt (bytes : Bytes) (place : Nat) (written : Bytes) : Bytes :=
  if written = [] then bytes
  else resize bytes place ++ written ++ bytes.drop (place + written.length)

/-- Copies runs to where they belong among bytes, and gives the file its size. -/
def copyRuns (stream : Gzip.Stream) (size : Int) : List Run → Copied → Copied
  | [], copied =>
    match placeFailure? size with
    | some failure => { copied with failure := some failure }
    | none => { copied with bytes := resize copied.bytes size.toNat }
  | run :: runs, copied =>
    match placeFailure? run.offset with
    | some failure => { copied with failure := some failure }
    | none =>
      let piece := copy stream run.length copied.cursor
      let bytes := writeAt copied.bytes run.offset.toNat piece.bytes
      match piece.failure with
      | some _ => { piece with bytes := bytes }
      | none => copyRuns stream size runs { piece with bytes := bytes }

/-- Copies the data of a member. -/
def copyData (stream : Gzip.Stream) (header : Header) (cursor : Gzip.Cursor) : Copied :=
  match header.runs with
  | none => copy stream header.size cursor
  | some runs => copyRuns stream header.size runs ⟨[], cursor, none⟩

theorem length_resize (bytes : Bytes) (size : Nat) : (resize bytes size).length = size := by
  simp only [resize, List.length_append, List.length_take, List.length_replicate]
  omega

end Bookbinder.Archive
