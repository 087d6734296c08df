import Bookbinder.Text.Number

/-!
Text as bytes in UTF-8. Reading is strict: no overlong forms, no surrogates, nothing above
U+10FFFF; the first fault is reported with the bytes it covers.
-/

set_option autoImplicit false

namespace Bookbinder.Text

abbrev Bytes := List UInt8

def encodeUtf8 (text : List Char) : Bytes := text.flatMap String.utf8EncodeChar

inductive Utf8Fault where
  | startByte
  | continuationByte
  | endOfData
  deriving DecidableEq, Repr

/-- The bytes from `start` up to `stop` do not belong to a character; `byte` is the first of them. -/
structure Utf8Error where
  fault : Utf8Fault
  byte : UInt8
  start : Nat
  stop : Nat
  deriving DecidableEq, Repr

def Utf8Fault.text : Utf8Fault → String
  | .startByte => "invalid start byte"
  | .continuationByte => "invalid continuation byte"
  | .endOfData => "unexpected end of data"

def Utf8Error.message (e : Utf8Error) : String :=
  let where_ :=
    if e.stop = e.start + 1 then
      "byte 0x" ++ String.ofList (hexDigits 2 e.byte.toNat) ++ " in position " ++ digits 10 e.start
    else "bytes in position " ++ digits 10 e.start ++ "-" ++ digits 10 (e.stop - 1)
  "'utf-8' codec can't decode " ++ where_ ++ ": " ++ e.fault.text

/-- What a first byte announces: its share of the code point and the ranges of the bytes that have
to follow. The second byte's range is what excludes overlong forms and surrogates. -/
def leadByte (byte : Nat) : Option (Nat × List (Nat × Nat)) :=
  let more := (0x80, 0xbf)
  if byte < 0x80 then some (byte, [])
  else if byte < 0xc2 then none
  else if byte < 0xe0 then some (byte - 0xc0, [more])
  else if byte = 0xe0 then some (0, [(0xa0, 0xbf), more])
  else if byte = 0xed then some (0xd, [(0x80, 0x9f), more])
  else if byte < 0xf0 then some (byte - 0xe0, [more, more])
  else if byte = 0xf0 then some (0, [(0x90, 0xbf), more, more])
  else if byte < 0xf4 then some (byte - 0xf0, [more, more, more])
  else if byte = 0xf4 then some (4, [(0x80, 0x8f), more, more])
  else none

/-- How the bytes after a first one go on: either the whole code point, or the number of bytes that
still fit and whether the data ends behind them. -/
inductive Tail where
  | whole (code : Nat)
  | broken (fitting : Nat) (atEnd : Bool)

def readTail (code : Nat) : List (Nat × Nat) → Bytes → Tail
  | [], _ => .whole code
  | _ :: _, [] => .broken 0 true
  | range :: ranges, byte :: rest =>
    if range.1 ≤ byte.toNat ∧ byte.toNat ≤ range.2 then
      match readTail (code * 64 + (byte.toNat - 0x80)) ranges rest with
      | .whole code => .whole code
      | .broken fitting atEnd => .broken (fitting + 1) atEnd
    else .broken 0 false

/-- `read` holds the characters before `position`, the last one first. -/
def decodeUtf8From (position : Nat) (read : List Char) (bytes : Bytes) :
    Except Utf8Error (List Char) :=
  match bytes with
  | [] => .ok read.reverse
  | byte :: rest =>
    match leadByte byte.toNat with
    | none => .error ⟨.startByte, byte, position, position + 1⟩
    | some (code, ranges) =>
      match readTail code ranges rest with
      | .whole code =>
        decodeUtf8From (position + 1 + ranges.length) (Char.ofNat code :: read)
          (rest.drop ranges.length)
      | .broken fitting atEnd =>
        .error ⟨if atEnd then .endOfData else .continuationByte, byte, position,
          position + 1 + fitting⟩
termination_by bytes.length
decreasing_by
  simp only [List.length_drop, List.length_cons]
  omega

def decodeUtf8 (bytes : Bytes) : Except Utf8Error (List Char) := decodeUtf8From 0 [] bytes

/-- Reading for display: each byte that belongs to no character becomes a replacement character. -/
def decodeUtf8LossyFrom (read : List Char) (bytes : Bytes) : List Char :=
  match bytes with
  | [] => read.reverse
  | byte :: rest =>
    match leadByte byte.toNat with
    | none => decodeUtf8LossyFrom ('\ufffd' :: read) rest
    | some (code, ranges) =>
      match readTail code ranges rest with
      | .whole code => decodeUtf8LossyFrom (Char.ofNat code :: read) (rest.drop ranges.length)
      | .broken fitting _ => decodeUtf8LossyFrom ('\ufffd' :: read) (rest.drop fitting)
termination_by bytes.length
decreasing_by all_goals (simp; try omega)

def decodeUtf8Lossy (bytes : Bytes) : List Char := decodeUtf8LossyFrom [] bytes

end Bookbinder.Text
