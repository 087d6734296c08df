import Bookbinder.Archive.Header
import Bookbinder.Pairs

/-!
Fields that members get besides those of their header. A field is a record: its length, a blank, a
keyword, an equals sign, a value and a line feed.
-/

set_option autoImplicit false

namespace Bookbinder.Archive

open Bookbinder.Text (Bytes)

/-- Why something cannot be read that belongs to the headers of a member. -/
inductive Trouble where
  | header (fault : HeaderFault)
  /-- A header that has to follow another one is at fault. -/
  | follower (fault : HeaderFault)
  | stream (ending : Compression.Gzip.Ending)
  | fault (cause : Fault)
  deriving DecidableEq, Repr

def Trouble.ofFault {α : Type} (result : Except Fault α) : Except Trouble α :=
  match result with
  | .ok value => .ok value
  | .error cause => .error (.fault cause)

/-- Keywords and values. -/
abbrev Fields := List (String × String)

structure Record where
  length : Nat
  keyword : String
  value : String
  deriving DecidableEq, Repr

def isDigitByte (byte : UInt8) : Bool := 0x30 ≤ byte && byte ≤ 0x39

def lossyText (bytes : Bytes) : String := String.ofList (Text.decodeUtf8Lossy bytes)

/-- The record at the beginning of some bytes. Its length covers the whole of it. -/
def readRecord? (bytes : Bytes) : Except Trouble (Option Record) :=
  let digits := bytes.takeWhile isDigitByte
  match digits, bytes.dropWhile isDigitByte with
  | _ :: _, 0x20 :: rest =>
    let keyword := rest.takeWhile (· != 0x3d)
    match keyword, rest.dropWhile (· != 0x3d) with
    | _ :: _, _ :: _ => do
      let length := (← Trouble.ofFault (readWholeBytes digits)).toNat
      if length = 0 then throw (.header .invalid)
      return some {
        length := length
        keyword := lossyText keyword
        value := lossyText
          ((bytes.take (length - 1)).drop (digits.length + 1 + keyword.length + 1)) }
    | _, _ => .ok none
  | _, _ => .ok none

/-- No place among fields is as far as this. -/
def placeLimit : Nat := 0x8000000000000000

/-- Adds the records in some bytes to fields, up to the first thing that is no record. A record takes a
byte at least, which bounds their number. -/
def readRecords : Nat → Nat → Fields → Bytes → Except Trouble Fields
  | 0, _, fields, _ => .ok fields
  | fuel + 1, place, fields, bytes => do
    match ← readRecord? bytes with
    | none => return fields
    | some record =>
      let fields := Pairs.put fields record.keyword record.value
      let place := place + record.length
      if place ≥ placeLimit then throw (.fault (.overflow .fieldPlace))
      readRecords fuel place fields (bytes.drop record.length)

/-- The lines of some bytes, each ended by a line feed. What comes after the last one is no line. -/
def endedLines (bytes : Bytes) : List Bytes := (Text.splitOn 0x0a bytes).dropLast

/-- What comes after the first place in a line where a digit and some bytes stand, if it is not empty. -/
def afterMark (mark : Bytes) : Bytes → Option Bytes
  | [] => none
  | byte :: rest =>
    let after := rest.drop mark.length
    if isDigitByte byte ∧ mark.isPrefixOf rest ∧ after ≠ [] then some after else afterMark mark rest

/-- The set of characters that fields say they are written in has to be named in text. -/
def checkCharacterSet (bytes : Bytes) : Except Fault Unit :=
  let mark := Text.encodeUtf8 " hdrcharset=".toList
  match (endedLines bytes).findSome? (afterMark mark) with
  | none => .ok ()
  | some name =>
    match Text.decodeUtf8 name with
    | .ok _ => .ok ()
    | .error error => .error (.undecodable error)

def Fields.extend (fields : Fields) (bytes : Bytes) : Except Trouble Fields := do
  Trouble.ofFault (checkCharacterSet bytes)
  readRecords bytes.length 0 fields bytes

/-- A number among fields; what is no number counts as zero. -/
def wholeOrZero (text : String) : Int := (Text.readInteger 10 text.toList).toOption.getD 0

/-- A header with one field in place of its own. -/
def Header.assign (header : Header) (keyword value : String) : Except Fault Header :=
  match keyword with
  | "path" => .ok { header with name := PathText.withoutFinalSlashes value }
  | "GNU.sparse.name" => .ok { header with name := value }
  | "linkpath" => .ok { header with linkName := value }
  | "size" => .ok { header with size := wholeOrZero value }
  | "GNU.sparse.size" | "GNU.sparse.realsize" =>
    (readWhole value).map fun size => { header with size := size }
  | "uid" => .ok { header with owner := { header.owner with user := wholeOrZero value } }
  | "gid" => .ok { header with owner := { header.owner with group := wholeOrZero value } }
  | "mtime" => .ok { header with time := (Time.ofText? value).getD (.whole 0) }
  | _ => .ok header

/-- A header with fields in place of its own, one after the other. -/
def Header.amend (header : Header) (fields : Fields) : Except Fault Header :=
  fields.foldlM (fun header field => header.assign field.1 field.2) header

theorem Header.amend_nil (header : Header) : header.amend [] = .ok header := rfl

end Bookbinder.Archive
