import Bookbinder.Archive.Time
import Bookbinder.FileSystem.PathText

/-!
The header of a member: one block with fields at fixed places. A text field ends at its first zero; a
number field holds digits in base eight or, marked by its first byte, bytes with the highest first.
-/

set_option autoImplicit false

namespace Bookbinder.Archive

open Bookbinder.Text (Bytes)

/-- Headers and the data of members fill whole blocks. -/
def blockSize : Nat := 512

/-- A count of bytes rounded up to whole blocks. -/
def wholeBlocks (count : Int) : Int := (count + (blockSize - 1)) / blockSize * blockSize

/-- A run of the data of a file with holes: where it belongs, and its length. -/
structure Run where
  offset : Int
  length : Int
  deriving DecidableEq, Repr

/-- What a header says about a file with holes. -/
structure Outline where
  runs : List Run
  /-- Whether more runs follow after the header. -/
  goesOn : Bool
  /-- The size of the file with its holes. -/
  size : Int
  deriving DecidableEq, Repr

/-- What the data after a header are. -/
inductive Kind where
  | file
  | hardLink
  | symlink
  | directory
  /-- A device or a pipe. -/
  | device
  /-- A kind that has no meaning; its data are kept like those of a file. -/
  | unknown
  /-- A file with holes, of which only the runs between them are kept. -/
  | holed (outline : Outline)
  /-- The name of the next member. -/
  | longName
  /-- The link target of the next member. -/
  | longLink
  /-- Fields for the next member. -/
  | ownFields
  /-- Fields for all members to come. -/
  | sharedFields
  deriving DecidableEq, Repr

def Kind.ofByte (byte : UInt8) : Kind :=
  match Char.ofNat byte.toNat with
  | '0' | '7' | '\x00' => .file
  | '1' => .hardLink
  | '2' => .symlink
  | '3' | '4' | '6' => .device
  | '5' => .directory
  | 'L' => .longName
  | 'K' => .longLink
  | 'x' | 'X' => .ownFields
  | 'g' => .sharedFields
  | _ => .unknown

/-- Whether members of a kind have data of their own. -/
def Kind.hasData : Kind → Bool
  | .file | .unknown => true
  | _ => false

def field (block : Bytes) (start length : Nat) : Bytes := (block.drop start).take length

/-- The text of bytes up to the first zero. -/
def textOf (bytes : Bytes) : String :=
  String.ofList (Text.decodeUtf8Lossy (bytes.takeWhile (· != 0)))

/-- A number in bytes, the highest first. -/
def bigEndian (bytes : Bytes) : Nat :=
  bytes.foldl (fun value byte => value * 256 + byte.toNat) 0

/-- A number in digits; blanks around it are left out, and nothing at all is zero. -/
def octal? (bytes : Bytes) : Option Int :=
  let digits := bytes.takeWhile (· != 0)
  if digits.any (· ≥ 0x80) then none
  else
    match Text.trimBlanks (digits.map fun byte => Char.ofNat byte.toNat) with
    | [] => some 0
    | text => (Text.readInteger 8 text).toOption

/-- A first byte of 0x80 marks a number in bytes, and 0xff a negative one. -/
def number? (bytes : Bytes) : Option Int :=
  match bytes with
  | 0x80 :: rest => some (bigEndian rest)
  | 0xff :: rest => some ((bigEndian rest : Int) - (1 <<< (8 * rest.length) : Nat))
  | _ => octal? bytes

def numberField (block : Bytes) (start length : Nat) : Except HeaderFault Int :=
  match number? (field block start length) with
  | some value => .ok value
  | none => .error .invalid

/-- A byte as a number that may be negative. -/
def signedByte (byte : UInt8) : Int :=
  if byte.toNat < 128 then byte.toNat else byte.toNat - 256

/-- The bytes of a header that its checksum covers; the checksum itself counts as eight blanks. -/
def covered (block : Bytes) : Bytes := block.take 148 ++ List.replicate 8 0x20 ++ block.drop 156

/-- Sums of the bytes of a header: both ways to look at a byte are in use. -/
def checksums (block : Bytes) : List Int :=
  [(covered block).foldl (fun sum byte => sum + byte.toNat) 0,
    (covered block).foldl (fun sum byte => sum + signedByte byte) 0]

/-- Whose a file is. -/
structure Owner where
  user : Int
  group : Int
  deriving DecidableEq, Repr

/-- What a header says about the member after it. -/
structure Header where
  kind : Kind
  name : String
  linkName : String
  size : Int
  /-- The permission bits. -/
  mode : Int
  owner : Owner
  time : Time
  /-- For a file with holes: the runs that its data consist of. -/
  runs : Option (List Run)
  deriving DecidableEq, Repr

/-- The runs that a header has room for. -/
def outlineRuns : Nat := 4

/-- A run takes two numbers of twelve bytes. -/
def runSize : Nat := 24

/-- What the header of a file with holes says about them. -/
def Outline.ofBlock (block : Bytes) : Except HeaderFault Outline := do
  let runs ← (List.range outlineRuns).mapM fun index => do
    let place := 386 + runSize * index
    return (⟨← numberField block place 12, ← numberField block (place + 12) 12⟩ : Run)
  return {
    runs := runs
    goesOn := field block 482 1 != [0]
    size := ← numberField block 483 12 }

/-- The byte for a file with holes. -/
def holedByte : UInt8 := UInt8.ofNat 'S'.toNat

/-- A directory may be written as a file whose name ends with a slash. -/
def kindOf (block : Bytes) (byte : UInt8) (name : String) : Except HeaderFault Kind :=
  if byte = 0 ∧ PathText.endsInSlash name then .ok .directory
  else if byte = holedByte then (Outline.ofBlock block).map .holed
  else .ok (.ofByte byte)

/-- The beginning of a name that is too long for its field. -/
def withBeginning (beginning name : String) : String :=
  if beginning = "" then name else beginning ++ "/" ++ name

/-- Some kinds use the field for the beginning of a name for other things. -/
def hasBeginning (byte : UInt8) : Bool := !(['L', 'K', 'S'].contains (Char.ofNat byte.toNat))

/-- The fields of a block. Those that are not kept have to be numbers all the same. -/
def Header.ofBlock (block : Bytes) : Except HeaderFault Header := do
  let checksum ← numberField block 148 8
  if !(checksums block).contains checksum then throw .badChecksum
  let mode ← numberField block 100 8
  let user ← numberField block 108 8
  let group ← numberField block 116 8
  let size ← numberField block 124 12
  let seconds ← numberField block 136 12
  let _ ← numberField block 329 8
  let _ ← numberField block 337 8
  let byte := (field block 156 1).headD 0
  let name := textOf (field block 0 100)
  let kind ← kindOf block byte name
  let name := if kind = .directory then PathText.withoutFinalSlashes name else name
  let beginning := if hasBeginning byte then textOf (field block 345 155) else ""
  return {
    kind := kind
    name := withBeginning beginning name
    linkName := textOf (field block 157 100)
    size := size
    mode := mode
    owner := ⟨user, group⟩
    time := .whole seconds
    runs := none }

/-- Reads a header from what is there of a block. -/
def Header.read (bytes : Bytes) : Except HeaderFault Header :=
  if bytes.isEmpty then .error .empty
  else if bytes.length ≠ blockSize then .error .truncated
  else if bytes.all (· == 0) then .error .zeroBlock
  else Header.ofBlock bytes

theorem wholeBlocks_dvd (count : Int) : (blockSize : Int) ∣ wholeBlocks count :=
  Int.dvd_mul_left _ _

theorem le_wholeBlocks (count : Int) : count ≤ wholeBlocks count := by
  simp only [wholeBlocks, blockSize]
  omega

end Bookbinder.Archive
