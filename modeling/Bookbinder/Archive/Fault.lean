import Bookbinder.Compression.Gzip
import Bookbinder.Text.Integer
import Bookbinder.Text.Utf8

/-!
What can be wrong with an archive. Most of it is told to the user as the reason why an archive cannot be
extracted; the other faults end the program.
-/

set_option autoImplicit false

namespace Bookbinder.Archive

/-- What can be wrong with the header of a member. -/
inductive HeaderFault where
  | empty
  | truncated
  /-- The block of zeros that ends an archive. -/
  | zeroBlock
  | badChecksum
  | invalid
  deriving DecidableEq, Repr

def HeaderFault.message : HeaderFault → String
  | .empty => "empty header"
  | .truncated => "truncated header"
  | .zeroBlock => "end of file header"
  | .badChecksum => "bad checksum"
  | .invalid => "invalid header"

/-- The two numbers that tell whose a file is. -/
inductive OwnerPart where
  | user
  | group
  deriving DecidableEq, Repr

def OwnerPart.name : OwnerPart → String
  | .user => "uid"
  | .group => "gid"

/-- A number that does not fit where it is needed. -/
inductive Overflow where
  | time
  | ownerBelow (part : OwnerPart)
  | ownerAbove (part : OwnerPart)
  | permissions
  | readLength
  | fieldPlace
  deriving DecidableEq, Repr

def Overflow.message : Overflow → String
  | .time => "timestamp out of range for platform time_t"
  | .ownerBelow part => part.name ++ " is less than minimum"
  | .ownerAbove part => part.name ++ " is greater than maximum"
  | .permissions => "Python int too large to convert to C int"
  | .readLength => "cannot fit 'int' into an index-sized integer"
  | .fieldPlace => "Python int too large to convert to C ssize_t"

/-- A value that has no meaning where it stands. -/
inductive Misvalue where
  | timeNotANumber
  | readLength
  | position
  /-- Something else where a whole number should stand, as it is shown. -/
  | notWhole (shown : String)
  | tooManyDigits (count : Nat)
  /-- A line that should end does not. -/
  | unendedLine
  deriving DecidableEq, Repr

/-- Of a text that is no number, so many characters are shown. -/
def shownLength : Nat := 200

def Misvalue.message : Misvalue → String
  | .timeNotANumber => "Invalid value NaN (not a number)"
  | .readLength => "read length must be non-negative or -1"
  | .position => "cannot fit 'int' into an offset-sized integer"
  | .notWhole shown =>
    "invalid literal for int() with base 10: " ++ String.ofList (shown.toList.take shownLength)
  | .tooManyDigits count =>
    "Exceeds the limit (4300 digits) for integer string conversion: value has " ++
      Text.digits 10 count ++
      " digits; use sys.set_int_max_str_digits() to increase the limit"
  | .unendedLine => "not enough values to unpack (expected 2, got 1)"

/-- Why a text that is shown so is no whole number. -/
def Misvalue.ofInteger (shown : String) : Text.IntegerFault → Misvalue
  | .notWhole => .notWhole shown
  | .tooLong digits => .tooManyDigits digits

inductive Fault where
  | notGzip
  | emptyFile
  | header (fault : HeaderFault)
  | endOfData
  /-- Damage in the middle of a header. -/
  | compression (damage : Compression.Damage)
  /-- The stream of bytes ends before its end. -/
  | stream (ending : Compression.Gzip.Ending)
  | overflow (number : Overflow)
  | misvalue (value : Misvalue)
  /-- The name of a set of characters is no text. -/
  | undecodable (error : Text.Utf8Error)
  /-- The list of the runs of a file with holes ends in the middle. -/
  | cutRuns
  | noMemory
  /-- Headers that are about headers, too many of them. -/
  | endlessHeaders
  | outside (name place : String)
  | specialFile (name : String)
  | absoluteLink (name : String)
  | linkOutside (name place : String)
  /-- No member is found that a link could stand for. -/
  | missingTarget (name : String)
  /-- Links stand for one another without an end. -/
  | endlessLinks
  /-- A member is left out, and nothing is said about it. -/
  | leftOut
  deriving DecidableEq, Repr

def Fault.message : Fault → String
  | .notGzip => "not a gzip file"
  | .emptyFile => "empty file"
  | .header fault => fault.message
  | .endOfData => "unexpected end of data"
  | .compression damage => "zlib error: " ++ damage.message
  | .stream ending => ending.message
  | .overflow number => number.message
  | .misvalue value => value.message
  | .undecodable error => error.message
  | .cutRuns => "index out of range"
  | .noMemory => ""
  | .endlessHeaders | .endlessLinks => "maximum recursion depth exceeded"
  | .outside name place =>
    Text.quoted name ++ " would be extracted to " ++ Text.quoted place ++
      ", which is outside the destination"
  | .specialFile name => Text.quoted name ++ " is a special file"
  | .absoluteLink name => Text.quoted name ++ " is a link to an absolute path"
  | .linkOutside name place =>
    Text.quoted name ++ " would link to " ++ Text.quoted place ++
      ", which is outside the destination"
  | .missingTarget name => Text.quoted ("linkname " ++ Text.quoted name ++ " not found")
  | .leftOut => ""

/-- Whether a fault is told as the reason why an archive cannot be extracted. A stream that is cut or
that is damaged outside of headers, numbers that do not fit, and links that lead to nothing end the
program instead. -/
def Fault.isReported : Fault → Bool
  | .notGzip | .emptyFile | .header _ | .endOfData | .compression _ | .outside _ _
  | .specialFile _ | .absoluteLink _ | .linkOutside _ _ | .leftOut => true
  | .stream ending =>
    match ending with
    | .cut | .damaged _ => false
    | _ => true
  | _ => false

/-- A whole number in decimal digits. -/
def readWhole (text : String) : Except Fault Int :=
  match Text.readInteger 10 text.toList with
  | .ok value => .ok value
  | .error fault => .error (.misvalue (.ofInteger (Text.quoted text) fault))

/-- Bytes as characters; those that are not in ASCII belong to no number. -/
def asciiText (bytes : Text.Bytes) : List Char :=
  bytes.map fun byte => if byte < 0x80 then Char.ofNat byte.toNat else '\ufffd'

/-- A whole number in bytes that are decimal digits. -/
def readWholeBytes (bytes : Text.Bytes) : Except Fault Int :=
  match Text.readInteger 10 (asciiText bytes) with
  | .ok value => .ok value
  | .error fault =>
    .error (.misvalue (.ofInteger (Text.quotedBytes (bytes.take shownLength)) fault))

end Bookbinder.Archive
