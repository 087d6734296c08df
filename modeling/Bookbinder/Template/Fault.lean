import Bookbinder.Text.Quoted

/-!
What can be wrong with a template, and how it is said.
-/

set_option autoImplicit false

namespace Bookbinder.Template

inductive Fault where
  | lonelyOpening
  | lonelyClosing
  | unclosedField
  | openingInName
  | missingConversion
  | unknownConversion (c : Char)
  | textAfterConversion
  | unclosedSpec
  | tooDeep
  | tooManyDigits
  | emptyAccess
  | unclosedIndex
  | textAfterIndex
  | positional (index : Nat)
  | unknownName (name : List Char)
  | noAttribute (name : List Char)
  | indexNotNumber
  | indexOutOfRange
  | malformedSpec (spec : List Char)
  | unknownCode (code : Char)
  | missingPrecision
  | signGiven
  | spaceGiven
  | negativeZeroGiven
  | alternateGiven
  | equalsAlignment
  | separatorGiven (separator code : Char)
  | bothSeparators
  deriving DecidableEq, Repr

/-- The families of faults that are told apart where one is reported. -/
inductive Kind where
  | malformedText
  | unknownKey
  | outOfRange
  | noSuchAttribute
  | wrongIndexType
  deriving DecidableEq, Repr

def Fault.kind : Fault → Kind
  | .positional _ | .indexOutOfRange => .outOfRange
  | .unknownName _ => .unknownKey
  | .noAttribute _ => .noSuchAttribute
  | .indexNotNumber => .wrongIndexType
  | _ => .malformedText

/-- The word for a family, as reports write it. -/
def Kind.label : Kind → String
  | .malformedText => "ValueError"
  | .unknownKey => "KeyError"
  | .outOfRange => "IndexError"
  | .noSuchAttribute => "AttributeError"
  | .wrongIndexType => "TypeError"

/-- A character in a message: what is not visible ASCII is given by its code. -/
def visible (c : Char) (limit : Nat) : String :=
  if 32 < c.toNat && c.toNat < limit then c.toString else "\\x" ++ Text.digits 16 c.toNat

/-- What was wrong: the text of a message, or the name that is unknown. -/
def Fault.detail : Fault → String
  | .lonelyOpening => "Single '\x7b' encountered in format string"
  | .lonelyClosing => "Single '\x7d' encountered in format string"
  | .unclosedField => "expected '\x7d' before end of string"
  | .openingInName => "unexpected '\x7b' in field name"
  | .missingConversion => "end of string while looking for conversion specifier"
  | .unknownConversion c => "Unknown conversion specifier " ++ visible c 127
  | .textAfterConversion => "expected ':' after conversion specifier"
  | .unclosedSpec => "unmatched '\x7b' in format spec"
  | .tooDeep => "Max string recursion exceeded"
  | .tooManyDigits => "Too many decimal digits in format string"
  | .emptyAccess => "Empty attribute in format string"
  | .unclosedIndex => "Missing ']' in format string"
  | .textAfterIndex => "Only '.' or '[' may follow ']' in format field specifier"
  | .positional index =>
    "Replacement index " ++ Text.digits 10 index ++ " out of range for positional args tuple"
  | .unknownName name => String.ofList name
  | .noAttribute name => "'str' object has no attribute '" ++ String.ofList name ++ "'"
  | .indexNotNumber => "string indices must be integers, not 'str'"
  | .indexOutOfRange => "string index out of range"
  | .malformedSpec spec =>
    "Invalid format specifier '" ++ String.ofList spec ++ "' for object of type 'str'"
  | .unknownCode code =>
    "Unknown format code '" ++ visible code 128 ++ "' for object of type 'str'"
  | .missingPrecision => "Format specifier missing precision"
  | .signGiven => "Sign not allowed in string format specifier"
  | .spaceGiven => "Space not allowed in string format specifier"
  | .negativeZeroGiven =>
    "Negative zero coercion (z) not allowed in string format specifier"
  | .alternateGiven => "Alternate form (#) not allowed in string format specifier"
  | .equalsAlignment => "'=' alignment not allowed in string format specifier"
  | .separatorGiven separator code =>
    "Cannot specify '" ++ separator.toString ++ "' with '" ++ visible code 128 ++ "'."
  | .bothSeparators => "Cannot specify both ',' and '_'."

/-- The message of a fault. An unknown name is quoted. -/
def Fault.message (fault : Fault) : String :=
  if fault.kind = .unknownKey then Text.quoted fault.detail else fault.detail

/-- A fault with its family, for use inside another message. -/
def Fault.report (fault : Fault) : String :=
  fault.kind.label ++ "(" ++ Text.quoted fault.detail ++ ")"

end Bookbinder.Template
