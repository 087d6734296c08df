import Bookbinder.Text.Quoted

/-!
What can be wrong with a configuration text, where, and how it is said. A reader that stops gives
the text it had not read; line and column follow from that.
-/

set_option autoImplicit false

namespace Bookbinder.Toml

/-- A dotted key, one part after the other. -/
abbrev Key := List String

inductive Fault where
  | invalidStatement
  | textAfterStatement
  | keyExpected
  | equalsExpected
  | tableUnclosed
  | tableArrayUnclosed
  | arrayUnclosed
  | inlineTableUnclosed
  | stringUnterminated
  | badEscape
  | badHex
  | notScalar
  | illegalCharacter (c : Char)
  | invalidCharacter (c : Char)
  | delimiterExpected (delimiter : String)
  | invalidValue
  | invalidDate
  | declaredTwice (key : Key)
  | frozen (key : Key)
  | namespaceRedefined (key : Key)
  | overwritten
  | duplicateInlineKey (name : String)
  | longNumber (digits : Nat)
  deriving DecidableEq, Repr

/-- Where reading stopped: `rest` is the text from there on. -/
structure Stop where
  fault : Fault
  rest : List Char
  deriving DecidableEq, Repr

/-- A key in a message: quoted parts between parentheses, a single one followed by a comma. -/
def keyText (key : Key) : String :=
  "(" ++ ", ".intercalate (key.map Text.quoted) ++ (if key.length = 1 then ",)" else ")")

def Fault.text : Fault → String
  | .invalidStatement => "Invalid statement"
  | .textAfterStatement => "Expected newline or end of document after a statement"
  | .keyExpected => "Invalid initial character for a key part"
  | .equalsExpected => "Expected '=' after a key in a key/value pair"
  | .tableUnclosed => "Expected ']' at the end of a table declaration"
  | .tableArrayUnclosed => "Expected ']]' at the end of an array declaration"
  | .arrayUnclosed => "Unclosed array"
  | .inlineTableUnclosed => "Unclosed inline table"
  | .stringUnterminated => "Unterminated string"
  | .badEscape => "Unescaped '\\' in a string"
  | .badHex => "Invalid hex value"
  | .notScalar => "Escaped character is not a Unicode scalar value"
  | .illegalCharacter c => "Illegal character " ++ Text.quoted c.toString
  | .invalidCharacter c => "Found invalid character " ++ Text.quoted c.toString
  | .delimiterExpected delimiter => "Expected " ++ Text.quoted delimiter
  | .invalidValue => "Invalid value"
  | .invalidDate => "Invalid date or datetime"
  | .declaredTwice key => "Cannot declare " ++ keyText key ++ " twice"
  | .frozen key => "Cannot mutate immutable namespace " ++ keyText key
  | .namespaceRedefined key => "Cannot redefine namespace " ++ keyText key
  | .overwritten => "Cannot overwrite a value"
  | .duplicateInlineKey name => "Duplicate inline table key " ++ Text.quoted name
  | .longNumber digits =>
    "Exceeds the limit (4300 digits) for integer string conversion: value has " ++
      Text.digits 10 digits ++ " digits; use sys.set_int_max_str_digits() to increase the limit"

inductive Place where
  | endOfDocument
  | at (line column : Nat)
  deriving DecidableEq, Repr

/-- Lines and columns count from one; a column counts characters. -/
def placeOf (whole rest : List Char) : Place :=
  if rest.isEmpty then .endOfDocument
  else
    let read := whole.take (whole.length - rest.length)
    .at (read.count '\n' + 1) ((read.reverse.takeWhile (· != '\n')).length + 1)

def Place.text : Place → String
  | .endOfDocument => "end of document"
  | .at line column => "line " ++ Text.digits 10 line ++ ", column " ++ Text.digits 10 column

structure Error where
  fault : Fault
  place : Place
  deriving DecidableEq, Repr

def Stop.error (whole : List Char) (stop : Stop) : Error :=
  ⟨stop.fault, placeOf whole stop.rest⟩

/-- A number that is too long is reported without its place. -/
def Error.message (error : Error) : String :=
  match error.fault with
  | .longNumber digits => (Fault.longNumber digits).text
  | fault => fault.text ++ " (at " ++ error.place.text ++ ")"

end Bookbinder.Toml
