import Bookbinder.Compression.Bits
import Bookbinder.Web.Address

/-!
Why nothing comes from an address. Problems are told to the user; faults end the program.
-/

set_option autoImplicit false

namespace Bookbinder.Web

inductive Problem where
  /-- The answer has another status than success. -/
  | status (code : Int)
  | unreachable (message : String)
  | tooManyRedirects
  | badLocation (fault : AddressFault)
  | damaged (damage : Compression.Damage)
  deriving DecidableEq, Repr

/-- What is told about a problem, after the address. -/
def Problem.line : Problem → String
  | .status code => "Status: " ++ Text.ofInt code
  | .unreachable message => "Error: " ++ message
  | .tooManyRedirects => "Error: Exceeded maximum allowed redirects."
  | .badLocation fault => "Error: Invalid URL in location header: " ++ fault.message ++ "."
  | .damaged damage => "Error: " ++ damage.message

/-- Characters in a row that are not ASCII, and where they stand. -/
structure Foreign where
  characters : List Char
  position : Nat
  deriving DecidableEq, Repr

def Foreign.message (foreign : Foreign) : String :=
  let place := match foreign.characters with
    | [c] =>
      "character '" ++ String.ofList (Text.codeEscape c.toNat) ++ "' in position " ++
        Text.digits 10 foreign.position
    | characters =>
      "characters in position " ++ Text.digits 10 foreign.position ++ "-" ++
        Text.digits 10 (foreign.position + characters.length - 1)
  "'ascii' codec can't encode " ++ place ++ ": ordinal not in range(128)"

inductive Fault where
  | address (fault : AddressFault)
  /-- An address that does not say how to get there. -/
  | unknownKind (address : String)
  /-- A header of an answer is not ASCII. -/
  | foreignHeader (foreign : Foreign)
  /-- The name of a host cannot be read. -/
  | hostName (fault : NameFault)
  deriving DecidableEq, Repr

def Fault.message : Fault → String
  | .address fault => fault.message
  | .unknownKind text => "unknown url type: " ++ Text.quoted text
  | .foreignHeader foreign => foreign.message
  | .hostName fault => fault.message

end Bookbinder.Web
