import Bookbinder.Text.Composite
import Bookbinder.Web.HostCharacter
import Bookbinder.Web.LabelPlace
import Bookbinder.Web.Punycode

/-!
Labels of host names. A label is a list of code points; in an address it is written in ASCII, and a mark
before it tells that it stands for other characters. Main statement: an ASCII label that is encoded is
left as it is.
-/

set_option autoImplicit false

namespace Bookbinder.Web

abbrev Label := List Nat

/-- What can be wrong with a label. -/
inductive LabelFault where
  | empty
  | tooLong
  | notComposed
  | innerHyphens
  | outerHyphen
  | leadingMark
  | character (label : Label) (code position : Nat)
  | joiner (label : Label) (code position : Nat)
  | misplacedSign (label : Label) (code position : Nat)
  | direction (fault : DirectionFault)
  /-- Nothing stands behind the mark of an encoded label. -/
  | nothingEncoded
  | finalHyphen
  | undecodable
  deriving DecidableEq, Repr

/-- A code point in four hexadecimal digits, or more. -/
def codeName (code : Nat) : String :=
  let digits := (Text.digits 16 code).toList.map Char.toUpper
  "U+" ++ String.ofList (List.replicate (4 - digits.length) '0' ++ digits)

def LabelFault.message : LabelFault → String
  | .empty => "Empty Label"
  | .tooLong => "Label too long"
  | .notComposed => "Label must be in Normalization Form C"
  | .innerHyphens => "Label has disallowed hyphens in 3rd and 4th position"
  | .outerHyphen => "Label must not start or end with a hyphen"
  | .leadingMark => "Label begins with an illegal combining character"
  | .character label code position =>
    "Codepoint " ++ codeName code ++ " at position " ++ Text.digits 10 position ++ " of " ++
      Text.quotedCodes label ++ " not allowed"
  | .joiner label code position =>
    "Unknown codepoint adjacent to joiner " ++ codeName code ++ " at position " ++
      Text.digits 10 position ++ " in " ++ Text.quotedCodes label
  | .misplacedSign label code position =>
    "Codepoint " ++ codeName code ++ " not allowed at position " ++ Text.digits 10 position ++ " in " ++
      Text.quotedCodes label
  | .direction fault => fault.message
  | .nothingEncoded => "Malformed A-label, no Punycode eligible content found"
  | .finalHyphen => "A-label must not end with a hyphen"
  | .undecodable => "Invalid A-label"

/-- The greatest length of an encoded label, and of a name. -/
def longestLabel : Nat := 63

def longestHost : Nat := 253

def hyphen : Nat := 0x2d

namespace Label

def checkPlace (label : Label) (place : LabelPlace) : Except LabelFault Unit :=
  let position := place.before.length + 1
  if validInLabel place.code then .ok ()
  else if place.isJoiner then
    if place.joinerFits then .ok () else .error (.joiner label place.code position)
  else
    match place.signFits? with
    | some true => .ok ()
    | some false => .error (.misplacedSign label place.code position)
    | none => .error (.character label place.code position)

def checkPlacesFrom (label : Label) : Label → Label → Except LabelFault Unit
  | _, [] => .ok ()
  | before, code :: after => do
    label.checkPlace ⟨before, code, after⟩
    checkPlacesFrom label (code :: before) after

/-- Whether a label may be part of a name. Two hyphens are kept for the marks of encoded labels. -/
def check (label : Label) : Except LabelFault Unit := do
  if label.isEmpty then throw .empty
  if label.length > longestHost + 1 then throw .tooLong
  if !Text.isComposed label then throw .notComposed
  if (label.drop 2).take 2 == [hyphen, hyphen] then throw .innerHyphens
  if label.head? == some hyphen || label.getLast? == some hyphen then throw .outerHyphen
  if (label.head?.map Text.isMark).getD false then throw .leadingMark
  label.checkPlacesFrom [] label
  (checkDirections label).mapError .direction

end Label

def encodedMark : List Char := "xn--".toList

/-- Whether an encoded label is written as it would be written anew. -/
def isCanonical (encoded : List Char) (label : Label) : Bool :=
  !label.all Nat.isValidChar || Punycode.encode (label.map Char.ofNat) == encoded

/-- The label that an ASCII text stands for. -/
def decodeLabel (text : List Char) : Except LabelFault Label := do
  let small := text.map Char.toLower
  if encodedMark.isPrefixOf small then
    let encoded := small.drop encodedMark.length
    if encoded.isEmpty then throw .nothingEncoded
    if encoded.getLast? = some '-' then throw .finalHyphen
    match Punycode.decode encoded with
    | none => throw .undecodable
    | some label =>
      Label.check label
      if isCanonical encoded label then return label else throw .undecodable
  else
    let label := small.map Char.toNat
    Label.check label
    return label

/-- What stands for a label in ASCII, however long it is. -/
def asciiForm (label : List Char) : Except LabelFault (List Char) :=
  if label.all Punycode.isBasic then (decodeLabel label).map fun _ => label
  else
    (Label.check (label.map Char.toNat)).map fun _ => encodedMark ++ Punycode.encode label

def encodeLabel (label : List Char) : Except LabelFault (List Char) :=
  match asciiForm label with
  | .error fault => .error fault
  | .ok encoded => if longestLabel < encoded.length then .error .tooLong else .ok encoded

theorem encodeLabel_eq_ok_iff {label encoded : List Char} :
    encodeLabel label = .ok encoded ↔
      asciiForm label = .ok encoded ∧ encoded.length ≤ longestLabel := by
  unfold encodeLabel
  cases asciiForm label with
  | error fault => simp
  | ok form =>
    simp only [Except.ok.injEq]
    constructor
    · intro done
      split at done
      · cases done
      · cases done
        exact ⟨rfl, by omega⟩
    · rintro ⟨rfl, short⟩
      rw [if_neg (by omega)]

/-- An ASCII label that is encoded is left as it is. -/
theorem encodeLabel_of_basic {label encoded : List Char} (basic : label.all Punycode.isBasic = true)
    (done : encodeLabel label = .ok encoded) : encoded = label := by
  have form := (encodeLabel_eq_ok_iff.1 done).1
  simp only [asciiForm, basic, if_true] at form
  cases read : decodeLabel label with
  | error fault => simp [read, Except.map] at form
  | ok own =>
    simp only [read, Except.map, Except.ok.injEq] at form
    exact form.symm

end Bookbinder.Web
