import Bookbinder.Text.Case
import Bookbinder.Text.Integer
import Bookbinder.Text.Split
import Bookbinder.Web.Escape
import Bookbinder.Web.Label

/-!
Hosts: addresses in numbers of either length, plain names, and names with characters beyond ASCII, which
are written in ASCII label by label.
-/

set_option autoImplicit false

namespace Bookbinder.Web

/-- What can be wrong with a host. -/
inductive HostFault where
  | shortNumber
  | longNumber
  | name
  deriving DecidableEq, Repr

def isDecimal (c : Char) : Bool := '0' ≤ c && c ≤ '9'

/-- Whether a text is four groups of digits with dots between them. -/
def looksNumeric (text : List Char) : Bool :=
  let groups := Text.splitOn '.' text
  groups.length == 4 && groups.all fun group => !group.isEmpty && group.all isDecimal

/-- A number below 256, without zeros before it. -/
def isOctet (text : List Char) : Bool :=
  text.all isDecimal && text.length ≤ 3 && (text == ['0'] || text.head? != some '0') &&
    match Text.ofDigits? 10 text with
    | some value => !text.isEmpty && value < 256
    | none => false

/-- An address of four numbers. -/
def isShortNumber (text : List Char) : Bool :=
  let parts := Text.splitOn '.' text
  parts.length == 4 && parts.all isOctet

/-- A number of up to four hexadecimal digits. -/
def isGroup (text : List Char) : Bool :=
  text.length ≤ 4 && !text.isEmpty && text.all fun c => (Text.hexValue? c).isSome

/-- The groups of a long address. An address of four numbers at the end stands for two of them. -/
def groupsOf (text : List Char) : Option (List (List Char)) :=
  let parts := Text.splitOn ':' text
  match parts.getLast? with
  | some last =>
    if !last.contains '.' then some parts
    else if isShortNumber last then some (parts.dropLast ++ [['0'], ['0']])
    else none
  | none => none

/-- One side of a gap. It may be empty, and at the end of the address it is written so. -/
def isSide (groups : List (List Char)) : Bool := groups == [[]] || groups.all isGroup

/-- The groups before and after each empty one that is neither first nor last. -/
def gaps (groups : List (List Char)) : List (List (List Char) × List (List Char)) :=
  (List.range groups.length).filterMap fun index =>
    if index = 0 ∨ index + 1 = groups.length ∨ groups[index]? ≠ some [] then none
    else some (groups.take index, groups.drop (index + 1))

def groupCount : Nat := 8

/-- An address of eight groups; a gap stands for one at least. -/
def isLongNumber (text : List Char) : Bool :=
  match groupsOf text with
  | none => false
  | some groups =>
    groups.length ≥ 3 && groups.length ≤ groupCount + 1 &&
      match gaps groups with
      | [] => groups.length == groupCount && groups.all isGroup
      | [(before, after)] =>
        let count (side : List (List Char)) := (side.filter (· != [])).length
        isSide before && isSide after && count before + count after < groupCount
      | _ => false

/-- A long address may name a zone after a percent sign. -/
def isZonedNumber (text : List Char) : Bool :=
  match Text.cutAt '%' text with
  | (address, none) => isLongNumber address
  | (address, some zone) => !zone.isEmpty && !zone.contains '%' && isLongNumber address

/-- The dots between labels. -/
def labelDots : List Char := ['.', '\u3002', '\uff0e', '\uff61']

/-- What can be wrong with a name. -/
inductive NameFault where
  | empty
  | tooLong
  | label (fault : LabelFault)
  deriving DecidableEq, Repr

def NameFault.message : NameFault → String
  | .empty => "Empty domain"
  | .tooLong => "Domain too long"
  | .label fault => fault.message

/-- Turns a name over label by label. A dot at its end stays. -/
def mapLabels (turn : List Char → Except LabelFault (List Char)) (name : List Char) :
    Except NameFault (List Char) := do
  if name.length > longestHost + 1 then throw .tooLong
  if name.isEmpty then throw .empty
  let labels := Text.splitOn '.' (name.map fun c => if labelDots.contains c then '.' else c)
  let rooted := labels.getLast? == some []
  let named ← ((if rooted then labels.dropLast else labels).mapM turn).mapError .label
  return Text.joinWith ['.'] (if rooted then named ++ [[]] else named)

/-- A name in ASCII. -/
def encodeName (name : List Char) : Except NameFault (List Char) := do
  let text ← mapLabels encodeLabel name
  if text.length > longestHost + (if text.getLast? = some '.' then 1 else 0) then throw .tooLong
  return text

/-- A name in its own characters. -/
def decodeName (name : List Char) : Except NameFault (List Char) :=
  mapLabels (fun text => (decodeLabel text).map (·.map Char.ofNat)) name

/-- Whether a text stands between brackets, and what stands between them. -/
def bracketed? (text : List Char) : Option (List Char) :=
  match text with
  | '[' :: rest => if rest.getLast? = some ']' then some rest.dropLast else none
  | _ => none

/-- A host as it is kept: without brackets, in small letters, and in ASCII. -/
def encodeHost (host : String) : Except HostFault String :=
  let text := host.toList
  if text.isEmpty then .ok ""
  else if looksNumeric text then
    if isShortNumber text then .ok host else .error .shortNumber
  else
    match bracketed? text with
    | some inner => if isZonedNumber inner then .ok (String.ofList inner) else .error .longNumber
    | none =>
      if text.all Punycode.isBasic then
        .ok (escape allowedInHost (String.ofList (text.map Char.toLower)))
      else
        match encodeName (Text.toSmall text) with
        | .ok name => .ok (String.ofList name)
        | .error _ => .error .name

/-- The name of a host that is kept. It is read only if its first label is encoded. -/
def decodeHost (host : String) : Except NameFault String :=
  if encodedMark.isPrefixOf host.toList then (decodeName host.toList).map String.ofList else .ok host

theorem decodeHost_of_plain {host : String} (plain : encodedMark.isPrefixOf host.toList = false) :
    decodeHost host = .ok host := by
  simp [decodeHost, plain]

end Bookbinder.Web
