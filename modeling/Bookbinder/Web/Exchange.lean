import Bookbinder.Compression.Content
import Bookbinder.Web.Fault
import Bookbinder.Web.Reference

/-!
Asking for what lies at an address. Answers that point to other addresses are followed, so many times.
Main statements: at most one request more is made than answers are followed, and the first one is for
the address that was given.
-/

set_option autoImplicit false

namespace Bookbinder.Web

open Bookbinder.Text (Bytes)

structure Response where
  status : Int
  headers : List (String × String)
  body : Bytes
  deriving Repr

inductive Reply where
  | response (response : Response)
  | unreachable (message : String)
  deriving Repr

/-- What is answered at each address. -/
abbrev Network := String → Reply

/-- Why an exchange ends without content. -/
inductive Trouble where
  | problem (problem : Problem)
  | fault (fault : Fault)
  deriving DecidableEq, Repr

def toLower (text : String) : String := String.ofList (text.toList.map Char.toLower)

namespace Response

/-- The values of a header. Its name is written in letters of either kind. -/
def values (response : Response) (name : String) : List String :=
  (response.headers.filter fun header => toLower header.1 == name).map Prod.snd

/-- Several values of a header are taken as one. -/
def header? (response : Response) (name : String) : Option String :=
  match response.values name with
  | [] => none
  | values => some (Text.join ", " values)

/-- The codings of the content, in the order in which they were applied. Unknown ones are passed over. -/
def codings (response : Response) : List Compression.Coding :=
  let names := (response.values "content-encoding").flatMap fun value =>
    (Text.splitOn ',' value.toList).map Text.trimBlanks
  names.filterMap fun name => Compression.Coding.ofName? (toLower (String.ofList name))

def redirectStatuses : List Int := [301, 302, 303, 307, 308]

/-- Where an answer points to, if it is one that points somewhere. -/
def location? (response : Response) : Option String :=
  if redirectStatuses.contains response.status then response.header? "location" else none

def isSuccess (response : Response) : Bool := 200 ≤ response.status && response.status < 300

end Response

/-- The first characters of a text that are not ASCII. -/
def firstForeign (text : String) : Option Foreign :=
  let plain (c : Char) : Bool := c.toNat < 0x80
  match text.toList.dropWhile plain with
  | [] => none
  | rest => some ⟨rest.takeWhile (!plain ·), (text.toList.takeWhile plain).length⟩

/-- An answer with its content decoded. -/
def receive (reply : Reply) : Except Trouble Response :=
  match reply with
  | .unreachable message => .error (.problem (.unreachable message))
  | .response response =>
    match response.headers.findSome? fun header =>
        (firstForeign header.1).or (firstForeign header.2) with
    | some foreign => .error (.fault (.foreignHeader foreign))
    | none =>
      match Compression.Coding.decodeAll response.codings response.body with
      | .error damage => .error (.problem (.damaged damage))
      | .ok content => .ok { response with body := content }

/-- An address says how to get there if a scheme stands before its first slash. -/
def saysKind (address : String) : Bool :=
  match Text.cutAt ':' address.toList with
  | (kind, some _) => !kind.isEmpty && !kind.contains '/'
  | (_, none) => false

def liftAddress {α : Type} (result : Except AddressFault α) : Except Trouble α :=
  result.mapError fun fault => .fault (.address fault)

/-- An address with the fragment that was asked for, unless it has one of its own. -/
def keepFragment (asked address : Address) : Except Trouble Address :=
  let fragment := asked.fragment.getD ""
  if fragment = "" ∨ address.fragment.getD "" ≠ "" then .ok address
  else
    let kept := unescape fragment
    match firstUnprintable kept.toList with
    | some (c, position) => .error (.fault (.address (.unprintableFragment c position)))
    | none => liftAddress (Address.ofParts { address.parts with fragment := some kept })

/-- The name of the host. Nothing is asked of a host whose name cannot be read. -/
def hostName (address : Address) : Except Trouble String :=
  address.hostName.mapError fun fault => .fault (.hostName fault)

/-- An address with a scheme but no host is at the host that was asked. -/
def keepHost (asked address : Address) : Except Trouble Address :=
  if address.scheme = "" then .ok address
  else do
    let name ← hostName address
    if name = "" then
      let same ← hostName asked
      liftAddress (Address.ofParts { address.parts with host := Address.bracketed same })
    else return address

/-- An address that leads nowhere by itself is read from the one that was asked. -/
def makeAbsolute (asked address : Address) : Except Trouble Address :=
  if address.isAbsolute then .ok address
  else liftAddress (Address.parse (referTo asked.text address.text))

/-- The address that is meant by one that is found in an answer. -/
def resolve (asked address : Address) : Except Trouble Address := do
  let address ← keepHost asked address
  let address ← makeAbsolute asked address
  let address ← keepFragment asked address
  let _ ← hostName address
  return address

/-- The address that an answer points to. -/
def redirect (asked : Address) (location : String) : Except Trouble Address :=
  match Address.parse location with
  | .error fault => .error (.problem (.badLocation fault))
  | .ok address => resolve asked address

/-- What was asked for, in order, and what came of it. -/
structure Exchange where
  requests : List String
  result : Except Trouble Bytes
  deriving Repr

/-- What an answer comes to: its content, or the address that it points to. -/
def conclude (asked : Address) (reply : Reply) : Except Trouble (Bytes ⊕ Address) := do
  let response ← receive reply
  if !saysKind asked.text then throw (.fault (.unknownKind asked.text))
  match response.location? with
  | some location => return .inr (← redirect asked location)
  | none =>
    if response.isSuccess then return .inl response.body
    else throw (.problem (.status response.status))

/-- Asks at an address, and at those that answers point to, as long as the budget lasts. -/
def follow (network : Network) : Nat → Address → Exchange
  | 0, _ => ⟨[], .error (.problem .tooManyRedirects)⟩
  | budget + 1, address =>
    match conclude address (network address.text) with
    | .error trouble => ⟨[address.text], .error trouble⟩
    | .ok (.inl content) => ⟨[address.text], .ok content⟩
    | .ok (.inr next) =>
      let later := follow network budget next
      ⟨address.text :: later.requests, later.result⟩

/-- How many answers are followed. -/
def mostRedirects : Nat := 20

/-- Asks for what lies at an address. Of an address without a host, only the path is asked for. -/
def fetch (network : Network) (url : String) : Exchange :=
  match Address.parse url with
  | .error fault => ⟨[], .error (.fault (.address fault))⟩
  | .ok address =>
    let asked := if address.isAbsolute then address else address.rooted
    match hostName asked with
    | .error trouble => ⟨[], .error trouble⟩
    | .ok _ => follow network (mostRedirects + 1) asked

theorem length_requests_follow (network : Network) (budget : Nat) (address : Address) :
    (follow network budget address).requests.length ≤ budget := by
  induction budget generalizing address with
  | zero => simp [follow]
  | succ budget ih =>
    simp only [follow]
    split
    · simp
    · simp
    · next next _ =>
      have := ih next
      simp
      omega

theorem length_requests_fetch (network : Network) (url : String) :
    (fetch network url).requests.length ≤ mostRedirects + 1 := by
  simp only [fetch]
  split
  · simp
  · split
    · simp
    · exact length_requests_follow _ _ _

theorem head_requests_follow (network : Network) (budget : Nat) (address : Address) :
    (follow network (budget + 1) address).requests.head? = some address.text := by
  simp only [follow]
  split <;> rfl

end Bookbinder.Web
