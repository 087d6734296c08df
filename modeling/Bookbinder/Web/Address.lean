import Bookbinder.Text.Quoted
import Bookbinder.Web.HostName

/-!
Addresses on the web. An address is kept in one normal form: small letters in scheme and host, no port
that the scheme implies, no dots among the names of its path, and escapes for characters that are not
allowed. Main statement: a rooted path is no absolute address.
-/

set_option autoImplicit false

namespace Bookbinder.Web

/-- What can be wrong with the text of an address. -/
inductive AddressFault where
  | tooLong
  | unprintable (c : Char) (position : Nat)
  | unprintableFragment (c : Char) (position : Nat)
  | host (fault : HostFault) (host : String)
  | port (port : String)
  | pathWithoutSlash
  | pathWithTwoSlashes
  | pathWithColon
  deriving DecidableEq, Repr

def HostFault.message (fault : HostFault) (host : String) : String :=
  let kind := match fault with
    | .shortNumber => "IPv4 address"
    | .longNumber => "IPv6 address"
    | .name => "IDNA hostname"
  "Invalid " ++ kind ++ ": " ++ Text.quoted host

def unprintableMessage (place : String) (c : Char) (position : Nat) : String :=
  "Invalid non-printable ASCII character in " ++ place ++ ", " ++
    Text.quoted (String.singleton c) ++ " at position " ++ Text.digits 10 position ++ "."

def AddressFault.message : AddressFault → String
  | .tooLong => "URL too long"
  | .unprintable c position => unprintableMessage "URL" c position
  | .unprintableFragment c position => unprintableMessage "URL fragment component" c position
  | .host fault name => fault.message name
  | .port text => "Invalid port: " ++ Text.quoted text
  | .pathWithoutSlash => "For absolute URLs, path must be empty or begin with '/'"
  | .pathWithTwoSlashes => "Relative URLs cannot have a path starting with '//'"
  | .pathWithColon => "Relative URLs cannot have a path starting with ':'"

structure Address where
  scheme : String
  userinfo : String
  host : String
  port : Option Int
  path : String
  query : Option String
  fragment : Option String
  deriving DecidableEq, Repr

/-- The parts of an address as they are written. -/
structure Parts where
  scheme : String
  userinfo : String
  host : String
  port : String
  path : String
  query : Option String
  fragment : Option String
  deriving DecidableEq, Repr

/-- The greatest length of the text of an address. -/
def longestAddress : Nat := 65536

def isUnprintable (c : Char) : Bool := c.toNat < 0x20 || c.toNat == 0x7f

/-- The first character that is ASCII and does not show, and where it stands. -/
def firstUnprintable (text : List Char) : Option (Char × Nat) :=
  (text.find? isUnprintable).map fun c => (c, (text.takeWhile (!isUnprintable ·)).length)

def isSchemeChar (c : Char) : Bool := c.isAlphanum || c == '+' || c == '.' || c == '-'

/-- The scheme before a colon, which may be empty, and what comes after it. -/
def splitScheme (text : List Char) : List Char × List Char :=
  let scheme := if (text.headD ' ').isAlpha then text.takeWhile isSchemeChar else []
  match text.drop scheme.length with
  | ':' :: rest => (scheme, rest)
  | _ => ([], text)

def endsAuthority (c : Char) : Bool := c == '/' || c == '?' || c == '#'

/-- What follows two slashes, up to the path. -/
def splitAuthority (text : List Char) : List Char × List Char :=
  match text with
  | '/' :: '/' :: rest =>
    (rest.takeWhile (!endsAuthority ·), rest.dropWhile (!endsAuthority ·))
  | _ => ([], text)

/-- The text up to the last place of a character, if there is one, and the text after it. -/
def cutAtLast (separator : Char) (text : List Char) : Option (List Char) × List Char :=
  match Text.cutAt separator text.reverse with
  | (after, some before) => (some before.reverse, after.reverse)
  | (_, none) => (none, text)

/-- A host between brackets ends at the last one, any other at a colon. -/
def splitHost (text : List Char) : List Char × List Char :=
  match text, cutAtLast ']' text with
  | '[' :: _, (some inner, rest) => (inner ++ [']'], rest)
  | _, _ => (text.takeWhile (· != ':'), text.dropWhile (· != ':'))

def withoutColon : List Char → List Char
  | ':' :: rest => rest
  | text => text

/-- The parts that a text is made of. Every text has them. -/
def Parts.ofText (text : List Char) : Parts :=
  let (scheme, rest) := splitScheme text
  let (authority, rest) := splitAuthority rest
  let (userinfo, place) := cutAtLast '@' authority
  let (host, port) := splitHost place
  let (rest, fragment) := Text.cutAt '#' rest
  let (path, query) := Text.cutAt '?' rest
  { scheme := String.ofList scheme
    userinfo := String.ofList (userinfo.getD [])
    host := String.ofList host
    port := String.ofList (withoutColon port)
    path := String.ofList path
    query := query.map String.ofList
    fragment := fragment.map String.ofList }

/-- The port that a scheme implies. -/
def impliedPort (scheme : String) : Option Int :=
  match scheme with
  | "ftp" => some 21
  | "http" | "ws" => some 80
  | "https" | "wss" => some 443
  | _ => none

def readPort (port scheme : String) : Except AddressFault (Option Int) :=
  if port = "" then .ok none
  else
    match (Text.readInteger 10 port.toList).toOption with
    | none => .error (.port port)
    | some number => .ok (if some number = impliedPort scheme then none else some number)

/-- One more name of a path, after names of which the last one comes first. -/
def addName (names : List (List Char)) (name : List Char) : List (List Char) :=
  if name = ['.'] then names
  else if name = ['.', '.'] then if names = [[]] then names else names.drop 1
  else name :: names

/-- A path without dots among its names. -/
def withoutDots (path : String) : String :=
  String.ofList (Text.joinWith ['/'] ((Text.splitOn '/' path.toList).foldl addName []).reverse)

/-- What a path may be depends on what comes before it. -/
def checkPath (path : List Char) (hasScheme hasAuthority : Bool) : Except AddressFault Unit :=
  if hasAuthority && !path.isEmpty && path.head? != some '/' then .error .pathWithoutSlash
  else if hasScheme || hasAuthority then .ok ()
  else
    match path with
    | '/' :: '/' :: _ => .error .pathWithTwoSlashes
    | ':' :: _ => .error .pathWithColon
    | _ => .ok ()

/-- The address that some parts make up. -/
def Address.ofParts (parts : Parts) : Except AddressFault Address := do
  let host ← (encodeHost parts.host).mapError fun fault => .host fault parts.host
  let port ← readPort parts.port parts.scheme
  let userinfo := escape allowedInUserinfo parts.userinfo
  let hasScheme := parts.scheme != ""
  let hasAuthority := userinfo != "" || host != "" || port.isSome
  checkPath parts.path.toList hasScheme hasAuthority
  let path := if hasScheme || hasAuthority then withoutDots parts.path else parts.path
  return {
    scheme := String.ofList (parts.scheme.toList.map Char.toLower)
    userinfo := userinfo
    host := host
    port := port
    path := escape allowedInPath path
    query := parts.query.map (escape allowedInQuery)
    fragment := parts.fragment.map (escape allowedInFragment) }

/-- Reads the text of an address. -/
def Address.parse (text : String) : Except AddressFault Address :=
  if text.length > longestAddress then .error .tooLong
  else
    match firstUnprintable text.toList with
    | some (c, position) => .error (.unprintable c position)
    | none => Address.ofParts (Parts.ofText text.toList)

namespace Address

/-- A host as it is written in an address: numbers with colons stand between brackets. -/
def bracketed (host : String) : String :=
  if host.toList.contains ':' then "[" ++ host ++ "]" else host

def hostText (address : Address) : String := bracketed address.host

/-- The host in its own characters. -/
def hostName (address : Address) : Except NameFault String := decodeHost address.host

def portText (address : Address) : String := (address.port.map Text.ofInt).getD ""

def authority (address : Address) : String :=
  (if address.userinfo = "" then "" else address.userinfo ++ "@") ++ address.hostText ++
    (if address.port.isSome then ":" ++ address.portText else "")

def text (address : Address) : String :=
  (if address.scheme = "" then "" else address.scheme ++ ":") ++
    (if address.authority = "" then "" else "//" ++ address.authority) ++ address.path ++
    ((address.query.map fun query => "?" ++ query).getD "") ++
    ((address.fragment.map fun fragment => "#" ++ fragment).getD "")

/-- An address that leads somewhere by itself. -/
def isAbsolute (address : Address) : Bool := address.scheme != "" && address.host != ""

/-- The parts of an address as its text has them. -/
def parts (address : Address) : Parts where
  scheme := address.scheme
  userinfo := address.userinfo
  host := address.hostText
  port := address.portText
  path := address.path
  query := address.query
  fragment := address.fragment

/-- The path that is asked for where no host is known: one slash before it, and no fragment. -/
def rooted (address : Address) : Address where
  scheme := ""
  userinfo := ""
  host := ""
  port := none
  path := "/" ++ String.ofList (address.path.toList.dropWhile (· = '/'))
  query := address.query
  fragment := none

theorem isAbsolute_rooted (address : Address) : address.rooted.isAbsolute = false := rfl

end Address

end Bookbinder.Web
