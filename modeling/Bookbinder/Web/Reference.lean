import Bookbinder.Web.Address

/-!
Addresses that are given in relation to another one. What a reference leaves out is taken from its base,
and names in its path are counted from the directory of the base's path.
-/

set_option autoImplicit false

namespace Bookbinder.Web

/-- An address cut at its punctuation. The last name of a path may have parameters. -/
structure Pieces where
  scheme : List Char
  authority : List Char
  path : List Char
  parameters : List Char
  query : List Char
  fragment : List Char
  deriving DecidableEq, Repr

/-- Schemes whose addresses can be given in relation to others. -/
def relativeSchemes : List String :=
  ["", "ftp", "http", "gopher", "nntp", "imap", "wais", "file", "https", "shttp", "mms", "prospero",
    "rtsp", "rtspu", "sftp", "svn", "svn+ssh", "ws", "wss"]

/-- Schemes whose last names may have parameters. -/
def parameterSchemes : List String :=
  ["", "ftp", "hdl", "prospero", "http", "imap", "https", "shttp", "rtsp", "rtspu", "sip", "sips",
    "mms", "sftp", "tel"]

/-- A path and the parameters of its last name. -/
def splitParameters (path : List Char) : List Char × List Char :=
  let (directory, name) := match cutAtLast '/' path with
    | (some before, name) => (before ++ ['/'], name)
    | (none, name) => ([], name)
  match Text.cutAt ';' name with
  | (before, some parameters) => (directory ++ before, parameters)
  | (_, none) => (path, [])

/-- The pieces of a text. Without a scheme of its own it has the given one. -/
def Pieces.ofText (scheme text : List Char) : Pieces :=
  let (own, rest) := splitScheme text
  let scheme := if own.isEmpty then scheme else own.map Char.toLower
  let rest := if own.isEmpty then text else rest
  let (authority, rest) := splitAuthority rest
  let (rest, fragment) := Text.cutAt '#' rest
  let (path, query) := Text.cutAt '?' rest
  let (path, parameters) :=
    if parameterSchemes.contains (String.ofList scheme) then splitParameters path else (path, [])
  ⟨scheme, authority, path, parameters, query.getD [], fragment.getD []⟩

/-- A mark and what follows it, unless that is empty. -/
def marked (mark : Char) (text : List Char) : List Char :=
  if text.isEmpty then [] else mark :: text

/-- The text of pieces with an authority. -/
def Pieces.text (pieces : Pieces) : List Char :=
  let path := pieces.path ++ marked ';' pieces.parameters
  let path := if path.isEmpty || path.head? == some '/' then path else '/' :: path
  pieces.scheme ++ [':', '/', '/'] ++ pieces.authority ++ path ++ marked '?' pieces.query ++
    marked '#' pieces.fragment

/-- The names of a path that is not counted from the root: the directory of the base, and then its own.
Empty names in between are left out. -/
def namesFrom (base path : List Char) : List (List Char) :=
  let names := Text.splitOn '/' base
  let directory := if names.getLast? = some [] then names else names.dropLast
  let all := directory ++ Text.splitOn '/' path
  all.take 1 ++ (((all.drop 1).dropLast).filter (· != []) ++ (all.drop 1).drop (all.length - 2))

/-- One more name after names of which the last one comes first. -/
def resolveName (names : List (List Char)) (name : List Char) : List (List Char) :=
  if name = ['.', '.'] then names.drop 1 else if name = ['.'] then names else name :: names

/-- A path without dots. Dots at its end leave a slash there. -/
def resolveNames (names : List (List Char)) : List Char :=
  let resolved := (names.foldl resolveName []).reverse
  let dotted := names.getLast? = some ['.'] ∨ names.getLast? = some ['.', '.']
  let path := Text.joinWith ['/'] (if dotted then resolved ++ [[]] else resolved)
  if path.isEmpty then ['/'] else path

/-- The pieces of a reference seen from a base. -/
def Pieces.from (reference base : Pieces) : Pieces :=
  if !reference.authority.isEmpty then reference
  else if reference.path.isEmpty && reference.parameters.isEmpty then
    { reference with
      authority := base.authority
      path := base.path
      parameters := base.parameters
      query := if reference.query.isEmpty then base.query else reference.query }
  else
    let names := if reference.path.head? = some '/' then Text.splitOn '/' reference.path
      else namesFrom base.path reference.path
    { reference with authority := base.authority, path := resolveNames names }

/-- The text of a reference seen from an absolute address. One with a scheme of its own stays as it is. -/
def referTo (base reference : String) : String :=
  if reference = "" then base
  else
    let from_ := Pieces.ofText [] base.toList
    let pieces := Pieces.ofText from_.scheme reference.toList
    if pieces.scheme != from_.scheme || !relativeSchemes.contains (String.ofList from_.scheme) then
      reference
    else String.ofList (pieces.from from_).text

end Bookbinder.Web
