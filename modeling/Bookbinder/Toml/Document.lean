import Bookbinder.Toml.Reader

/-!
A whole configuration text: statements, one a line, that build up a table. A key that names a table
may not be given a second meaning; the marks say which keys are taken.
-/

set_option autoImplicit false

namespace Bookbinder.Toml

/-- What has been read of a document. -/
structure Document where
  table : Table := []
  /-- Keys of arrays and inline tables: nothing may be added under them. -/
  frozen : List Key := []
  /-- Keys of tables that a header may not open again. -/
  declared : List Key := []
  /-- Keys that are declared from the next header on. -/
  pending : List Key := []
  /-- The key that the entries of the current section stand under. -/
  header : Key := []

namespace Document

def isDeclared (document : Document) (key : Key) : Bool := document.declared.contains key

/-- The tables that a dotted key passes through. -/
def stems (header key : Key) : List Key :=
  (List.range (key.length - 1)).map fun count => header ++ key.take (count + 1)

/-- An entry of the current section. -/
def enter (document : Document) (key : Key) (value : Value) : Except Fault Document := do
  let passed := stems document.header key
  if let some stem := passed.find? document.isDeclared then throw (.namespaceRedefined stem)
  let parent := document.header ++ key.dropLast
  if isFrozen document.frozen parent then throw (.frozen parent)
  let table ← document.table.under true parent (addEntry (key.getLastD "") value .overwritten)
  return { document with
    table := table
    frozen := if value.isNested then (document.header ++ key) :: document.frozen
      else document.frozen
    pending := passed ++ document.pending }

/-- A header ends the section before it. -/
def endSection (document : Document) : Document :=
  { document with declared := document.pending ++ document.declared, pending := [] }

/-- Opens the table of a key. -/
def openTable (document : Document) (key : Key) : Except Fault Document := do
  if document.isDeclared key || isFrozen document.frozen key then throw (.declaredTwice key)
  let table ← document.table.under true key .ok
  return { document with table := table, declared := key :: document.declared, header := key }

/-- One more table at the end of the array that an entry names. -/
def appendTable (name : String) (table : Table) : Except Fault Table :=
  match table.get? name with
  | none => .ok (table ++ [(name, .array [.table []])])
  | some (.array items) => .ok (table.put name (.array (items ++ [.table []])))
  | some _ => .error .overwritten

/-- Opens a further table of an array of tables. What was marked under the one before is free. -/
def openTableArray (document : Document) (key : Key) : Except Fault Document := do
  if isFrozen document.frozen key then throw (.frozen key)
  let table ← document.table.under true key.dropLast (appendTable (key.getLastD ""))
  return { document with
    table := table
    frozen := document.frozen.filter fun other => !key.isPrefixOf other
    declared := key :: document.declared.filter fun other => !key.isPrefixOf other
    header := key }

end Document

/-- A header that starts after its first bracket. -/
def readHeader (document : Document) (text : List Char) : Except Stop (Document × List Char) :=
  match text with
  | '[' :: text => do
    let (key, rest) ← readKey (skipBlanks text)
    let document ← atPlace rest (document.openTableArray key)
    match rest with
    | ']' :: ']' :: rest => return (document, rest)
    | _ => stopAt .tableArrayUnclosed rest
  | _ => do
    let (key, rest) ← readKey (skipBlanks text)
    let document ← atPlace rest (document.openTable key)
    match rest with
    | ']' :: rest => return (document, rest)
    | _ => stopAt .tableUnclosed rest

/-- One statement that starts with the character `c`. -/
def readStatement (document : Document) (c : Char) (text : List Char) : Except Stop (Document × List Char) :=
  if isKeyStart c then do
    let ((key, value), rest) ← readPairWith (readValue (budgetOf text)) (c :: text)
    let document ← atPlace rest (document.enter key value)
    return (document, skipBlanks rest)
  else if c = '[' then do
    let (document, rest) ← readHeader document.endSection text
    return (document, skipBlanks rest)
  else if c = '#' then .ok (document, c :: text)
  else stopAt .invalidStatement (c :: text)

/-- Statements up to the end of the text. -/
def readStatements : Nat → Document → List Char → Except Stop Document
  | 0, _, text => stopAt .invalidStatement text
  | budget + 1, document, text =>
    match skipBlanks text with
    | [] => .ok document
    | '\n' :: rest => readStatements budget document rest
    | c :: rest => do
      let (document, rest) ← readStatement document c rest
      match ← skipComment rest with
      | [] => return document
      | '\n' :: rest => readStatements budget document rest
      | rest => stopAt .textAfterStatement rest

/-- The table that a text with line feeds as its line ends describes. -/
def parse (text : List Char) : Except Error Table :=
  match readStatements (text.length + 1) {} text with
  | .ok document => .ok document.table
  | .error stop => .error (stop.error text)

end Bookbinder.Toml
