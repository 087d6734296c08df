import Bookbinder.Toml.Quote
import Bookbinder.Toml.Scalar

/-!
Keys and values of a configuration text. Every reader takes the text from where it stands and gives
back the rest; values nest, so their readers are given a budget of steps that the text's length
bounds.
-/

set_option autoImplicit false

namespace Bookbinder.Toml

def stopAt {α : Type} (fault : Fault) (rest : List Char) : Except Stop α := .error ⟨fault, rest⟩

/-- A fault of a change is one of the place where the reader stands. -/
def atPlace {α : Type} (rest : List Char) : Except Fault α → Except Stop α
  | .ok value => .ok value
  | .error fault => stopAt fault rest

def skipBlanks (text : List Char) : List Char := text.dropWhile isBlank

/-- Passes over a comment up to the end of its line. -/
def skipComment (text : List Char) : Except Stop (List Char) :=
  match text with
  | '#' :: rest =>
    let comment := rest.takeWhile (· != '\n')
    match comment.find? fun c => !isLegal false c with
    | none => .ok (rest.drop comment.length)
    | some c => stopAt (.invalidCharacter c) (rest.dropWhile (isLegal false))
  | _ => .ok text

/-- Passes over blanks, newlines and comments, as they may stand in an array. -/
def skipBetweenItems (inComment : Bool) : List Char → Except Stop (List Char)
  | [] => .ok []
  | c :: rest =>
    if inComment then
      if c = '\n' then skipBetweenItems false rest
      else if isLegal false c then skipBetweenItems true rest
      else stopAt (.invalidCharacter c) (c :: rest)
    else if isBlankOrNewline c then skipBetweenItems false rest
    else if c = '#' then skipBetweenItems true rest
    else .ok (c :: rest)

def isBareKeyChar (c : Char) : Bool :=
  'a' ≤ c && c ≤ 'z' || 'A' ≤ c && c ≤ 'Z' || isDigit c || c == '-' || c == '_'

def isKeyStart (c : Char) : Bool := isBareKeyChar c || c == '"' || c == '\''

def readKeyPart (text : List Char) : Except Stop (String × List Char) :=
  match text with
  | [] => stopAt .keyExpected []
  | c :: rest =>
    if isBareKeyChar c then
      let bare := text.takeWhile isBareKeyChar
      .ok (String.ofList bare, text.drop bare.length)
    else if c = '"' ∨ c = '\'' then
      (readOneLine c rest).map fun (inside, rest) => (String.ofList inside, rest)
    else stopAt .keyExpected text

/-- The parts of a key with dots between them; blanks may stand around each. -/
def readKeyFrom : Nat → List Char → Except Stop (Key × List Char)
  | 0, text => stopAt .keyExpected text
  | budget + 1, text => do
    let (part, rest) ← readKeyPart text
    match skipBlanks rest with
    | '.' :: rest =>
      let (parts, rest) ← readKeyFrom budget (skipBlanks rest)
      return (part :: parts, rest)
    | rest => return ([part], rest)

def readKey (text : List Char) : Except Stop (Key × List Char) := readKeyFrom (text.length + 1) text

/-- A key, an equals sign and a value. -/
def readPairWith (readValue : List Char → Except Stop (Value × List Char)) (text : List Char) :
    Except Stop ((Key × Value) × List Char) := do
  let (key, rest) ← readKey text
  match rest with
  | '=' :: rest =>
    let (value, rest) ← readValue (skipBlanks rest)
    return ((key, value), rest)
  | _ => stopAt .equalsExpected rest

def Value.isNested : Value → Bool
  | .array _ | .table _ => true
  | _ => false

/-- A key that is frozen freezes all that lies under it. -/
def isFrozen (frozen : List Key) (key : Key) : Bool := frozen.any fun stem => stem.isPrefixOf key

/-- A new entry of a table; `taken` is the fault if its name is there already. -/
def addEntry (name : String) (value : Value) (taken : Fault) (table : Table) : Except Fault Table :=
  if (table.get? name).isSome then .error taken else .ok (table ++ [(name, value)])

/-- Adds a dotted entry to an inline table. -/
def addInline (frozen : List Key) (key : Key) (value : Value) (table : Table) :
    Except Fault Table :=
  if isFrozen frozen key then .error (.frozen key)
  else
    let name := key.getLastD ""
    table.under false key.dropLast (addEntry name value (.duplicateInlineKey name))

def readScalarValue (text : List Char) : Except Stop (Value × List Char) :=
  match readScalar text with
  | some (.ok value, rest) => .ok (value, rest)
  | some (.error fault, _) => stopAt fault text
  | none => stopAt .invalidValue text

mutual

def readValue : Nat → List Char → Except Stop (Value × List Char)
  | 0, text => stopAt .invalidValue text
  | budget + 1, text =>
    match text with
    | [] => readScalarValue []
    | c :: rest =>
      if c = '"' ∨ c = '\'' then
        (readQuoted c rest).map fun (inside, rest) => (.text (String.ofList inside), rest)
      else if "true".toList.isPrefixOf text then .ok (.boolean true, text.drop 4)
      else if "false".toList.isPrefixOf text then .ok (.boolean false, text.drop 5)
      else if c = '[' then do
        let (items, rest) ← readItems budget (← skipBetweenItems false rest)
        return (.array items, rest)
      else if c = '{' then
        match skipBlanks rest with
        | '}' :: rest => .ok (.table [], rest)
        | rest => do
          let (table, rest) ← readEntries budget [] [] rest
          return (.table table, rest)
      else readScalarValue text

/-- The items of an array up to its end; a comma may follow the last one. -/
def readItems : Nat → List Char → Except Stop (List Value × List Char)
  | 0, text => stopAt .arrayUnclosed text
  | budget + 1, text =>
    match text with
    | ']' :: rest => .ok ([], rest)
    | text => do
      let (item, rest) ← readValue budget text
      match ← skipBetweenItems false rest with
      | ']' :: rest => return ([item], rest)
      | ',' :: rest =>
        let (items, rest) ← readItems budget (← skipBetweenItems false rest)
        return (item :: items, rest)
      | rest => stopAt .arrayUnclosed rest

/-- The entries of an inline table up to its end. -/
def readEntries : Nat → List Key → Table → List Char → Except Stop (Table × List Char)
  | 0, _, _, text => stopAt .inlineTableUnclosed text
  | budget + 1, frozen, table, text => do
    let ((key, value), rest) ← readPairWith (readValue budget) text
    let table ← atPlace rest (addInline frozen key value table)
    match skipBlanks rest with
    | '}' :: rest => return (table, rest)
    | ',' :: rest =>
      readEntries budget (if value.isNested then key :: frozen else frozen) table (skipBlanks rest)
    | rest => stopAt .inlineTableUnclosed rest

end

/-- Enough steps for a value that takes up the whole text. -/
def budgetOf (text : List Char) : Nat := 2 * text.length + 2

end Bookbinder.Toml
