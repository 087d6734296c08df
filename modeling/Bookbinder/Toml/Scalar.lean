import Bookbinder.Pairs
import Bookbinder.Text.Number
import Bookbinder.Toml.Fault

/-!
Values of a configuration text, with tables as rows of named values in the order of their first appearance;
and numbers, dates and times at the start of a text.
-/

set_option autoImplicit false

/-! ### Values -/

namespace Bookbinder.Toml

/-- Floating point numbers and moments are kept as they are written. -/
inductive Value where
  | text (value : String)
  | integer (value : Int)
  | float (written : String)
  | boolean (value : Bool)
  | moment (written : String)
  | array (items : List Value)
  | table (entries : List (String × Value))
  deriving Repr

abbrev Table := List (String × Value)

def Table.get? (table : Table) (name : String) : Option Value := Pairs.get? table name

def Table.put (table : Table) (name : String) (value : Value) : Table :=
  Pairs.put table name value

theorem Table.get?_put (table : Table) (name other : String) (value : Value) :
    (table.put name value).get? other = if name = other then some value else table.get? other :=
  Pairs.get?_put table name other value

/-- Works on the table that a dotted key leads to, making the tables on the way. A step into an
array of tables goes to its last one, if `intoArrays` allows it. -/
def Table.under (intoArrays : Bool) : Key → (Table → Except Fault Table) → Table →
    Except Fault Table
  | [], change, table => change table
  | name :: rest, change, table => do
    match table.get? name with
    | none => return table.put name (.table (← Table.under intoArrays rest change []))
    | some (.table inner) =>
      return table.put name (.table (← Table.under intoArrays rest change inner))
    | some (.array items) =>
      match intoArrays, items.getLast? with
      | true, some (.table inner) =>
        let changed ← Table.under intoArrays rest change inner
        return table.put name (.array (items.dropLast ++ [.table changed]))
      | _, _ => throw .overwritten
    | some _ => throw .overwritten

end Bookbinder.Toml

/-! ### Numbers, dates and times -/

namespace Bookbinder.Toml

def isDigit (c : Char) : Bool := '0' ≤ c && c ≤ '9'

def isHexDigit (c : Char) : Bool := (Text.hexValue? c).isSome

/-- The digits that go on after a first one; single underscores may stand between digits. -/
def moreDigits (digit : Char → Bool) : List Char → List Char × List Char
  | '_' :: c :: rest =>
    if digit c then
      let (more, rest) := moreDigits digit rest
      (c :: more, rest)
    else ([], '_' :: c :: rest)
  | c :: rest =>
    if digit c then
      let (more, rest) := moreDigits digit rest
      (c :: more, rest)
    else ([], c :: rest)
  | [] => ([], [])

def digitRow (digit : Char → Bool) : List Char → Option (List Char × List Char)
  | c :: rest =>
    if digit c then
      let (more, rest) := moreDigits digit rest
      some (c :: more, rest)
    else none
  | [] => none

def valueOf (base : Nat) (digits : List Char) : Nat :=
  digits.foldl (fun value c => value * base + (Text.hexValue? c).getD 0) 0

/-- A hexadecimal, binary or octal number after its leading zero. -/
def basedInteger : List Char → Option (Nat × List Char)
  | 'x' :: rest => (digitRow isHexDigit rest).map fun (digits, rest) => (valueOf 16 digits, rest)
  | 'b' :: rest =>
    (digitRow (fun c => c == '0' || c == '1') rest).map fun (digits, rest) =>
      (valueOf 2 digits, rest)
  | 'o' :: rest =>
    (digitRow (fun c => '0' ≤ c && c ≤ '7') rest).map fun (digits, rest) => (valueOf 8 digits, rest)
  | _ => none

def readSign : List Char → Option Char × List Char
  | '+' :: rest => (some '+', rest)
  | '-' :: rest => (some '-', rest)
  | text => (none, text)

/-- A lone zero, or digits that do not start with a zero. -/
def wholeDigits : List Char → Option (List Char × List Char)
  | '0' :: rest => some (['0'], rest)
  | text => digitRow isDigit text

def fractionRest : List Char → List Char
  | '.' :: rest => ((digitRow isDigit rest).map (·.2)).getD ('.' :: rest)
  | text => text

def exponentRest (text : List Char) : List Char :=
  match text with
  | c :: rest =>
    if c = 'e' ∨ c = 'E' then ((digitRow isDigit (readSign rest).2).map (·.2)).getD text else text
  | [] => []

/-- The part of `text` that stands before `rest`. -/
def writtenBefore (text rest : List Char) : String :=
  String.ofList (text.take (text.length - rest.length))

/-- Decimal integers have at most this many digits. -/
def longestInteger : Nat := 4300

def readDecimal (text : List Char) : Option (Except Fault Value × List Char) := do
  let (sign, unsigned) := readSign text
  let (digits, rest) ← wholeDigits unsigned
  let after := exponentRest (fractionRest rest)
  if after.length < rest.length then
    return (.ok (.float (writtenBefore text after)), after)
  else if digits.length > longestInteger then
    return (.error (.longNumber digits.length), rest)
  else
    let value : Int := valueOf 10 digits
    return (.ok (.integer (if sign = some '-' then -value else value)), rest)

def readNumber (text : List Char) : Option (Except Fault Value × List Char) :=
  match text with
  | '0' :: rest =>
    match basedInteger rest with
    | some (value, rest) => some (.ok (.integer value), rest)
    | none => readDecimal text
  | _ => readDecimal text

/-- Two digits whose value lies between two bounds. -/
def readPair (least greatest : Nat) : List Char → Option (Nat × List Char)
  | a :: b :: rest =>
    let value := valueOf 10 [a, b]
    if isDigit a && isDigit b && least ≤ value && value ≤ greatest then some (value, rest) else none
  | _ => none

def readMark (mark : Char) : List Char → Option (List Char)
  | c :: rest => if c = mark then some rest else none
  | [] => none

def afterFraction : List Char → List Char
  | '.' :: c :: rest => if isDigit c then rest.dropWhile isDigit else '.' :: c :: rest
  | text => text

/-- What follows a time of day. -/
def afterTime (text : List Char) : Option (List Char) := do
  let (_, rest) ← readPair 0 23 text
  let (_, rest) ← readPair 0 59 (← readMark ':' rest)
  let (_, rest) ← readPair 0 59 (← readMark ':' rest)
  return afterFraction rest

/-- What follows the hours and minutes of an offset. -/
def afterShift (text : List Char) : Option (List Char) := do
  let (_, rest) ← readPair 0 23 text
  let (_, rest) ← readPair 0 59 (← readMark ':' rest)
  return rest

def afterOffset (text : List Char) : List Char :=
  match text with
  | c :: rest =>
    if c = 'Z' ∨ c = 'z' then rest
    else if c = '+' ∨ c = '-' then (afterShift rest).getD text
    else text
  | [] => []

def isLeapYear (year : Nat) : Bool :=
  year % 4 == 0 && (year % 100 != 0 || year % 400 == 0)

def daysInMonth (year month : Nat) : Nat :=
  if month = 2 then (if isLeapYear year then 29 else 28)
  else if month = 4 ∨ month = 6 ∨ month = 9 ∨ month = 11 then 30
  else 31

/-- The calendar starts with the year one. -/
def isDate (year month day : Nat) : Bool := 1 ≤ year && day ≤ daysInMonth year month

def readYear : List Char → Option (Nat × List Char)
  | a :: b :: c :: d :: rest =>
    if [a, b, c, d].all isDigit then some (valueOf 10 [a, b, c, d], rest) else none
  | _ => none

/-- What follows a date with the time of day and offset behind it, if they are complete. -/
def afterDay (text : List Char) : List Char :=
  match text with
  | c :: rest =>
    if c = 'T' ∨ c = 't' ∨ c = ' ' then ((afterTime rest).map afterOffset).getD text else text
  | [] => []

/-- A date, and the time of day and offset that follow it if they are complete. -/
def readDate (text : List Char) : Option (Except Fault Value × List Char) := do
  let (year, rest) ← readYear text
  let (month, rest) ← readPair 1 12 (← readMark '-' rest)
  let (day, rest) ← readPair 1 31 (← readMark '-' rest)
  let after := afterDay rest
  if isDate year month day then return (.ok (.moment (writtenBefore text after)), after)
  else return (.error .invalidDate, after)

def readTime (text : List Char) : Option (Except Fault Value × List Char) :=
  (afterTime text).map fun rest => (.ok (.moment (writtenBefore text rest)), rest)

/-- Infinity and the number that is none, with or without a sign. -/
def readSpecial (text : List Char) : Option (Except Fault Value × List Char) :=
  let (_, rest) := readSign text
  if "inf".toList.isPrefixOf rest || "nan".toList.isPrefixOf rest then
    some (.ok (.float (writtenBefore text (rest.drop 3))), rest.drop 3)
  else none

/-- A moment is tried first: it starts like a number. -/
def readScalar (text : List Char) : Option (Except Fault Value × List Char) :=
  (readDate text).or <| (readTime text).or <| (readNumber text).or <| readSpecial text

end Bookbinder.Toml
