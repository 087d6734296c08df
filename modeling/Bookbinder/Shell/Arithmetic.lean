import Bookbinder.Pairs
import Bookbinder.Shell.Number

/-!
Expressions with whole numbers of 64 bits. Parameters are read where they are needed, and assignments take
effect at once.
-/

set_option autoImplicit false

namespace Bookbinder.Shell.Arithmetic

/-- Numbers are kept in 64 bits, of which the highest is the sign. -/
def wrap (value : Int) : Int := value.bmod Number.width

inductive Lexeme where
  | number (value : Int)
  | name (text : Chars)
  | symbol (text : String)
  /-- Something that belongs to no expression. -/
  | bad
  deriving DecidableEq, Repr

/-- Symbols, longer ones before those that they begin with. -/
def symbols : List String :=
  ["<<=", ">>=", "<<", ">>", "<=", ">=", "==", "!=", "&&", "||", "*=", "/=", "%=", "+=", "-=", "&=",
    "^=", "|=", "<", ">", "=", "!", "~", "*", "/", "%", "+", "-", "&", "^", "|", "?", ":", "(", ")"]

def separates (c : Char) : Bool := isBlank c || c == '\n'

def lexemes : Nat → Chars → List Lexeme
  | 0, _ => []
  | _ + 1, [] => []
  | fuel + 1, c :: rest =>
    let text := c :: rest
    if separates c then lexemes fuel rest
    else if isNameStart c then
      let name := text.takeWhile isNameCharacter
      .name name :: lexemes fuel (text.drop name.length)
    else if let some (value, after) := Number.readMarked text then
      .number (Number.clamp value) :: lexemes fuel after
    else
      match symbols.find? fun symbol => symbol.toList.isPrefixOf text with
      | some symbol => .symbol symbol :: lexemes fuel (text.drop symbol.length)
      | none => .bad :: lexemes fuel rest

/-- Why an expression has no value. -/
inductive Fault where
  /-- It is malformed or cannot be worked out. -/
  | expression (reason : String)
  /-- The value of a parameter is no number. -/
  | illegalNumber (text : Chars)
  deriving DecidableEq, Repr

/-- What is left of an expression, and the parameters. -/
structure Progress where
  rest : List Lexeme
  lookup : Chars → Chars
  assigned : List (Chars × Chars)

abbrev Working (α : Type) := StateT Progress (Except Fault) α

/-- The number that the value of a parameter is; nothing at all is zero. -/
def numberOf (text : Chars) : Except Fault Int :=
  if text.all Number.isSpace then .ok 0
  else
    match Number.whole? false text with
    | some value => .ok value
    | none => .error (.illegalNumber text)

def valueOf (name : Chars) : Working Int := do
  let progress ← get
  let text := (Pairs.get? progress.assigned name).getD (progress.lookup name)
  liftM (numberOf text)

def showNumber (value : Int) : Chars := (Text.ofInt value).toList

def assign (name : Chars) (value : Int) : Working Unit :=
  modify fun progress =>
    { progress with assigned := Pairs.put progress.assigned name (showNumber value) }

def fail {α : Type} (reason : String) : Working α := throw (.expression reason)

/-- The symbols that stand between two numbers, those that bind most tightly first. -/
def levels : List (List String) :=
  [["*", "/", "%"], ["+", "-"], ["<<", ">>"], ["<", "<=", ">", ">="], ["==", "!="], ["&"], ["^"],
    ["|"]]

def truth (condition : Bool) : Int := if condition then 1 else 0

/-- The bits of a number, the sign among them. -/
def bitsOf (value : Int) : Nat := (value % Number.width).toNat

/-- What a symbol between two numbers gives. -/
def combine (symbol : String) (first second : Int) : Working Int :=
  match symbol with
  | "*" => return wrap (first * second)
  | "/" => if second = 0 then fail "division by zero" else return wrap (first.tdiv second)
  | "%" => if second = 0 then fail "division by zero" else return wrap (first.tmod second)
  | "+" => return wrap (first + second)
  | "-" => return wrap (first - second)
  | "<<" => return wrap ((bitsOf first <<< (bitsOf second % 64) : Nat) : Int)
  | ">>" => return first >>> (bitsOf second % 64)
  | "<" => return truth (first < second)
  | "<=" => return truth (first ≤ second)
  | ">" => return truth (first > second)
  | ">=" => return truth (first ≥ second)
  | "==" => return truth (first = second)
  | "!=" => return truth (first ≠ second)
  | "&" => return wrap ((bitsOf first &&& bitsOf second : Nat) : Int)
  | "^" => return wrap ((bitsOf first ^^^ bitsOf second : Nat) : Int)
  | _ => return wrap ((bitsOf first ||| bitsOf second : Nat) : Int)

/-- The next lexeme if it is one of some symbols. -/
def accept (symbols : List String) : Working (Option String) := do
  let progress ← get
  match progress.rest with
  | .symbol symbol :: rest =>
    if symbols.contains symbol then
      set { progress with rest := rest }
      return some symbol
    else return none
  | _ => return none

mutual

/-- A value at the lowest level. What is not `wanted` is read, and nothing comes of it. -/
def primary : Nat → Bool → Working Int
  | 0, _ => fail "expecting primary"
  | fuel + 1, wanted => do
    let progress ← get
    match progress.rest with
    | .number value :: rest =>
      set { progress with rest := rest }
      return value
    | .name name :: rest =>
      set { progress with rest := rest }
      if wanted then valueOf name else return 0
    | .symbol symbol :: rest =>
      set { progress with rest := rest }
      match symbol with
      | "(" =>
        let value ← assignment fuel wanted
        if (← accept [")"]).isNone then fail "expecting ')'"
        return value
      | "+" => primary fuel wanted
      | "-" => return wrap (-(← primary fuel wanted))
      | "!" => return truth ((← primary fuel wanted) = 0)
      | "~" => return -(← primary fuel wanted) - 1
      | _ => fail "expecting primary"
    | _ => fail "expecting primary"

/-- Values with the symbols of some levels between them, the last level being the loosest. -/
def binary : Nat → List (List String) → Bool → Working Int
  | 0, _, _ => fail "expecting primary"
  | fuel + 1, [], wanted => primary fuel wanted
  | fuel + 1, level :: tighter, wanted => do
    let first ← binary fuel tighter wanted
    binaryAfter fuel level tighter wanted first

def binaryAfter : Nat → List String → List (List String) → Bool → Int → Working Int
  | 0, _, _, _, _ => fail "expecting primary"
  | fuel + 1, level, tighter, wanted, first => do
    match ← accept level with
    | none => return first
    | some symbol =>
      let second ← binary fuel tighter wanted
      let value ← if wanted then combine symbol first second else pure second
      binaryAfter fuel level tighter wanted value

def conjunction : Nat → Bool → Working Int
  | 0, _ => fail "expecting primary"
  | fuel + 1, wanted => do
    let first ← binary fuel levels.reverse wanted
    if (← accept ["&&"]).isNone then return first
    let second ← conjunction fuel (wanted && first ≠ 0)
    return truth (first ≠ 0 && second ≠ 0)

def disjunction : Nat → Bool → Working Int
  | 0, _ => fail "expecting primary"
  | fuel + 1, wanted => do
    let first ← conjunction fuel wanted
    if (← accept ["||"]).isNone then return first
    let second ← disjunction fuel (wanted && first = 0)
    return truth (first ≠ 0 || second ≠ 0)

def conditional : Nat → Bool → Working Int
  | 0, _ => fail "expecting primary"
  | fuel + 1, wanted => do
    let condition ← disjunction fuel wanted
    if (← accept ["?"]).isNone then return condition
    let yes ← assignment fuel (wanted && condition ≠ 0)
    if (← accept [":"]).isNone then fail "expecting ':'"
    let no ← conditional fuel (wanted && condition = 0)
    return if condition ≠ 0 then yes else no

def assignment : Nat → Bool → Working Int
  | 0, _ => fail "expecting primary"
  | fuel + 1, wanted => do
    let progress ← get
    match progress.rest with
    | .name name :: .symbol symbol :: rest =>
      let operator := String.ofList symbol.toList.dropLast
      if symbol = "=" ∨ (symbol.endsWith "=" ∧ levels.any fun level => level.contains operator) then
        if ["==", "<=", ">=", "!="].contains symbol then conditional fuel wanted
        else
          set { progress with rest := rest }
          let value ← assignment fuel wanted
          if !wanted then return value
          let value ← if symbol = "=" then pure value else combine operator (← valueOf name) value
          assign name value
          return value
      else conditional fuel wanted
    | _ => conditional fuel wanted

end

/-- The value of an expression, and the parameters that it sets. -/
def evaluate (lookup : Chars → Chars) (text : Chars) : Except Fault (Int × List (Chars × Chars)) := do
  let start : Progress := ⟨lexemes (text.length + 1) text, lookup, []⟩
  let (value, progress) ← (assignment (32 * text.length + 32) true).run start
  if progress.rest ≠ [] then throw (.expression "expecting EOF")
  return (value, progress.assigned)

example : (evaluate (fun _ => []) "x=1+2*3<<1,".toList).toOption = none := by decide +kernel

example : (evaluate (fun _ => ['5']) "y?(x+=2)*-3:1/0".toList).toOption.map Prod.fst = some (-21) := by
  decide +kernel

end Bookbinder.Shell.Arithmetic
