import Bookbinder.Process.Lookup
import Bookbinder.Shell.Number
import Bookbinder.Shell.State

/-!
Conditions on texts, numbers and files. The words of a condition are read from left to right; whether a word
is an operator may depend on the ones after it.
-/

set_option autoImplicit false

namespace Bookbinder.Shell.Condition

inductive Operator where
  /-- It stands before a word. -/
  | unary (name : String)
  /-- It stands between two words. -/
  | binary (name : String)
  | negation
  | conjunction
  | disjunction
  | opening
  | closing
  deriving DecidableEq, Repr

def unaryNames : List String :=
  ["-r", "-w", "-x", "-e", "-f", "-d", "-c", "-b", "-p", "-u", "-g", "-k", "-s", "-t", "-z", "-n", "-h",
    "-O", "-G", "-L", "-S"]

def binaryNames : List String :=
  ["=", "!=", "<", ">", "-eq", "-ne", "-ge", "-gt", "-le", "-lt", "-nt", "-ot", "-ef"]

def operator? (word : Chars) : Option Operator :=
  match String.ofList word with
  | "!" => some .negation
  | "-a" => some .conjunction
  | "-o" => some .disjunction
  | "(" => some .opening
  | ")" => some .closing
  | name =>
    if unaryNames.contains name then some (.unary name)
    else if binaryNames.contains name then some (.binary name)
    else none

def binary? (word : Chars) : Option String :=
  match operator? word with
  | some (.binary name) => some name
  | _ => none

/-- Whether an operator for one word is no operator because of the words after it. -/
def isOperand (others : List Chars) : Bool :=
  match others with
  | [] => true
  | [_] => false
  | next :: _ => (binary? next).isSome

/-- What the first of some words is where a condition goes on with it. -/
inductive Role where
  | ending
  | operand
  | operator (operator : Operator)
  deriving DecidableEq, Repr

def role (words : List Chars) : Role :=
  match words with
  | [] => .ending
  | word :: others =>
    match operator? word with
    | some (.unary name) => if isOperand others then .operand else .operator (.unary name)
    | some .opening => if others.isEmpty then .operand else .operator .opening
    | some operator => .operator operator
    | none => .operand

/-- Deciding, with the words from the one that was read last. -/
abbrev Deciding (α : Type) := StateT (List Chars) (Except String) α

def numberOf (text : Chars) : Except String Int :=
  match Number.whole? true text with
  | some value => .ok value
  | none => .error ("Illegal number: " ++ text.shown)

def statusOf? (state : State) (path : Chars) : Option FileSystem.Status :=
  (state.files.status state.cwd path.shown).toOption

/-- The spot that a path leads to. -/
def spotOf? (state : State) (path : Chars) : Option Spot :=
  match state.files.locate state.cwd true path.shown with
  | .ok (.occupied spot) => some spot
  | _ => none

/-- What holds of a file. -/
def holdsOfFile (state : State) (name : String) (path : Chars) : Bool :=
  let found := statusOf? state path
  let mode := match found with
    | some (.file content) => content.mode
    | _ => 0
  match name with
  | "-e" | "-r" | "-w" | "-O" | "-G" => found.isSome
  | "-f" =>
    match found with
    | some (.file _) | some .shell => true
    | _ => false
  | "-d" => found == some .directory
  | "-c" => found == some .sink
  | "-x" =>
    match found with
    | some (.file content) => Process.mayExecute content
    | some .directory | some .shell => true
    | _ => false
  | "-s" =>
    match found with
    | some (.file content) => !content.bytes.isEmpty
    | some .directory | some .shell => true
    | _ => false
  | "-u" => mode &&& 0o4000 != 0
  | "-g" => mode &&& 0o2000 != 0
  | "-k" => mode &&& 0o1000 != 0
  | "-h" | "-L" =>
    match state.files.locate state.cwd false path.shown with
    | .ok (.occupied spot) =>
      match state.files.entryAt? spot with
      | some (.symlink _) => true
      | _ => false
    | _ => false
  | _ => false

def holdsOfWord (state : State) (name : String) (word : Chars) : Except String Bool :=
  match name with
  | "-z" => return word.isEmpty
  | "-n" => return !word.isEmpty
  | "-t" =>
    -- No stream is a terminal.
    (numberOf word).map fun _ => false
  | name => return holdsOfFile state name word

def holdsOfNumbers (name : String) (first second : Int) : Bool :=
  match name with
  | "-eq" => first == second
  | "-ne" => first != second
  | "-ge" => first ≥ second
  | "-gt" => first > second
  | "-le" => first ≤ second
  | _ => first < second

def isSameFile (state : State) (first second : Chars) : Bool :=
  let entry (path : Chars) := (spotOf? state path).bind state.files.entryAt?
  match entry first, entry second with
  | some (.file number), some (.file other) => number == other
  | some _, some _ => spotOf? state first == spotOf? state second
  | _, _ => false

/-- What holds between two words. Times of files are not kept, so that no file is newer than another. -/
def holdsBetween (state : State) (name : String) (first second : Chars) : Except String Bool :=
  match name with
  | "=" => return first == second
  | "!=" => return first != second
  | "<" => return String.ofList first < String.ofList second
  | ">" => return String.ofList second < String.ofList first
  | "-nt" | "-ot" => return false
  | "-ef" => return isSameFile state first second
  | name => do return holdsOfNumbers name (← numberOf first) (← numberOf second)

/-- Goes on by so many words, and says what is found there. -/
def forward (count : Nat) : Deciding Role := do
  modify fun words => words.drop count
  return role (← get)

/-- The role of the word after the one that was read last. -/
def following : Deciding Role := return role ((← get).drop 1)

/-- The word that was read last. -/
def current : Deciding Chars := return (← get).headD []

def fail {α : Type} (word : String) (message : String) : Deciding α :=
  throw (if word = "" then message else word ++ ": " ++ message)

/-- What is read after an operator that needs it. -/
def operandOf (name : String) : Deciding Chars := do
  match (← get).drop 1 with
  | [] => fail name "argument expected"
  | words =>
    set words
    return words.headD []

mutual

/-- Conditions of which one has to hold. -/
def oneOf (state : State) : Nat → Role → Deciding Bool
  | 0, _ => return false
  | fuel + 1, role => do
    let first ← allOf state fuel role
    if (← following) = .operator .disjunction then
      let second ← oneOf state fuel (← forward 2)
      return first || second
    return first

/-- Conditions all of which have to hold. -/
def allOf (state : State) : Nat → Role → Deciding Bool
  | 0, _ => return false
  | fuel + 1, role => do
    let first ← negated state fuel role
    if (← following) = .operator .conjunction then
      let second ← allOf state fuel (← forward 2)
      return first && second
    return first

def negated (state : State) : Nat → Role → Deciding Bool
  | 0, _ => return false
  | fuel + 1, .operator .negation => do
    let next ← following
    if next ≠ .ending then modify fun words => words.drop 1
    return !(← negated state fuel next)
  | fuel + 1, role => single state fuel role

def single (state : State) : Nat → Role → Deciding Bool
  | 0, _ => return false
  | _ + 1, .ending => return false
  | fuel + 1, .operator .opening => do
    let next ← forward 1
    if next = .operator .closing then return false
    let result ← oneOf state fuel next
    if (← forward 1) ≠ .operator .closing then fail "" "closing paren expected"
    return result
  | _ + 1, .operator (.unary name) => do
    let word ← operandOf name
    liftM (holdsOfWord state name word)
  | _ + 1, _ => do
    let first ← current
    match ← following with
    | .operator (.binary name) =>
      modify fun words => words.drop 1
      let second ← operandOf name
      liftM (holdsBetween state name first second)
    | _ => return !first.isEmpty

end

/-- Decides words from the first one on. All of them have to belong to the condition. -/
def decideFrom (state : State) (role : Role) (words : List Chars) : Except String Bool := do
  let (result, rest) ← (oneOf state (8 * words.length + 8) role).run words
  match rest with
  | word :: _ :: _ => throw (if word.isEmpty then "unexpected operator"
      else word.shown ++ ": unexpected operator")
  | _ => return result

/-- Decides a condition. Those of up to four words are told apart by their number. -/
def decideWords (state : State) : Nat → List Chars → Except String Bool
  | _, [] => .ok false
  | 0, _ => .ok false
  | fuel + 1, words =>
    let first := words.headD []
    let inParentheses := first = ['('] ∧ words.getLast? = some [')']
    match words with
    | [_, middle, _] =>
      if (binary? middle).isSome then decideFrom state .operand words
      else if inParentheses then
        let inside := (words.drop 1).dropLast
        decideFrom state (role inside) inside
      else if first = ['!'] then (decideWords state fuel (words.drop 1)).map not
      else decideFrom state (role words) words
    | [_, _, _, _] =>
      if inParentheses then
        let inside := (words.drop 1).dropLast
        decideFrom state (role inside) inside
      else if first = ['!'] then (decideWords state fuel (words.drop 1)).map not
      else decideFrom state (role words) words
    | words => decideFrom state (role words) words

/-- Decides a condition, or says what is wrong with it. -/
def decide (state : State) (words : List Chars) : Except String Bool :=
  decideWords state (words.length + 1) words

end Bookbinder.Shell.Condition
