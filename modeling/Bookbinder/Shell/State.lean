import Bookbinder.Machine.Basic
import Bookbinder.Shell.Reading

/-!
What the interpreter knows while a script runs: parameters, functions, options, and where its streams go.
Running ends early where a loop or a function is left, where something is wrong, or where the process ends.
-/

set_option autoImplicit false

namespace Bookbinder.Shell

/-- How a process ends. -/
inductive Ending where
  | exited (status : Nat)
  | killed (signal : Nat)
  deriving DecidableEq, Repr

/-- The exit code as a caller reports it. -/
def Ending.code : Ending → Nat
  | .exited status => status % 256
  | .killed signal => 128 + signal

/-- Why running goes on somewhere else than at the next command. -/
inductive Interruption where
  /-- Loops are left, so many of them; the last one may go on with its next round. -/
  | leaveLoops (count : Nat) (goesOn : Bool)
  /-- A function, or the text that is run, is left. -/
  | leaveFunction
  /-- Something is wrong, and this has been said. -/
  | failed
  /-- The interpreter ends, or the copy of it that runs a part of the script. -/
  | ended (ending : Ending)
  /-- The interpreter is killed together with all copies of it. -/
  | killed (signal : Nat)
  deriving DecidableEq, Repr

/-- A status for what went wrong. -/
def faultStatus : Nat := 2

structure Variable where
  /-- There is none where a name only has properties. -/
  value : Option Chars
  isExported : Bool
  isReadOnly : Bool
  deriving DecidableEq, Repr

/-- Where a stream goes to or comes from. -/
inductive Stream where
  /-- The text for other programs. -/
  | results
  /-- The text for the user. -/
  | notices
  /-- Nothing comes from it, and what goes to it is lost. -/
  | nothing
  /-- Something that was opened, by its number. -/
  | opened (number : Nat)
  deriving DecidableEq, Repr

/-- What was opened. -/
inductive Opened where
  | file (number offset : Nat) (appends : Bool)
  /-- Text that is there to be read. -/
  | reader (rest : Chars)
  /-- Text that has been written. -/
  | collector (written : Chars)
  deriving DecidableEq, Repr

structure State where
  files : FileSystem
  cwd : WorkingDirectory
  emissions : List Emission
  /-- The current directory as the user names it. -/
  place : Chars
  holdings : List (Chars × Variable)
  functions : List (Chars × Script)
  aliases : List (Chars × Chars)
  /-- The name under which the script was called. -/
  name : Chars
  arguments : List Chars
  /-- How the last command ended. -/
  status : Nat
  /-- How the last script ended whose output took its place in a word. -/
  outputStatus : Nat
  /-- The line of the command that runs. -/
  line : Nat
  /-- The line up to which the script has been read. -/
  readLine : Nat
  /-- The command that runs, if the interpreter runs it itself. -/
  command : Option Chars
  /-- The options that are on, by their letters. -/
  options : List Char
  /-- What is done at a signal, or at the end for zero. -/
  traps : List (Nat × Chars)
  /-- What the interpreter itself does at a signal, if this is a copy of it that runs a part of the script. -/
  mainTraps : Option (List (Nat × Chars))
  /-- Signals that came to nothing already when the interpreter started. -/
  ignored : List Nat
  /-- Signals that have come and for which something is to be done. -/
  pending : List Nat
  /-- How the last command before a trap ended, while something is done about a signal. -/
  statusBefore : Option Nat
  streams : List (Nat × Stream)
  openings : List (Nat × Opened)
  /-- Permission bits that new files do not get. -/
  mask : Nat
  /-- The loops that the command stands in. -/
  loops : Nat
  /-- The functions that the command stands in. -/
  calls : Nat
  /-- The variables of functions as they were before them, the innermost function first. -/
  saved : List (List (Chars × Option Variable))
  /-- The argument in which the next option is looked for, and how far options have been read in the one
  before it. -/
  optionIndex : Nat
  optionOffset : Option Nat
  /-- How the processes that ran aside have ended. -/
  background : List Ending

abbrev Running (α : Type) := ExceptT Interruption (StateM State) α

/-- The number by which a script calls its own process. -/
def processNumber : Chars := "4711".toList

/-- The number of the process that was the first, or another one, to run aside. -/
def backgroundNumber (place : Nat) : Nat := 4712 + place

namespace State

def isOn (state : State) (option : Char) : Bool := state.options.contains option

def holding? (state : State) (name : Chars) : Option Variable := Pairs.get? state.holdings name

def value? (state : State) (name : Chars) : Option Chars := (state.holding? name).bind Variable.value

/-- The characters between which fields stand. -/
def separators (state : State) : Chars := (state.value? "IFS".toList).getD " \t\n".toList

/-- The arguments in one text. -/
def joinedArguments (state : State) : Chars := Text.joinWith (state.separators.take 1) state.arguments

/-- The value of a parameter, if it is set. -/
def parameter? (state : State) (name : Chars) : Option Chars :=
  match name with
  | ['?'] => some (Nat.toDigits 10 state.status)
  | ['#'] => some (Nat.toDigits 10 state.arguments.length)
  | ['$'] => some processNumber
  | ['!'] =>
    match state.background.length with
    | 0 => none
    | count + 1 => some (Nat.toDigits 10 (backgroundNumber count))
  | ['-'] => some state.options
  | ['@'] | ['*'] => if state.arguments.isEmpty then none else some state.joinedArguments
  | _ =>
    if name.all Char.isDigit then
      match (Text.ofDigits? 10 name).getD 0 with
      | 0 => some state.name
      | place + 1 => state.arguments[place]?
    else state.value? name

/-- What is written to something that was opened. -/
def writeOpened (state : State) (number : Nat) (text : Chars) : State :=
  let kept (opened : Opened) : State :=
    { state with openings := Pairs.put state.openings number opened }
  match Pairs.get? state.openings number with
  | some (.collector written) => kept (.collector (written ++ text))
  | some (.file file offset appends) =>
    match state.files.content? file with
    | some content =>
      let old := content.bytes
      let offset := if appends then old.length else offset
      let new := text.bytes
      let padded := old.take offset ++ List.replicate (offset - old.length) 0
      let bytes := padded ++ new ++ old.drop (offset + new.length)
      let state := kept (.file file (offset + new.length) appends)
      { state with files := state.files.putContent file { content with bytes := bytes } }
    | none => state
  | _ => state

def emit (state : State) (emission : Emission) : State :=
  { state with emissions := state.emissions ++ [emission] }

/-- What is written to a stream. Nothing can be if it is closed or only gives. -/
def writeTo? (state : State) (stream : Option Stream) (text : Chars) : Option State :=
  match stream with
  | none => none
  | some .nothing => some state
  | some .results => some (state.emit (.result text.shown))
  | some .notices => some (state.emit (.notice text.shown))
  | some (.opened number) =>
    match Pairs.get? state.openings number with
    | some (.reader _) => none
    | _ => some (state.writeOpened number text)

def stream? (state : State) (number : Nat) : Option Stream := Pairs.get? state.streams number

def write? (state : State) (number : Nat) (text : Chars) : Option State :=
  state.writeTo? (state.stream? number) text

/-- What there is to be read from a stream. -/
def unread (state : State) (stream : Nat) : Chars :=
  match state.stream? stream with
  | some (.opened number) =>
    match Pairs.get? state.openings number with
    | some (.reader rest) => rest
    | some (.file file offset _) =>
      match state.files.content? file with
      | some content => .ofBytes (content.bytes.drop offset)
      | none => []
    | _ => []
  | _ => []

/-- The state after so many characters were read from a stream. -/
def advance (state : State) (stream count : Nat) : State :=
  match state.stream? stream with
  | some (.opened number) =>
    match Pairs.get? state.openings number with
    | some (.reader rest) =>
      { state with openings := Pairs.put state.openings number (.reader (rest.drop count)) }
    | some (.file file offset appends) =>
      { state with openings := Pairs.put state.openings number (.file file (offset + count) appends) }
    | _ => state
  | _ => state

/-- The number that the next thing that is opened has. -/
def nextOpening (state : State) : Nat := state.openings.length

/-- Opens something, and gives the stream to it. -/
def openNew (state : State) (opened : Opened) : State × Stream :=
  let number := state.nextOpening
  ({ state with openings := Pairs.put state.openings number opened }, .opened number)

/-- What was written to something that collects it. -/
def collected (state : State) (number : Nat) : Chars :=
  match Pairs.get? state.openings number with
  | some (.collector written) => written
  | _ => []

end State

namespace Running

def run {α : Type} (running : Running α) (state : State) : Except Interruption α × State :=
  StateT.run (ExceptT.run running) state

/-- What running comes to, an interruption included. -/
def attempt {α : Type} (running : Running α) : Running (Except Interruption α) := fun state =>
  let (result, after) := running.run state
  (.ok result, after)

def ofExcept {α : Type} (result : Except Interruption α) : Running α :=
  match result with
  | .ok value => pure value
  | .error interruption => throw interruption

/-- A line about what is wrong. -/
def complain (message : String) : Running Unit := do
  let state ← get
  let command := match state.command with
    | some command => command ++ ": ".toList
    | none => []
  let line := state.name ++ (": " ++ Text.digits 10 state.line ++ ": ").toList ++ command ++
    Chars.ofText message ++ ['\n']
  set ((state.write? 2 line).getD state)

/-- Writes a line for the user. -/
def tell (line : Chars) : Running Unit :=
  modify fun state => (state.write? 2 (line ++ ['\n'])).getD state

def setStatus (status : Nat) : Running Unit := modify fun state => { state with status := status }

/-- Says what is wrong and stops. -/
def fail {α : Type} (message : String) : Running α := do
  complain message
  setStatus faultStatus
  throw .failed

/-- Says what is wrong with a text. -/
def failAbout {α : Type} (text : Chars) (message : String) : Running α :=
  fail (text.shown ++ ": " ++ message)

def failNumber {α : Type} (text : Chars) : Running α := fail ("Illegal number: " ++ text.shown)

/-- Writes to the standard output, and gives a status. -/
def print (text : Chars) : Running Nat := do
  let state ← get
  match state.write? 1 text with
  | some after =>
    set after
    return 0
  | none =>
    if text.isEmpty then return 0
    complain ((state.command.getD []).shown ++ ": I/O error")
    return 1

/-- Puts something down for a name, unless that is forbidden. -/
def putVariable (name : Chars) (holding : Variable) : Running Unit := do
  if !isName name then failAbout (name.takeWhile (· ≠ '=')) "bad variable name"
  if ((← get).holding? name).any Variable.isReadOnly then failAbout name "is read only"
  modify fun state => { state with holdings := Pairs.put state.holdings name holding }
  -- Options are looked for anew once this variable is set.
  if name = "OPTIND".toList then
    let index := (Text.ofDigits? 10 (holding.value.getD [])).getD 1
    modify fun state => { state with optionIndex := max index 1, optionOffset := none }

/-- Sets a variable. -/
def assign (name value : Chars) : Running Unit := do
  let state ← get
  let isExported := (state.holding? name).any Variable.isExported || state.isOn 'a'
  putVariable name ⟨some value, isExported, false⟩

/-- Takes a variable away. -/
def forget (name : Chars) : Running Unit := do
  putVariable name ⟨none, false, false⟩
  modify fun state => { state with holdings := Pairs.erase state.holdings name }

end Running

end Bookbinder.Shell
