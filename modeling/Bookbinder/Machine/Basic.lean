import Bookbinder.Failure
import Bookbinder.FileSystem.Operations
import Bookbinder.Terminal.Codes

/-!
The machine on which a build happens, and actions on it. An action ends with a value or with a
failure; either way the machine is as the action left it.
-/

set_option autoImplicit false

namespace Bookbinder

/-- What is written, in order. -/
inductive Emission where
  /-- For other programs. -/
  | result (text : String)
  /-- For the user. -/
  | notice (text : String)
  /-- For the user who looks for a mistake, with the part of the program that writes it. -/
  | trace (origin message : String)
  deriving DecidableEq, Repr

/-- What was asked of others, in order. -/
inductive Event where
  | lookup (tool : String)
  | command (words : List String) (directory : Path)
  /-- Where the process stood when a command was asked for. -/
  | position (directory : Path)
  | fetch (url : String) (directory : Path)
  | request (url : String)
  deriving DecidableEq, Repr

structure Machine where
  files : FileSystem
  cwd : WorkingDirectory
  emissions : List Emission
  events : List Event
  deriving Repr

/-- The text for other programs among the emissions. -/
def Emission.resultText : Emission → String
  | .result text => text
  | .notice _ | .trace _ _ => ""

/-- The text for the user among the emissions; traces are shown on demand. -/
def Emission.noticeText (traced : Bool) : Emission → String
  | .result _ => ""
  | .notice text => text
  | .trace origin message =>
    if traced then "[DEBUG " ++ origin ++ ":N] " ++ message ++ "\n" else ""

def Machine.results (machine : Machine) : String :=
  String.join (machine.emissions.map Emission.resultText)

def Machine.notices (machine : Machine) (traced : Bool) : String :=
  String.join (machine.emissions.map (Emission.noticeText traced))

abbrev Action (α : Type) := ExceptT Failure (StateM Machine) α

namespace Action

variable {α β : Type}

/-- How an action ends, and the machine that it leaves. -/
def perform (action : Action α) (machine : Machine) : Except Failure α × Machine :=
  StateT.run (ExceptT.run action) machine

theorem perform_pure (value : α) (machine : Machine) :
    perform (pure value) machine = (.ok value, machine) := rfl

theorem perform_throw (failure : Failure) (machine : Machine) :
    perform (throw failure : Action α) machine = (.error failure, machine) := rfl

theorem perform_bind (action : Action α) (next : α → Action β) (machine : Machine) :
    perform (action >>= next) machine =
      match perform action machine with
      | (.ok value, after) => perform (next value) after
      | (.error failure, after) => (.error failure, after) := by
  simp only [perform, bind, ExceptT.bind, ExceptT.mk, ExceptT.run, StateT.run, StateT.bind,
    ExceptT.bindCont]
  rcases action machine with ⟨result, after⟩
  cases result <;> rfl

/-- What an action comes to, its failure included. -/
def attempt (action : Action α) : Action (Except Failure α) :=
  ExceptT.lift (ExceptT.run action)

theorem perform_attempt (action : Action α) (machine : Machine) :
    perform (attempt action) machine = (.ok (perform action machine).1, (perform action machine).2) :=
  rfl

def ofExcept (result : Except Failure α) : Action α :=
  match result with
  | .ok value => pure value
  | .error failure => throw failure

theorem perform_ofExcept (result : Except Failure α) (machine : Machine) :
    perform (ofExcept result) machine = (result, machine) := by
  cases result <;> rfl

/-- An action and, however it ends, another one after it. A failure of the second counts first. -/
def ensuring (action : Action α) (last : Action Unit) : Action α := do
  let result ← attempt action
  last
  ofExcept result

theorem perform_ensuring (action : Action α) (last : Action Unit) (machine : Machine) :
    perform (ensuring action last) machine =
      match perform last (perform action machine).2 with
      | (.ok _, after) => ((perform action machine).1, after)
      | (.error failure, after) => (.error failure, after) := by
  simp only [ensuring, perform_bind, perform_attempt]
  rcases perform last (perform action machine).2 with ⟨result, after⟩
  cases result <;> simp [perform_ofExcept]

def emit (emission : Emission) : Action Unit :=
  modify fun machine => { machine with emissions := machine.emissions ++ [emission] }

def note (event : Event) : Action Unit :=
  modify fun machine => { machine with events := machine.events ++ [event] }

theorem perform_emit (emission : Emission) (machine : Machine) :
    perform (emit emission) machine =
      (.ok (), { machine with emissions := machine.emissions ++ [emission] }) := rfl

theorem perform_note (event : Event) (machine : Machine) :
    perform (note event) machine =
      (.ok (), { machine with events := machine.events ++ [event] }) := rfl

def trace (origin message : String) : Action Unit := emit (.trace origin message)

/-- What is shown of a message where there is no terminal. -/
def shown (message : String) (newline : Bool) : String :=
  String.ofList (Terminal.withoutSequences message.toList) ++ if newline then "\n" else ""

/-- Tells the user something. -/
def tell (message : String) (newline : Bool) : Action Unit :=
  emit (.notice (shown message newline))

/-- Gives a value to other programs. -/
def answer (message : String) (newline : Bool) : Action Unit :=
  emit (.result (shown message newline))

def tellLine (message : String) : Action Unit := tell message true

def tellError (message : String) : Action Unit := tellLine ("Error: " ++ message)

/-- Tells the user what is wrong and ends, unless the condition holds. -/
def ensure (condition : Bool) (message : String) : Action Unit := do
  if !condition then
    tellError message
    throw (.exit 1)

end Action

end Bookbinder
