import Bookbinder.Proofs.Machine.Operations
import Bookbinder.Workbench.System

/-!
The workbench of a machine among programs of which nothing is known, and with a user who may stop each
request. With the programs of the system, and a user who never stops anything, it is the workbench of the
system.
-/

set_option autoImplicit false

namespace Bookbinder

/-- What lies outside of the program. -/
structure Outside where
  /-- What is started, with which words, for a program that is asked for by its name. -/
  launch : FileSystem → WorkingDirectory → String → String → List String → Except Errno (List String)
  /-- What a program that was started leaves behind, and how it ends. -/
  run : Shell.Environment → List String → Shell.Environment × Shell.Ending
  exported : List (String × String)
  supply : Delivery.Supply
  /-- What is left of a request where the user stops it. -/
  stops : Machine → Event → Option Machine

namespace Outside

open Workbench (commandOrigin reportStart searchPath shellEnvironment)

/-- A request that the user may stop. -/
def unlessStopped {α : Type} (outside : Outside) (event : Event) (action : Action α) : Action α := do
  let machine ← get
  match outside.stops machine event with
  | some left =>
    set left
    throw .interrupted
  | none => action

def runProgram (outside : Outside) (place : WorkingDirectory) (words : List String) : Action Int := do
  let machine ← get
  let (left, ending) := outside.run (shellEnvironment machine place outside.exported) words
  set { machine with files := left.files, emissions := left.emissions }
  return ending.code

def runCommand (outside : Outside) (words : List String) (directory : Path) : Action Int := do
  Action.trace commandOrigin
    ("Running command: " ++ Text.quotedList words ++ " (cwd=" ++ directory.text ++ ")")
  match words with
  | [] => throw .emptyCommand
  | program :: _ =>
    if words.any holdsNul || holdsNul directory.text then throw .embeddedNul
    let machine ← get
    match machine.files.enter machine.cwd directory.text with
    | .error errno => reportStart program errno (.place directory)
    | .ok place =>
      match outside.launch machine.files place (searchPath outside.exported) program words with
      | .error errno => reportStart program errno (.name program)
      | .ok arguments =>
        let exitCode ← outside.runProgram place arguments
        Action.trace commandOrigin
          ("Command finished: " ++ Text.quotedList words ++ " -> " ++ Text.ofInt exitCode)
        return exitCode

def workbench (outside : Outside) : Workbench where
  findTool name := outside.unlessStopped (.lookup name) (Workbench.lookUp (searchPath outside.exported) name)
  run words directory := outside.unlessStopped (.command words directory) (outside.runCommand words directory)
  fetch url directory :=
    outside.unlessStopped (.fetch url directory) (Delivery.fetch outside.supply url directory)

/-- The programs of the system, and a user who waits. -/
def system (exported : List (String × String)) (supply : Delivery.Supply) : Outside :=
  ⟨Process.launch, Shell.run, exported, supply, fun _ _ => none⟩

theorem unlessStopped_system {α : Type} (exported : List (String × String)) (supply : Delivery.Supply)
    (event : Event) (action : Action α) : (system exported supply).unlessStopped event action = action := by
  funext machine
  rfl

theorem runCommand_system (exported : List (String × String)) (supply : Delivery.Supply)
    (words : List String) (directory : Path) :
    (system exported supply).runCommand words directory = Workbench.runCommand exported words directory := by
  unfold runCommand Workbench.runCommand
  cases words with
  | nil => rfl
  | cons program rest => rfl

theorem workbench_system (exported : List (String × String)) (supply : Delivery.Supply) :
    (system exported supply).workbench = Workbench.system exported supply := by
  simp only [workbench, Workbench.system, unlessStopped_system, runCommand_system]
  rfl

variable {α : Type} {outside : Outside}

theorem perform_unlessStopped (event : Event) (action : Action α) (machine : Machine) :
    Action.perform (outside.unlessStopped event action) machine =
      match outside.stops machine event with
      | some left => (.error .interrupted, left)
      | none => Action.perform action machine := by
  rw [unlessStopped, Action.perform_bind, Action.perform_get]
  cases stopped : outside.stops machine event with
  | none => simp only [stopped]
  | some left =>
    simp only [stopped]
    rfl

end Outside

end Bookbinder
