import Bookbinder.Delivery.Fetch
import Bookbinder.Process.Lookup
import Bookbinder.Shell.Run
import Bookbinder.Workbench.Basic

/-!
The workbench of a machine: tools are looked up on the search path, commands are run, and archives come
over a network.
-/

set_option autoImplicit false

namespace Bookbinder.Workbench

def commandOrigin : String := "bookbuild.core.shell.real"

/-- The exit code of a command that is not found. -/
def notFoundCode : Int := 127

/-- The exit code of a command that may not be executed. -/
def notExecutableCode : Int := 126

def lookUp (searchPath tool : String) : Action (Option String) := do
  let machine ← get
  let path := Process.which machine.files machine.cwd searchPath tool
  Action.trace commandOrigin
    ("Tool lookup: name=" ++ tool ++ ", path=" ++ path.getD "None")
  return path

/-- A command that cannot be started. Two kinds of reasons are exit codes. -/
def reportStart (program : String) (errno : Errno) (subject : Subject) : Action Int := do
  match errno with
  | .noEntry =>
    Action.trace commandOrigin ("Command not found: " ++ program)
    return notFoundCode
  | .accessDenied | .notPermitted =>
    Action.trace commandOrigin ("Command not executable: " ++ program)
    return notExecutableCode
  | errno => throw (.refused errno subject)

/-- What the programs that are run get from the machine, besides variables. -/
def shellEnvironment (machine : Machine) (place : WorkingDirectory) (exported : List (String × String)) :
    Shell.Environment where
  files := machine.files
  cwd := place
  emissions := machine.emissions
  exported := exported.map fun pair => (.ofText pair.1, .ofText pair.2)
  streams := Shell.standardStreams
  openings := []
  mask := Shell.standardMask
  ignored := []

/-- Runs the interpreter in a directory and keeps what it leaves. -/
def runShell (exported : List (String × String)) (place : WorkingDirectory) (words : List String) :
    Action Int := do
  let machine ← get
  let (left, ending) := Shell.run (shellEnvironment machine place exported) words
  set { machine with files := left.files, emissions := left.emissions }
  return ending.code

/-- The directories in which programs are looked for. -/
def searchPath (exported : List (String × String)) : String := (Pairs.get? exported "PATH").getD ""

def runCommand (exported : List (String × String)) (words : List String) (directory : Path) :
    Action Int := do
  Action.trace commandOrigin
    ("Running command: " ++ Text.quotedList words ++ " (cwd=" ++ directory.text ++ ")")
  match words with
  | [] => throw .emptyCommand
  | program :: _ =>
    if words.any holdsNul || holdsNul directory.text then throw .embeddedNul
    let machine ← get
    match machine.files.enter machine.cwd directory.text with
    | .error errno => reportStart program errno (.place directory)
    | .ok place =>
      match Process.launch machine.files place (searchPath exported) program words with
      | .error errno => reportStart program errno (.name program)
      | .ok arguments =>
        let exitCode ← runShell exported place arguments
        Action.trace commandOrigin
          ("Command finished: " ++ Text.quotedList words ++ " -> " ++ Text.ofInt exitCode)
        return exitCode

/-- The workbench of a machine, whose programs get some variables and are found along the search path among
them. -/
def system (exported : List (String × String)) (supply : Delivery.Supply) : Workbench where
  findTool := lookUp (searchPath exported)
  run := runCommand exported
  fetch := Delivery.fetch supply

end Bookbinder.Workbench
