import Bookbinder.CommandLine.Run
import Bookbinder.FileSystem.Arrange
import Bookbinder.Workbench.System

/-!
The program on a terminal. It works on a machine that holds the settings file and the paths that can be
meant by a book directory; what it leaves in the settings file is written back. Commands and the network
lie outside of this machine: a command is not found, and no address is reached.
-/

set_option autoImplicit false

namespace Bookbinder.Program

/-- What is found at a path. Whatever is there but cannot be read as a file counts as a directory. -/
inductive Found where
  | nothing
  | directory
  | file (bytes : Text.Bytes)

def find (path : String) : IO Found := do
  try
    let bytes ← IO.FS.readBinFile path
    return .file bytes.toList
  catch
    | .noFileOrDirectory _ _ _ => return .nothing
    | _ => return .directory

def Found.provide (files : FileSystem) (cwd : WorkingDirectory) (path : String) (found : Found) :
    FileSystem :=
  let provided : Except Errno FileSystem := match found with
    | .nothing => .ok files
    | .directory => files.provideDirectory cwd path
    | .file bytes => files.provideFile cwd path ⟨bytes, FileSystem.fileMode⟩
  provided.toOption.getD files

def settingsBytes? (files : FileSystem) (cwd : WorkingDirectory) : Option Text.Bytes :=
  (files.readFile cwd Settings.fileName).toOption

/-- The book directory of the settings, if they can be read. -/
def configuredBookDir (found : Found) : String :=
  let settings := match found with
    | .file bytes => (Settings.read (Path.parse Settings.fileName) bytes).toOption
    | _ => none
  (settings.getD Settings.default).bookDir.text

def supply : Delivery.Supply where
  network _ := .unreachable "no network"
  isFull := false

/-- A machine that stands in an empty directory. -/
def machineAt (place : String) : Machine :=
  let files := FileSystem.bare []
  let files := (files.provideDirectory ⟨[], 0⟩ place).toOption.getD files
  match files.enter ⟨[], 0⟩ place with
  | .ok cwd => ⟨files, cwd, [], []⟩
  | .error _ => ⟨files, ⟨[], 0⟩, [], []⟩

def print (traced : Bool) (emission : Emission) : IO Unit := do
  IO.print emission.resultText
  IO.eprint (emission.noticeText traced)

/-- The status of a program that fails. -/
def failedStatus : UInt32 := 1

/-- The value of a variable of the environment, or what stands for it. -/
def environment (name fallback : String) : IO String := do
  return (← IO.getEnv name).getD fallback

/-- Does what the words ask for, and gives the status of the program. -/
def run (words : List String) : IO UInt32 := do
  let exported ← ["PATH", "COLUMNS", "BOOKBUILD_DEBUG", "HOME", "PWD"].filterMapM fun name => do
    return (← IO.getEnv name).map fun value => (name, value)
  let columns := ((← environment "COLUMNS" "").toNat?).getD 80
  let traced := (← environment "BOOKBUILD_DEBUG" "") != ""
  let machine := machineAt (← environment "PWD" "/")
  let settings ← find Settings.fileName
  let mut files := settings.provide machine.files machine.cwd Settings.fileName
  for path in configuredBookDir settings :: words do
    files := (← find path).provide files machine.cwd path
  let makeContext := CommandLine.openContext (Workbench.system exported supply)
  let (result, after) :=
    (CommandLine.status ⟨columns, 0, 0⟩ makeContext words).perform ⟨files, machine.cwd, [], []⟩
  after.emissions.forM (print traced)
  match settingsBytes? after.files machine.cwd with
  | some bytes =>
    if some bytes != settingsBytes? files machine.cwd then
      IO.FS.writeBinFile Settings.fileName ⟨bytes.toArray⟩
  | none => pure ()
  match result with
  | .ok status => return UInt32.ofNat status.toNat
  | .error failure =>
    IO.eprintln failure.message
    return failedStatus

end Bookbinder.Program

def main (words : List String) : IO UInt32 := Bookbinder.Program.run words
