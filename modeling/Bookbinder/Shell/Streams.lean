import Bookbinder.FileSystem.Operations
import Bookbinder.Shell.State

/-!
Where the streams of a command go: to files that are opened for it, to where another stream goes, or to a text
that is there to be read.
-/

set_option autoImplicit false

namespace Bookbinder.Shell

/-- What a stream is given, words having been replaced. -/
inductive Target where
  | file (mode : OpenMode) (name : Chars)
  /-- What another stream has; without one the stream is closed. -/
  | stream (source : Option Nat)
  | text (content : Chars)
  deriving DecidableEq, Repr

namespace State

/-- The permission bits of a file that a script makes. -/
def newFileMode (state : State) : Nat := 0o666 &&& (0o777 ^^^ state.mask)

def openForReading (state : State) (path : String) : Except Errno (State × Stream) := do
  match ← state.files.locate state.cwd true path with
  | .vacant _ _ => throw .noEntry
  | .gone => return (state, .nothing)
  | .occupied spot =>
    match state.files.entryAt? spot with
    | some (.file number) => return state.openNew (.file number 0 false)
    | _ => return (state, .nothing)

/-- Opens a file to write to it, and makes it if it is not there. -/
def openForWriting (state : State) (mode : OpenMode) (path : String) :
    Except Errno (State × Stream) := do
  let target := PathText.withoutFinalSlashes path
  let location ← state.files.locate state.cwd true (if target = "" then path else target)
  if PathText.endsInSlash path then throw .isDirectory
  match location with
  | .gone => throw .isDirectory
  | .vacant directory name =>
    let number := state.files.next
    let files := state.files.addFile (directory ++ [name]) ⟨[], state.newFileMode⟩
    return { state with files := files }.openNew (.file number 0 (mode == OpenMode.appending))
  | .occupied spot =>
    match state.files.entryAt? spot with
    | some (.directory _ _) => throw .isDirectory
    | some (.file number) =>
      match mode, state.files.content? number with
      | .writing isCareful, some content =>
        if isCareful && state.isOn 'C' then throw .alreadyExists
        let files := state.files.putContent number { content with bytes := [] }
        return { state with files := files }.openNew (.file number 0 false)
      | mode, _ => return state.openNew (.file number 0 (mode == OpenMode.appending))
    | _ => return (state, .nothing)

def setStream (state : State) (number : Nat) (stream : Option Stream) : State :=
  match stream with
  | some stream => { state with streams := Pairs.put state.streams number stream }
  | none => { state with streams := Pairs.erase state.streams number }

end State

/-- How it is said that a file cannot be opened. -/
def refusalText (mode : OpenMode) (name : Chars) (errno : Errno) : String :=
  let isMissing := errno = .noEntry ∨ errno = .notDirectory
  let (verb, missing) := match mode with
    | .reading => ("open", "No such file")
    | _ => ("create", "Directory nonexistent")
  "cannot " ++ verb ++ " " ++ name.shown ++ ": " ++ (if isMissing then missing else errno.text)

namespace Running

/-- Opens a file, or says why that cannot be done. -/
def openFile (mode : OpenMode) (name : Chars) : Running Stream := do
  let state ← get
  let result := match mode with
    | .reading => state.openForReading name.shown
    | mode => state.openForWriting mode name.shown
  match result with
  | .error errno => fail (refusalText mode name errno)
  | .ok (state, stream) =>
    set state
    return stream

/-- Gives a stream what it is to have. -/
def redirect (number : Nat) (target : Target) : Running Unit := do
  match target with
  | .file mode name =>
    let stream ← openFile mode name
    modify fun state => state.setStream number (some stream)
  | .stream none => modify fun state => state.setStream number none
  | .stream (some source) =>
    match (← get).stream? source with
    | some stream => modify fun state => state.setStream number (some stream)
    | none => fail (Text.digits 10 source ++ ": Bad file descriptor")
  | .text content =>
    modify fun state =>
      let (state, stream) := state.openNew (.reader content)
      state.setStream number (some stream)

/-- Gives some streams back what they had. -/
def giveBack (numbers : List Nat) (streams : List (Nat × Stream)) : Running Unit :=
  numbers.forM fun number =>
    modify fun state => state.setStream number (Pairs.get? streams number)

/-- Redirects some streams. If one of them cannot be, none is, and that has been said. -/
def redirectAll (targets : List (Nat × Target)) : Running Bool := do
  let before := (← get).streams
  match ← attempt (targets.forM fun target => redirect target.1 target.2) with
  | .ok () => return true
  | .error _ =>
    giveBack (targets.map Prod.fst) before
    return false

/-- Runs something and gives some streams back what they had before, in each case. -/
def keepingStreams {α : Type} (numbers : List Nat) (before : List (Nat × Stream))
    (running : Running α) : Running α := do
  let result ← attempt running
  giveBack numbers before
  ofExcept result

/-- What is written to the standard output meanwhile. -/
def collecting {α : Type} (running : Running α) : Running (Chars × α) := do
  let before := (← get).streams
  let number := (← get).nextOpening
  modify fun state =>
    let (state, stream) := state.openNew (.collector [])
    state.setStream 1 (some stream)
  let result ← attempt running
  giveBack [1] before
  return ((← get).collected number, ← ofExcept result)

end Running

end Bookbinder.Shell
