import Bookbinder.FileSystem.Locate
import Bookbinder.FileSystem.PathText

/-!
What can be done to files by the text of their path. Permission to read, write and enter is never
missing; permission to execute is a matter of the program that starts files.
-/

set_option autoImplicit false

namespace Bookbinder.FileSystem

/-- What a path leads to, links followed. -/
inductive Status where
  | directory
  | file (content : Content)
  | shell
  | sink
  deriving DecidableEq, Repr

def statusAt (files : FileSystem) (spot : Spot) : Except Errno Status :=
  match files.entryAt? spot with
  | some (.directory _ _) => .ok .directory
  | some (.file number) =>
    match files.content? number with
    | some content => .ok (.file content)
    | none => .error .noEntry
  | some .shell => .ok .shell
  | some .sink => .ok .sink
  | some (.symlink _) | none => .error .noEntry

def status (files : FileSystem) (cwd : WorkingDirectory) (path : String) : Except Errno Status := do
  match ← files.locate cwd true path with
  | .occupied spot => files.statusAt spot
  | .gone => return .directory
  | .vacant _ _ => throw .noEntry

/-- Whether a path leads somewhere, whatever may be the reason if it does not. -/
def leadsSomewhere (files : FileSystem) (cwd : WorkingDirectory) (path : String) : Bool :=
  (files.status cwd path).isOk

/-- Whether anything stands at a path, a link that leads nowhere included. -/
def isTaken (files : FileSystem) (cwd : WorkingDirectory) (path : String) : Bool :=
  match files.locate cwd false path with
  | .ok (.vacant _ _) | .error _ => false
  | .ok _ => true

def leadsToDirectory (files : FileSystem) (cwd : WorkingDirectory) (path : String) : Bool :=
  match files.status cwd path with
  | .ok .directory => true
  | _ => false

def readFile (files : FileSystem) (cwd : WorkingDirectory) (path : String) :
    Except Errno Text.Bytes := do
  match ← files.status cwd path with
  | .file content => return content.bytes
  | .directory => throw .isDirectory
  | .shell | .sink => return []

/-- Writes to the file at a path, links followed, and makes it if it is not there. The permission
bits of one that is there stay. -/
def writeFile (files : FileSystem) (cwd : WorkingDirectory) (path : String)
    (change : Text.Bytes → Text.Bytes) : Except Errno FileSystem := do
  match ← files.locate cwd true path with
  | .gone => throw .isDirectory
  | .vacant directory name => return files.addFile (directory ++ [name]) ⟨change [], fileMode⟩
  | .occupied spot =>
    match files.entryAt? spot with
    | some (.file number) =>
      match files.content? number with
      | some content =>
        return files.putContent number { content with bytes := change content.bytes }
      | none => throw .noEntry
    | some (.directory _ _) => throw .isDirectory
    | _ => return files

/-- Sets the permission bits of what a path leads to. -/
def setMode (files : FileSystem) (cwd : WorkingDirectory) (path : String) (mode : Nat) :
    Except Errno FileSystem := do
  match ← files.locate cwd true path with
  | .gone => return files
  | .vacant _ _ => throw .noEntry
  | .occupied spot =>
    match files.entryAt? spot with
    | some (.file number) =>
      match files.content? number with
      | some content => return files.putContent number { content with mode := mode }
      | none => throw .noEntry
    | some (.directory serial _) => return files.putEntry spot (.directory serial mode)
    | _ => return files

/-- The path of a new directory, which may have slashes at its end. -/
def directoryPath (path : String) : String :=
  let trimmed := PathText.withoutFinalSlashes path
  if trimmed = "" then path else trimmed

def makeDirectory (files : FileSystem) (cwd : WorkingDirectory) (path : String) (mode : Nat) :
    Except Errno FileSystem := do
  match ← files.locate cwd false (directoryPath path) with
  | .vacant directory name => return files.addDirectory (directory ++ [name]) mode
  | _ => throw .alreadyExists

/-- Files after a change that may stop half-way, and what it stopped at. -/
abbrev Partly := FileSystem × Except (Errno × String) Unit

/-- Makes the last directory of a path; one that is there is left. -/
def provideLast (files : FileSystem) (cwd : WorkingDirectory) (path : String) : Partly :=
  match files.makeDirectory cwd path directoryMode with
  | .ok files => (files, .ok ())
  | .error errno =>
    if files.leadsToDirectory cwd path then (files, .ok ()) else (files, .error (errno, path))

/-- A path cut before its last name, slashes at its end apart. -/
def splitDirectory (path : String) : String × String :=
  match PathText.split path with
  | (head, "") => PathText.split head
  | halves => halves

/-- Makes a directory and those above it that are missing. What was made before one is refused stays.
`depth` bounds how many are made. -/
def makeDirectories (files : FileSystem) (cwd : WorkingDirectory) : Nat → String → Partly
  | 0, path => (files, .error (.nameTooLong, path))
  | depth + 1, path =>
    let (head, tail) := splitDirectory path
    if head = "" ∨ tail = "" ∨ files.leadsSomewhere cwd head then files.provideLast cwd path
    else
      match makeDirectories files cwd depth head with
      | (files, .error (errno, place)) =>
        if errno ≠ .alreadyExists then (files, .error (errno, place))
        else if tail = "." then (files, .ok ())
        else files.provideLast cwd path
      | (files, .ok ()) =>
        if tail = "." then (files, .ok ()) else files.provideLast cwd path

/-- Takes away the entry at a path: a file or a link, not a directory. -/
def unlink (files : FileSystem) (cwd : WorkingDirectory) (path : String) :
    Except Errno FileSystem := do
  match ← files.locate cwd false path with
  | .gone => throw .isDirectory
  | .vacant _ _ => throw .noEntry
  | .occupied spot => if files.isDirectory spot then throw .isDirectory else return files.removeEntry spot

def makeSymlink (files : FileSystem) (cwd : WorkingDirectory) (target path : String) :
    Except Errno FileSystem := do
  if target = "" then throw .noEntry
  if target.utf8ByteSize ≥ pathLimit then throw .nameTooLong
  match ← files.locate cwd false path with
  | .vacant directory name => return files.putEntry (directory ++ [name]) (.symlink target)
  | _ => throw .alreadyExists

/-- A second entry for the same file. A link is entered again as the link it is. -/
def makeHardLink (files : FileSystem) (cwd : WorkingDirectory) (existing path : String) :
    Except Errno FileSystem := do
  match ← files.locate cwd false existing with
  | .gone => throw .notPermitted
  | .vacant _ _ => throw .noEntry
  | .occupied spot =>
    match ← files.locate cwd false path with
    | .vacant directory name =>
      match files.entryAt? spot with
      | some (.directory _ _) => throw .notPermitted
      | some entry => return files.putEntry (directory ++ [name]) entry
      | none => throw .noEntry
    | _ => throw .alreadyExists

/-- The directory that a path leads to, as a current directory. -/
def enter (files : FileSystem) (cwd : WorkingDirectory) (path : String) :
    Except Errno WorkingDirectory := do
  match ← files.locate cwd true path with
  | .gone => return cwd
  | .vacant _ _ => throw .noEntry
  | .occupied spot =>
    match files.entryAt? spot with
    | some (.directory serial _) => return ⟨spot, serial⟩
    | _ => throw .notDirectory

end Bookbinder.FileSystem
