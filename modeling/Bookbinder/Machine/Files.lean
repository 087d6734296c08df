import Bookbinder.FileSystem.RealPath
import Bookbinder.Machine.Basic

/-!
Actions on files, by the text of a path. A text that holds the character NUL names nothing.
-/

set_option autoImplicit false

namespace Bookbinder

/-- The path of a spot. -/
def Path.ofSpot (spot : Spot) : Path := Path.parse (FileSystem.spotText spot)

def holdsNul (text : String) : Bool := text.toList.contains '\x00'

/-- The reasons for which a path leads nowhere, as against those for which it cannot be told. -/
def Errno.meansAbsence : Errno → Bool
  | .noEntry | .notDirectory | .tooManyLinks => true
  | _ => false

namespace Action

/-- An operation that looks at files. -/
def query {α : Type} (path : String) (operation : FileSystem → WorkingDirectory → Except Errno α) :
    Action α := do
  if holdsNul path then throw .embeddedNul
  let machine ← get
  match operation machine.files machine.cwd with
  | .ok value => return value
  | .error errno => throw (.refused errno (.name path))

/-- An operation that changes files. -/
def change (path : String)
    (operation : FileSystem → WorkingDirectory → Except Errno FileSystem) : Action Unit := do
  let files ← query path operation
  modify fun machine => { machine with files := files }

/-- What a path leads to, if it leads somewhere. -/
def statusOf? (path : Path) : Action (Option FileSystem.Status) := do
  if holdsNul path.text then return none
  let machine ← get
  match machine.files.status machine.cwd path.text with
  | .ok status => return some status
  | .error errno =>
    if errno.meansAbsence then return none
    else throw (.refused errno (.name path.text))

def exists? (path : Path) : Action Bool := do
  return (← statusOf? path).isSome

def isDirectory (path : Path) : Action Bool := do
  return (← statusOf? path) == some .directory

def readFile (path : Path) : Action Text.Bytes :=
  query path.text fun files cwd => files.readFile cwd path.text

def writeFile (path : Path) (bytes : Text.Bytes) : Action Unit :=
  change path.text fun files cwd => files.writeFile cwd path.text fun _ => bytes

/-- Makes an empty file unless something is there. -/
def touch (path : Path) : Action Unit :=
  change path.text fun files cwd =>
    if files.leadsSomewhere cwd path.text then .ok files
    else files.writeFile cwd path.text id

/-- Makes a directory and those above it that are missing; what is there is left. -/
def provideDirectory (path : String) : Action Unit := do
  if holdsNul path then throw .embeddedNul
  let machine ← get
  let (files, result) := machine.files.makeDirectories machine.cwd (path.length + 1) path
  set { machine with files := files }
  match result with
  | .ok _ => return
  | .error (errno, place) => throw (.refused errno (.name place))

/-- The absolute text of a path, its links followed. -/
def realPath (path : String) : Action String := do
  if holdsNul path then throw .embeddedNul
  let machine ← get
  match machine.files.realPath machine.cwd path with
  | .ok text => return text
  | .error errno => throw (.refused errno .unnamed)

/-- Another action in place of one that the operating system refuses. -/
def unlessRefused (action fallback : Action Unit) : Action Unit := do
  match ← attempt action with
  | .error (.refused _ _) => fallback
  | result => ofExcept result

/-- The current directory, if it still exists. -/
def currentDirectory : Action Path := do
  let machine ← get
  if machine.files.isAlive machine.cwd then return Path.ofSpot machine.cwd.spot
  else throw (.refused .noEntry .unnamed)

def enterDirectory (path : Path) : Action Unit := do
  let place ← query path.text fun files cwd => files.enter cwd path.text
  modify fun machine => { machine with cwd := place }

/-- A stay in a directory: where the process came from, and where it is. -/
structure Visit where
  origin : Path
  place : Path
  deriving DecidableEq, Repr

def arrive (target : Path) : Action Visit := do
  let origin ← currentDirectory
  enterDirectory target
  let place ← currentDirectory
  trace "bookbuild.core.directory"
    ("Entered directory: " ++ place.text ++ " (from " ++ origin.text ++ ")")
  return ⟨origin, place⟩

def depart (visit : Visit) : Action Unit := do
  enterDirectory visit.origin
  trace "bookbuild.core.directory" ("Restored directory: " ++ visit.origin.text)

/-- Acts inside a directory and comes back, however that ends. -/
def inDirectory {α : Type} (target : Path) (body : Path → Action α) : Action α := do
  let visit ← arrive target
  ensuring (body visit.place) (depart visit)

/-- The settings in a directory; without a file, the built-in ones. -/
def loadSettings (directory : Path) : Action Settings := do
  let file := Settings.file directory
  if !(← exists? file) then return Settings.default
  match Settings.read file (← readFile file) with
  | .ok settings => return settings
  | .error fault => throw (.settings fault)

/-- Writes the settings into a directory, and gives the path of their file. -/
def saveSettings (directory : Path) (settings : Settings) : Action Path := do
  let file := Settings.file directory
  writeFile file (Text.encodeUtf8 settings.write)
  return file

/-- Ends with a message unless the book directory is there. -/
def ensureBookDirectory (path : Path) : Action Unit := do
  ensure (← isDirectory path) ("Book directory not found: " ++ path.text)

end Action

end Bookbinder
