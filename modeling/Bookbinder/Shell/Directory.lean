import Bookbinder.FileSystem.Operations
import Bookbinder.Shell.Options

/-!
The current directory, as the user names it and as it is.
-/

set_option autoImplicit false

namespace Bookbinder.Shell

/-- Where a path leads from a directory that the user has named, dots being worked out in the text. There is
no telling if the directory has no name. -/
def logicalPath? (place dest : Chars) : Option Chars :=
  if dest.head? = some '/' then some (.ofText (PathText.normalise dest.shown))
  else if place.isEmpty then none
  else some (.ofText (PathText.normalise (place ++ '/' :: dest).shown))

/-- The current directory without links, if it still has a place. -/
def State.physicalPlace (state : State) : Chars :=
  if state.files.isAlive state.cwd then .ofText (FileSystem.spotText state.cwd.spot) else []

namespace Running

/-- Sets a variable that other programs get. -/
def assignExported (name value : Chars) : Running Unit := putVariable name ⟨some value, true, false⟩

/-- Goes to a directory, if that can be done. -/
def goTo (isPhysical : Bool) (dest : Chars) : Running Bool := do
  let state ← get
  let logical := if isPhysical then none else logicalPath? state.place dest
  match state.files.enter state.cwd (logical.getD dest).shown with
  | .error _ => return false
  | .ok cwd =>
    let moved := { state with cwd := cwd }
    let place := logical.getD moved.physicalPlace
    set { moved with place := place }
    assignExported "OLDPWD".toList state.place
    assignExported "PWD".toList place
    return true

/-- Whether a path is looked for along `CDPATH`. -/
def isSearched (dest : Chars) : Bool :=
  match dest with
  | '/' :: _ => false
  | ['.'] | ['.', '.'] => false
  | '.' :: '/' :: _ | '.' :: '.' :: '/' :: _ => false
  | _ => true

/-- The paths that are tried for a destination, each with whether it is told where it has led. -/
def destinations (state : State) (dest : Chars) : List (Chars × Bool) :=
  let path := (state.value? "CDPATH".toList).getD []
  if !isSearched dest || path.isEmpty then []
  else
    (Text.splitOn ':' path).map fun directory =>
      if directory.isEmpty then (dest, false)
      else (.ofText (PathText.join (Chars.shown directory) dest.shown), true)

def changeDirectory (arguments : List Chars) : Running Nat := do
  let (options, rest) ← optionsOf "LP" arguments
  let isPhysical := options.getLast?.any fun option => option.1 == 'P'
  let state ← get
  let isBack := rest.head? = some ['-']
  let dest := match rest with
    | [] => (state.value? "HOME".toList).getD []
    | ['-'] :: _ => (state.value? "OLDPWD".toList).getD []
    | dest :: _ => dest
  let isDirectory (path : Chars) : Bool := state.files.leadsToDirectory state.cwd path.shown
  let wanted : Chars := if dest.isEmpty && !isBack then ['.'] else dest
  let found := if isBack then none
    else (destinations state wanted).find? fun candidate => isDirectory candidate.1
  let (path, isTold) := found.getD (wanted, isBack)
  if !(← goTo isPhysical path) then fail ("can't cd to " ++ dest.shown)
  if isTold then print ((← get).place ++ ['\n']) else return 0

def printDirectory (arguments : List Chars) : Running Nat := do
  let (options, _) ← optionsOf "LP" arguments
  let isPhysical := options.getLast?.any fun option => option.1 == 'P'
  let state ← get
  print ((if isPhysical then state.physicalPlace else state.place) ++ ['\n'])

end Running

end Bookbinder.Shell
