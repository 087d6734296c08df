import Bookbinder.Shell.Directory

/-!
How the interpreter starts: what it gets from the program that starts it, and what it gives to another one that
it starts, or to a copy of itself.
-/

set_option autoImplicit false

namespace Bookbinder.Shell

/-- What the interpreter gets. -/
structure Environment where
  files : FileSystem
  cwd : WorkingDirectory
  emissions : List Emission
  /-- Variables by their names. -/
  exported : List (Chars × Chars)
  streams : List (Nat × Stream)
  openings : List (Nat × Opened)
  mask : Nat
  ignored : List Nat

/-- The streams that everything starts with. Nothing can be read. -/
def standardStreams : List (Nat × Stream) := [(0, .nothing), (1, .results), (2, .notices)]

/-- The permission bits that new files do not get unless something else is asked for. -/
def standardMask : Nat := 0o022

/-- The variables that are set if the environment does not set them, and those that are set in any case. -/
def firstVariables : List (Chars × Chars) :=
  [("PATH", "/usr/local/sbin:/usr/local/bin:/usr/sbin:/usr/bin:/sbin:/bin"), ("PS1", "# "), ("PS2", "> "),
    ("PS4", "+ ")].map fun pair => (pair.1.toList, pair.2.toList)

def lastVariables : List (Chars × Chars) :=
  [("IFS".toList, " \t\n".toList), ("OPTIND".toList, ['1'])]

def putAll (isExported : Bool) (holdings : List (Chars × Variable)) (pairs : List (Chars × Chars)) :
    List (Chars × Variable) :=
  pairs.foldl
    (fun holdings pair => Pairs.put holdings pair.1 ⟨some pair.2, isExported, false⟩) holdings

/-- The name of the current directory that the environment gives, if it is one. -/
def placeOf? (environment : Environment) : Option Chars :=
  (Pairs.get? environment.exported "PWD".toList).filter fun place =>
    place.head? = some '/' &&
      match environment.files.enter environment.cwd place.shown with
      | .ok cwd => cwd == environment.cwd && environment.files.isAlive cwd
      | .error _ => false

/-- What is said if the current directory is gone. -/
def noPlaceNotice : Chars := "sh: 0: getcwd() failed: No such file or directory\n".toList

/-- The state in which the interpreter starts. -/
def State.start (environment : Environment) : State :=
  let named := environment.exported.filter fun pair => isName pair.1
  let holdings := putAll false (putAll true (putAll false [] firstVariables) named) lastVariables
  let state : State := {
    files := environment.files
    cwd := environment.cwd
    emissions := environment.emissions
    place := []
    holdings := holdings
    functions := []
    aliases := []
    name := []
    arguments := []
    status := 0
    outputStatus := 0
    line := 0
    readLine := 1
    command := none
    options := []
    traps := []
    mainTraps := none
    ignored := environment.ignored
    pending := []
    statusBefore := none
    streams := environment.streams
    openings := environment.openings
    mask := environment.mask
    loops := 0
    calls := 0
    saved := []
    optionIndex := 1
    optionOffset := none
    background := [] }
  let place := (placeOf? environment).getD state.physicalPlace
  let state := if place.isEmpty then (state.write? 2 noPlaceNotice).getD state else state
  { state with
    place := place
    holdings := Pairs.put state.holdings "PWD".toList ⟨some place, true, false⟩ }

/-- What another program gets. -/
def State.environment (state : State) : Environment where
  files := state.files
  cwd := state.cwd
  emissions := state.emissions
  exported := state.holdings.filterMap fun pair =>
    if pair.2.isExported then pair.2.value.map fun value => (pair.1, value) else none
  streams := state.streams
  openings := state.openings
  mask := state.mask
  ignored := state.ignored ++ (state.traps.filter fun trap => trap.2.isEmpty).map Prod.fst

/-- A copy of the interpreter, which runs a part of the script. Of what is done at signals only that nothing
is done is kept. -/
def State.copy (state : State) : State :=
  { state with
    traps := state.traps.filter fun trap => trap.2.isEmpty
    mainTraps := some (state.mainTraps.getD state.traps) }

/-- The interpreter after another program, or a copy of itself, has run: it has left files and text. -/
def State.after (state other : State) : State :=
  { state with files := other.files, emissions := other.emissions, openings := other.openings }

/-- What the interpreter knows is not changed by what runs besides it. -/
theorem State.holdings_after (state other : State) : (state.after other).holdings = state.holdings :=
  rfl

end Bookbinder.Shell
