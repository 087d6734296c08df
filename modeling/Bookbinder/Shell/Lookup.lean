import Bookbinder.Process.Lookup
import Bookbinder.Shell.Options
import Bookbinder.Shell.Syntax

/-!
What the name of a command stands for: a function, a command of the interpreter itself, or a program on the
search path.
-/

set_option autoImplicit false

namespace Bookbinder.Shell

inductive Meaning where
  | function (body : Script)
  /-- A command in which a mistake ends the interpreter. -/
  | special
  | ordinary
  /-- A program, with the paths that are tried one after the other. -/
  | program (paths : List String)
  /-- There is no program of this name. Whether there is something else. -/
  | absent (isRefused : Bool)

namespace State

def searchPath (state : State) : String := ((state.value? "PATH".toList).getD []).shown

/-- The paths from the first one on that leads to a program. -/
def programPaths (state : State) (name : Chars) : List String :=
  (Process.candidates state.searchPath name.shown).dropWhile fun path =>
    !Process.isProgram state.files state.cwd path

/-- Whether something that is no program stands on the search path. -/
def isRefused (state : State) (name : Chars) : Bool :=
  (Process.candidates state.searchPath name.shown).any fun path =>
    state.files.leadsSomewhere state.cwd path

/-- What a name stands for. Functions may be left out. -/
def meaning (state : State) (withFunctions : Bool) (name : Chars) : Meaning :=
  let text := String.ofList name
  if name.contains '/' then .program [name.shown]
  else
    match if withFunctions then Pairs.get? state.functions name else none with
    | some body => .function body
    | none =>
      if specialCommands.contains text then .special
      else if ordinaryCommands.contains text then .ordinary
      else
        match state.programPaths name with
        | [] => .absent (state.isRefused name)
        | paths => .program paths

end State

/-- The reason for which a program is not started. -/
def startText (errno : Errno) : String :=
  if errno = .noEntry ∨ errno = .notDirectory then "not found" else errno.text

/-- The status if a program is not started. -/
def startStatus (errno : Errno) : Nat :=
  match errno with
  | .noEntry | .notDirectory | .tooManyLinks | .nameTooLong => 127
  | _ => 126

/-- The interpreter that runs a file which does not name one. -/
def standardInterpreter : String := "/bin/sh"

/-- The words with which the interpreter is started for a program at one of some paths. -/
def startWords (state : State) (words : List String) : Errno → List String → Except Errno (List String)
  | reason, [] => .error reason
  | reason, path :: others =>
    match Process.start state.files state.cwd Process.interpreterDepth path words with
    | .ok started => .ok started
    | .error .notExecutableFormat => .ok (standardInterpreter :: path :: words.drop 1)
    | .error errno =>
      startWords state words (if Process.saysMissing errno then reason else errno) others

/-- What is said about a name, with the status. In short it is what would be run. -/
def describe (state : State) (isShort : Bool) (name : Chars) : Chars × Nat :=
  let said (text : String) : Chars × Nat :=
    ((if isShort then name else name ++ text.toList) ++ ['\n'], 0)
  if keywords.contains (String.ofList name) then said " is a shell keyword"
  else
    match Pairs.get? state.aliases name with
    | some value =>
      if isShort then ("alias ".toList ++ quotedPair name (some value) ++ ['\n'], 0)
      else (name ++ " is an alias for ".toList ++ value ++ ['\n'], 0)
    | none =>
      let missing := (if isShort then [] else name ++ ": not found\n".toList, 127)
      match state.meaning true name with
      | .function _ => said " is a shell function"
      | .special => said " is a special shell builtin"
      | .ordinary => said " is a shell builtin"
      | .absent _ | .program [] => missing
      | .program (path :: _) =>
        if !state.files.leadsSomewhere state.cwd path then missing
        else if isShort then (.ofText path ++ ['\n'], 0)
        else (name ++ " is ".toList ++ .ofText path ++ ['\n'], 0)

namespace Running

/-- Says what names stand for. -/
def describeAll (isShort : Bool) (names : List Chars) : Running Nat := do
  let state ← get
  let described := names.map fun name => describe state isShort name
  let written ← print (described.flatMap Prod.fst)
  return described.foldl (fun status found => status ||| found.2) written

/-- Looks for programs, to find them faster later. -/
def findPrograms (arguments : List Chars) : Running Nat := do
  let (_, names) ← optionsOf "r" arguments
  let state ← get
  let absent := names.filter fun name =>
    match state.meaning true name with
    | .absent _ => true
    | _ => false
  absent.forM fun name => complain (name.shown ++ ": not found")
  return if absent.isEmpty then 0 else 1

/-- Gives words other meanings where a command starts, or shows what they mean. -/
def setAliases (arguments : List Chars) : Running Nat := do
  if arguments.isEmpty then
    print ((← get).aliases.flatMap fun pair => quotedPair pair.1 (some pair.2) ++ ['\n'])
  else
    let statuses ← arguments.mapM fun argument => do
      let name := argument.take 1 ++ (argument.drop 1).takeWhile (· ≠ '=')
      match argument.drop name.length with
      | _ :: value =>
        modify fun state => { state with aliases := Pairs.put state.aliases name value }
        return 0
      | [] =>
        match Pairs.get? (← get).aliases name with
        | some value => print (quotedPair name (some value) ++ ['\n'])
        | none =>
          tell ("alias: ".toList ++ name ++ " not found".toList)
          return 1
    return statuses.foldl max 0

def forgetAliases (arguments : List Chars) : Running Nat := do
  let (options, names) ← optionsOf "a" arguments
  if !options.isEmpty then
    modify fun state => { state with aliases := [] }
    return 0
  else
    let statuses ← names.mapM fun name => do
      match Pairs.get? (← get).aliases name with
      | some _ =>
        modify fun state => { state with aliases := Pairs.erase state.aliases name }
        return 0
      | none =>
        tell ("unalias: ".toList ++ name ++ " not found".toList)
        return 1
    return statuses.foldl max 0

end Running

end Bookbinder.Shell
