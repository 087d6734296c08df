import Bookbinder.FileSystem.Operations
import Bookbinder.Text.Split

/-!
Programs on the search path. Two searches share their candidates: one looks for a file that may be
executed, the other tries to start each candidate and keeps the first reason that tells more than that
nothing is there.
-/

set_option autoImplicit false

namespace Bookbinder.Process

/-- The directories of a search path. An empty one is the current directory. -/
def searchDirectories (searchPath : String) : List String :=
  (Text.splitOn ':' searchPath.toList).map String.ofList

def namesDirectory (program : String) : Bool := program.toList.contains '/'

/-- The files that a program's name may stand for. A name with a slash stands for itself. -/
def candidates (searchPath program : String) : List String :=
  if namesDirectory program then [program]
  else (searchDirectories searchPath).map fun directory => PathText.join directory program

/-- The permission bits that allow a file to be executed. -/
def executeBits : Nat := 0o111

def mayExecute (content : Content) : Bool := content.mode &&& executeBits != 0

/-- Whether a path leads to a file that may be executed. -/
def isProgram (files : FileSystem) (cwd : WorkingDirectory) (path : String) : Bool :=
  !path.toList.contains '\x00' &&
    match files.status cwd path with
    | .ok (.file content) => mayExecute content
    | .ok .shell => true
    | _ => false

/-- The first candidate that may be executed. Without a search path there is none. -/
def which (files : FileSystem) (cwd : WorkingDirectory) (searchPath program : String) :
    Option String :=
  if searchPath = "" ∧ !namesDirectory program then none
  else (candidates searchPath program).find? fun path => isProgram files cwd path

def isBlank (c : Char) : Bool := c == ' ' || c == '\t'

/-- The interpreter that the first line of a file names, and the argument it gives to it. -/
def interpreterLine? (bytes : Text.Bytes) : Option (String × Option String) :=
  match bytes with
  | 0x23 :: 0x21 :: rest =>
    let line := (Text.decodeUtf8Lossy (rest.takeWhile (· != 0x0a))).dropWhile isBlank
    let name := line.takeWhile fun c => !isBlank c
    let after := (line.dropWhile fun c => !isBlank c).dropWhile isBlank
    let argument := (after.reverse.dropWhile isBlank).reverse
    if name.isEmpty then none
    else some
      (String.ofList name, if argument.isEmpty then none else some (String.ofList argument))
  | _ => none

/-- Starts the file at a path with some words, the first of which is the program's name. What is
started in the end is the command interpreter, and the words are those that it gets. Interpreters that
are scripts themselves are followed so many times. -/
def start (files : FileSystem) (cwd : WorkingDirectory) :
    Nat → String → List String → Except Errno (List String)
  | depth, path, words => do
    match ← files.status cwd path with
    | .directory | .sink => throw .accessDenied
    | .shell => return words
    | .file content =>
      if !mayExecute content then throw .accessDenied
      match interpreterLine? content.bytes with
      | none => throw .notExecutableFormat
      | some (interpreter, argument) =>
        match depth with
        | 0 => throw .tooManyLinks
        | depth + 1 =>
          start files cwd depth interpreter
            (interpreter :: argument.toList ++ path :: words.drop 1)

/-- How often a script's interpreter may be a script. -/
def interpreterDepth : Nat := 5

/-- A reason that says only that nothing is there. -/
def saysMissing (errno : Errno) : Bool := errno == .noEntry || errno == .notDirectory

/-- Starts the first candidate that can be started. -/
def startFirst (files : FileSystem) (cwd : WorkingDirectory) (words : List String) :
    Errno → List String → Except Errno (List String)
  | reason, [] => .error reason
  | reason, path :: others =>
    match start files cwd interpreterDepth path words with
    | .ok started => .ok started
    | .error errno =>
      startFirst files cwd words (if saysMissing reason then errno else reason) others

/-- Starts a program by its name. -/
def launch (files : FileSystem) (cwd : WorkingDirectory) (searchPath program : String)
    (words : List String) : Except Errno (List String) :=
  startFirst files cwd words .noEntry (candidates searchPath program)

end Bookbinder.Process
