import Bookbinder.FileSystem.Basic
import Bookbinder.Text.Split

/-!
From the text of a path to a spot. Links are followed on the way, at most forty of them; the last
name may be vacant, since it may be about to be made.
-/

set_option autoImplicit false

namespace Bookbinder

/-- A current directory. It is gone once another directory, or none, stands at its spot. -/
structure WorkingDirectory where
  spot : Spot
  serial : Nat
  deriving DecidableEq, Repr

/-- Where the text of a path leads. -/
inductive Location where
  | occupied (spot : Spot)
  | vacant (directory : Spot) (name : String)
  /-- The current directory itself, which is gone. -/
  | gone
  deriving DecidableEq, Repr

/-- How a walk along some names ends. -/
inductive Walk where
  | arrived (location : Location)
  /-- A link is to be followed: its target, the directory it stands in, and the names after it. -/
  | link (target : String) (directory : Spot) (rest : List String)
  | refused (errno : Errno)
  deriving DecidableEq, Repr

namespace FileSystem

/-- The greatest length of a name, in bytes. -/
def longestName : Nat := 255

/-- A path has to be shorter than this, in bytes. -/
def pathLimit : Nat := 4096

/-- The greatest number of links that are followed. -/
def mostLinks : Nat := 40

def isAlive (files : FileSystem) (cwd : WorkingDirectory) : Bool :=
  match files.entryAt? cwd.spot with
  | some (.directory serial _) => serial == cwd.serial
  | _ => false

/-- The names in the text of a path. A slash at its end asks for a directory, as a dot does. -/
def components (path : String) : List String :=
  let parts := (Text.splitOn '/' path.toList).map String.ofList
  parts.filter (· != "") ++ (if path.toList.getLast? = some '/' then ["."] else [])

/-- Walks from a spot along names up to the first link. -/
def walk (files : FileSystem) (follow : Bool) : Spot → List String → Walk
  | spot, [] => .arrived (.occupied spot)
  | spot, name :: rest =>
    if !files.isDirectory spot then .refused .notDirectory
    else if name = "." then walk files follow spot rest
    else if name = ".." then walk files follow spot.dropLast rest
    else if name.utf8ByteSize > longestName then .refused .nameTooLong
    else
      match files.entryAt? (spot ++ [name]) with
      | none => if rest.isEmpty then .arrived (.vacant spot name) else .refused .noEntry
      | some (.symlink target) =>
        if rest.isEmpty && !follow then .arrived (.occupied (spot ++ [name]))
        else .link target spot rest
      | some _ => walk files follow (spot ++ [name]) rest

/-- Walks on through links as long as the budget lasts. -/
def walkOn (files : FileSystem) (follow : Bool) : Nat → Spot → List String → Except Errno Location
  | budget, spot, names =>
    match files.walk follow spot names with
    | .arrived location => .ok location
    | .refused errno => .error errno
    | .link target directory rest =>
      match budget with
      | 0 => .error .tooManyLinks
      | budget + 1 =>
        let start := if target.toList.head? = some '/' then [] else directory
        walkOn files follow budget start (components target ++ rest)

/-- Where a path leads. A link at its end is followed if `follow` is set. In a directory that is gone
nothing is found but itself and what lies above it. -/
def locate (files : FileSystem) (cwd : WorkingDirectory) (follow : Bool) (path : String) :
    Except Errno Location :=
  if path = "" then .error .noEntry
  else if path.utf8ByteSize ≥ pathLimit then .error .nameTooLong
  else
    let names := components path
    if path.toList.head? = some '/' then files.walkOn follow mostLinks [] names
    else if files.isAlive cwd then files.walkOn follow mostLinks cwd.spot names
    else
      match names.dropWhile (· = ".") with
      | [] => .ok .gone
      | ".." :: rest =>
        if files.isDirectory cwd.spot.dropLast then
          files.walkOn follow mostLinks cwd.spot.dropLast rest
        else .error .noEntry
      | _ => .error .noEntry

/-- The text of a spot as an absolute path. -/
def spotText (spot : Spot) : String :=
  "/" ++ "/".intercalate spot

end FileSystem

end Bookbinder
