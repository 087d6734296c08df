import Bookbinder.FileSystem.Operations

/-!
The text of a path with its links followed, whether or not anything stands at its end. A link that leads
back to itself is left as it is, with all that comes after it.
-/

set_option autoImplicit false

namespace Bookbinder.FileSystem

/-- Where a link at a path points. Whatever cannot be looked at is no link. -/
def linkTarget? (files : FileSystem) (cwd : WorkingDirectory) (path : String) : Option String :=
  match files.locate cwd false path with
  | .ok (.occupied spot) =>
    match files.entryAt? spot with
    | some (.symlink target) => some target
    | _ => none
  | _ => none

/-- Links that were met. A link has no path as long as it is being followed. -/
abbrev Met := List (String × Option String)

/-- What a row of parts comes to. It is not complete if a link on the way leads back to itself. -/
structure Resolution where
  path : String
  complete : Bool
  met : Met
  deriving Repr

/-- One step up. What is above a path that only goes up is further up. -/
def stepUp (path : String) : String :=
  if path = "" then ".."
  else
    match PathText.split path with
    | (head, "..") => PathText.join (PathText.join head "..") ".."
    | (head, _) => head

/-- Where the target of a link starts, and its parts. -/
def linkStart (path target : String) : String × List String :=
  if PathText.isAnchored target then ("/", PathText.parts (String.ofList (target.toList.drop 1)))
  else (path, PathText.parts target)

/-- Follows parts from a path on. `follow` resolves the target of a link, unless no more links can be
followed within others. -/
def resolveParts (files : FileSystem) (cwd : WorkingDirectory)
    (follow : Option (String → List String → Met → Resolution)) (path : String) (parts : List String)
    (met : Met) : Resolution :=
  match parts with
  | [] => ⟨path, true, met⟩
  | part :: rest =>
    if part = "" ∨ part = "." then resolveParts files cwd follow path rest met
    else if part = ".." then resolveParts files cwd follow (stepUp path) rest met
    else
      let here := PathText.join path part
      match files.linkTarget? cwd here with
      | none => resolveParts files cwd follow here rest met
      | some target =>
        let stuck : Resolution := ⟨PathText.join here ("/".intercalate rest), false, met⟩
        match Pairs.get? met here with
        | some (some known) => resolveParts files cwd follow known rest met
        | some none => stuck
        | none =>
          match follow with
          | none => stuck
          | some inside =>
            let (start, inner) := linkStart path target
            let found := inside start inner (Pairs.put met here none)
            if found.complete then
              resolveParts files cwd follow found.path rest (Pairs.put found.met here found.path)
            else ⟨PathText.join found.path ("/".intercalate rest), false, found.met⟩

/-- Follows parts from a path on. `depth` bounds how many links are followed within others. -/
def resolve (files : FileSystem) (cwd : WorkingDirectory) :
    Nat → String → List String → Met → Resolution
  | 0 => resolveParts files cwd none
  | depth + 1 => resolveParts files cwd (some (resolve files cwd depth))

/-- A link may be met under a few texts at most: seen from the root, from the current directory, and
from above that. -/
def textsOfLink : Nat := 4

/-- How deep links can lie within links. -/
def linkDepth (files : FileSystem) : Nat := textsOfLink * (files.entries.length + 1)

/-- The absolute text of a path, its links followed. -/
def realPath (files : FileSystem) (cwd : WorkingDirectory) (path : String) :
    Except Errno String :=
  let (start, parts) := linkStart "" path
  let found := (files.resolve cwd files.linkDepth start parts []).path
  if PathText.isAnchored found then .ok (PathText.normalise found)
  else if files.isAlive cwd then
    .ok (PathText.normalise (PathText.join (spotText cwd.spot) found))
  else .error .noEntry

end Bookbinder.FileSystem
