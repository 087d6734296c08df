import Bookbinder.Pairs
import Bookbinder.Text.Utf8

/-!
A file system as a value. Entries stand at spots, which are rows of names from the root without
links or dots; regular files are numbered, so that two entries can be the same file. A directory has
a serial number of its own: one that is made anew at the same spot is another directory.
-/

set_option autoImplicit false

namespace Bookbinder

/-- The names that lead from the root to an entry. -/
abbrev Spot := List String

/-- The reasons for which an operation on files is refused. -/
inductive Errno where
  | notPermitted
  | noEntry
  | notExecutableFormat
  | accessDenied
  | alreadyExists
  | notDirectory
  | isDirectory
  | invalidArgument
  | noSpace
  | nameTooLong
  | tooManyLinks
  deriving DecidableEq, Repr

def Errno.number : Errno → Nat
  | .notPermitted => 1
  | .noEntry => 2
  | .notExecutableFormat => 8
  | .accessDenied => 13
  | .alreadyExists => 17
  | .notDirectory => 20
  | .isDirectory => 21
  | .invalidArgument => 22
  | .noSpace => 28
  | .nameTooLong => 36
  | .tooManyLinks => 40

def Errno.text : Errno → String
  | .notPermitted => "Operation not permitted"
  | .noEntry => "No such file or directory"
  | .notExecutableFormat => "Exec format error"
  | .accessDenied => "Permission denied"
  | .alreadyExists => "File exists"
  | .notDirectory => "Not a directory"
  | .isDirectory => "Is a directory"
  | .invalidArgument => "Invalid argument"
  | .noSpace => "No space left on device"
  | .nameTooLong => "File name too long"
  | .tooManyLinks => "Too many levels of symbolic links"

inductive Entry where
  | directory (serial mode : Nat)
  | file (number : Nat)
  | symlink (target : String)
  /-- The command interpreter of the system. -/
  | shell
  /-- A device that takes everything and gives nothing. -/
  | sink
  deriving DecidableEq, Repr

/-- What a regular file holds, and its permission bits. -/
structure Content where
  bytes : Text.Bytes
  mode : Nat
  deriving DecidableEq, Repr

structure FileSystem where
  entries : List (Spot × Entry)
  contents : List (Nat × Content)
  /-- The next free serial and file number. -/
  next : Nat
  deriving Repr

namespace FileSystem

/-- The permission bits of a new directory. -/
def directoryMode : Nat := 0o755

/-- The permission bits of a new file. -/
def fileMode : Nat := 0o644

def entryAt? (files : FileSystem) (spot : Spot) : Option Entry := Pairs.get? files.entries spot

def content? (files : FileSystem) (number : Nat) : Option Content :=
  Pairs.get? files.contents number

def isDirectory (files : FileSystem) (spot : Spot) : Bool :=
  match files.entryAt? spot with
  | some (.directory _ _) => true
  | _ => false

def putEntry (files : FileSystem) (spot : Spot) (entry : Entry) : FileSystem :=
  { files with entries := Pairs.put files.entries spot entry }

def putContent (files : FileSystem) (number : Nat) (content : Content) : FileSystem :=
  { files with contents := Pairs.put files.contents number content }

def removeEntry (files : FileSystem) (spot : Spot) : FileSystem :=
  { files with entries := Pairs.erase files.entries spot }

/-- Removes an entry and all that lies under it. -/
def removeTree (files : FileSystem) (spot : Spot) : FileSystem :=
  { files with entries := files.entries.filter fun pair => !spot.isPrefixOf pair.1 }

def addFile (files : FileSystem) (spot : Spot) (content : Content) : FileSystem :=
  { (files.putEntry spot (.file files.next)).putContent files.next content with
    next := files.next + 1 }

def addDirectory (files : FileSystem) (spot : Spot) (mode : Nat) : FileSystem :=
  { files.putEntry spot (.directory files.next mode) with next := files.next + 1 }

theorem entryAt?_putEntry (files : FileSystem) (spot other : Spot) (entry : Entry) :
    (files.putEntry spot entry).entryAt? other =
      if spot = other then some entry else files.entryAt? other :=
  Pairs.get?_put files.entries spot other entry

theorem entryAt?_putContent (files : FileSystem) (number : Nat) (content : Content) (spot : Spot) :
    (files.putContent number content).entryAt? spot = files.entryAt? spot := rfl

theorem content?_putContent (files : FileSystem) (number other : Nat) (content : Content) :
    (files.putContent number content).content? other =
      if number = other then some content else files.content? other :=
  Pairs.get?_put files.contents number other content

theorem putContent_putContent (files : FileSystem) (number : Nat) (first second : Content) :
    (files.putContent number first).putContent number second = files.putContent number second := by
  simp only [putContent, Pairs.put_put]

theorem entryAt?_removeEntry (files : FileSystem) (spot other : Spot) :
    (files.removeEntry spot).entryAt? other = if other = spot then none else files.entryAt? other :=
  Pairs.get?_erase files.entries spot other

theorem entryAt?_removeTree (files : FileSystem) (spot other : Spot) :
    (files.removeTree spot).entryAt? other =
      if spot.isPrefixOf other then none else files.entryAt? other := by
  have := Pairs.get?_filter files.entries (fun key => !spot.isPrefixOf key) other
  simp only [entryAt?, removeTree, this]
  cases spot.isPrefixOf other <;> simp

/-- The system before anything is built: the interpreter, the sink and an empty project. -/
def bare (project : Spot) : FileSystem :=
  let base : FileSystem := { entries := [([], .directory 0 directoryMode)], contents := [], next := 1 }
  let base := [["tmp"], ["usr"], ["usr", "bin"], ["dev"]].foldl
    (fun files spot => files.addDirectory spot directoryMode) base
  let base := base.putEntry ["bin"] (.symlink "usr/bin")
  let base := base.putEntry ["usr", "bin", "sh"] .shell
  let base := base.putEntry ["dev", "null"] .sink
  base.addDirectory project directoryMode

end FileSystem

end Bookbinder
