import Bookbinder.Archive.Admission
import Bookbinder.Archive.Copy

/-!
Members of an archive as files. Members are extracted one after the other, and the first that may not be
extracted ends this; those before it stay. A link that cannot be made is replaced by what it stands for.
-/

set_option autoImplicit false

namespace Bookbinder.Archive

open Bookbinder.Compression (Gzip.Cursor)

/-- Extracting, which goes back and forth in the stream of an archive. -/
abbrev Extraction (α : Type) := StateT Gzip.Cursor Action α

namespace Extraction

/-- What extracting comes to, its failure included. After a failure the place in the stream is the one
before. -/
def attempt {α : Type} (extraction : Extraction α) : Extraction (Except Failure α) := fun cursor => do
  match ← Action.attempt (extraction cursor) with
  | .ok (value, cursor) => return (.ok value, cursor)
  | .error failure => return (.error failure, cursor)

/-- Another way to extract in place of one that the operating system refuses. -/
def unlessRefused (extraction fallback : Extraction Unit) : Extraction Unit := do
  match ← attempt extraction with
  | .ok _ => return
  | .error (.refused _ _) => fallback
  | .error failure => throw failure

end Extraction

/-- Writes the data of a member to a file. What was copied before a failure stays. -/
def writeData (archive : Archive) (member : Member) (target : String) : Extraction Unit := do
  let cursor ← liftFault (Listing.seek archive.stream (← get) member.dataStart)
  let copied := copyData archive.stream member.header cursor
  set copied.cursor
  Action.change target fun files cwd => files.writeFile cwd target fun _ => copied.bytes
  if let some failure := copied.failure then throw failure

/-- Permission bits of a directory that are to be set later. -/
def privateMode : Nat := 0o700

/-- Makes a directory; one that is there is left. -/
def makeDirectory (target : String) (mode : Nat) : Action Unit :=
  Action.change target fun files cwd =>
    match files.makeDirectory cwd target mode with
    | .error .alreadyExists =>
      if files.leadsToDirectory cwd target then .ok files else .error .alreadyExists
    | result => result

/-- Makes a symbolic link in place of whatever has its name. -/
def makeSymlink (linkName target : String) : Action Unit := do
  if holdsNul linkName then throw .embeddedNul
  let machine ← get
  if machine.files.isTaken machine.cwd target then
    Action.change target fun files cwd => files.unlink cwd target
  Action.change target fun files cwd => files.makeSymlink cwd linkName target

/-- Devices cannot be made. -/
def makeDevice (target : String) : Action Unit := do
  let machine ← get
  let errno := if machine.files.isTaken machine.cwd target then Errno.alreadyExists
    else .notPermitted
  throw (.refused errno .unnamed)

/-- The name in the archive of what a link stands for. -/
def targetName (item : Item) : String :=
  if item.kind = .symlink then
    "/".intercalate ([PathText.parent item.name, item.linkName].filter (· != ""))
  else item.linkName

/-- The member that a link stands for: the last one of that name, for a hard link among those before
it. -/
def findTarget (archive : Archive) (item : Item) : Except Fault Member :=
  let candidates :=
    if item.kind = .symlink then archive.members
    else archive.members.takeWhile fun member => member.start ≠ item.member.start
  let name := PathText.normalise (targetName item)
  match candidates.reverse.find? fun member => PathText.normalise member.header.name == name with
  | some member => .ok member
  | none => .error (.missingTarget (targetName item))

/-- How an item is extracted to a path, and whether its permissions are set then. -/
abbrev Extractor := Item → String → Bool → Extraction Unit

/-- Extracts what a link stands for in its place. -/
def extractTarget (archive : Archive) (extract : Extractor) (item : Item) (target : String) :
    Extraction Unit := do
  let member ← liftFault (findTarget archive item)
  extract (Item.ofMember member) target true

/-- The same for a link that cannot be made: without a target it is left out. -/
def replaceLink (archive : Archive) (extract : Extractor) (item : Item) (target : String) :
    Extraction Unit := do
  match ← Extraction.attempt (extractTarget archive extract item target) with
  | .ok _ => return
  | .error (.archive (.missingTarget _)) => throw (.archive .leftOut)
  | .error failure => throw failure

/-- Makes a second name of a file that is there, or else extracts the file once more. -/
def makeHardLink (archive : Archive) (extract : Extractor) (item : Item) (target : String) :
    Extraction Unit :=
  match item.existing with
  | none => replaceLink archive extract item target
  | some existing => do
    let machine ← getThe Machine
    let link : Extraction Unit :=
      if machine.files.leadsSomewhere machine.cwd existing then
        Action.change target fun files cwd => files.makeHardLink cwd existing target
      else extractTarget archive extract item target
    Extraction.unlessRefused link (replaceLink archive extract item target)

/-- The numbers of users and groups are below this. -/
def ownerLimit : Int := 0x100000000

/-- Numbers that are not below this are too great for any use of them. -/
def wideLimit : Int := 0x8000000000000000

/-- What is wrong with the number of a user or a group; -1 stands for the one that is there. -/
def OwnerPart.fault? (part : OwnerPart) (number : Int) : Option Fault :=
  if -1 ≤ number ∧ number < ownerLimit then none
  else if number < wideLimit then some (.overflow (.ownerBelow part))
  else some (.overflow (.ownerAbove part))

def Owner.fault? (owner : Owner) : Option Fault :=
  (OwnerPart.fault? .user owner.user).or (OwnerPart.fault? .group owner.group)

/-- Half of the numbers that permission bits can be given in. -/
def modeLimit : Int := 0x80000000

/-- Sets the permission bits of what a path leads to. -/
def setPermissions (target : String) (mode : Int) : Action Unit := do
  if mode < -modeLimit ∨ modeLimit ≤ mode then throw (.archive (.overflow .permissions))
  Action.change target fun files cwd => files.setMode cwd target (permissionBits mode)

def failIf (fault : Option Fault) : Action Unit :=
  match fault with
  | some fault => throw (.archive fault)
  | none => pure ()

/-- Gives what was extracted its owner, permissions and time. If it leads nowhere it is left as it
is. -/
def settle (item : Item) (target : String) : Action Unit := do
  failIf (item.owner.bind Owner.fault?)
  let machine ← get
  let present := if item.kind = .symlink then machine.files.isTaken machine.cwd target
    else machine.files.leadsSomewhere machine.cwd target
  if !present then throw (.archive .leftOut)
  if item.kind ≠ .symlink then
    if let some mode := item.mode then setPermissions target mode
    failIf item.member.header.time.fault?

/-- Makes what an item is. -/
def place (archive : Archive) (extract : Extractor) (item : Item) (target : String) :
    Extraction Unit :=
  match item.kind with
  | .directory =>
    makeDirectory target (if item.mode.isSome then privateMode else FileSystem.directoryMode)
  | .symlink =>
    Extraction.unlessRefused (makeSymlink item.linkName target)
      (replaceLink archive extract item target)
  | .hardLink => makeHardLink archive extract item target
  | .device => makeDevice target
  | _ => writeData archive item.member target

/-- Extracts an item to a path. More links than `depth` that stand for links have no end. -/
def extractItem (archive : Archive) : Nat → Extractor
  | 0, _, _, _ => throw (.archive .endlessLinks)
  | depth + 1, item, path, settled => do
    let target := PathText.withoutFinalSlashes path
    let parent := PathText.parent target
    let machine ← getThe Machine
    if parent ≠ "" ∧ !machine.files.leadsSomewhere machine.cwd parent then
      Action.provideDirectory parent
    place archive (extractItem archive depth) item target
    if settled then settle item target

/-- Extracts a member into a directory if it may be, and gives it as it was admitted. Among as many links
as there are members, one comes again. -/
def extractMember (archive : Archive) (directory : String) (member : Member) : Extraction Item := do
  let item ← permit directory member
  let path := PathText.join directory item.name
  let depth := archive.members.length + 2
  match ← Extraction.attempt (extractItem archive depth item path (item.kind ≠ .directory)) with
  | .ok _ | .error (.archive .leftOut) => return item
  | .error failure => throw failure

def extractMembers (archive : Archive) (directory : String) : List Member → Extraction (List Item)
  | [] => return []
  | member :: members => do
    let item ← extractMember archive directory member
    return item :: (← extractMembers archive directory members)

/-- Directories get their times last, the last name first, since what is put into them changes these. One
that leads nowhere has none. -/
def settleDirectories (directory : String) (items : List Item) : Action Unit :=
  (items.mergeSort fun first second => second.name ≤ first.name).forM fun item => do
    let machine ← get
    if machine.files.leadsSomewhere machine.cwd (PathText.join directory item.name) then
      failIf item.member.header.time.fault?

end Bookbinder.Archive

namespace Bookbinder

/-- Extracts an archive into a directory. -/
def Archive.extract (archive : Archive) (directory : String) : Action Unit := do
  let extraction := Archive.extractMembers archive directory archive.members
  let (items, _) ← extraction.run archive.cursor
  Archive.settleDirectories directory (items.filter fun item => item.kind = .directory)

end Bookbinder
