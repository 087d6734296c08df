import Bookbinder.Archive.Listing
import Bookbinder.Machine.Files

/-!
Which members may be extracted into a directory: those that stay inside it, links followed, and whose
links stay inside it too. Devices are kept out, and permissions are limited.
-/

set_option autoImplicit false

namespace Bookbinder.Archive

/-- A member as it is about to be extracted. -/
structure Item where
  member : Member
  name : String
  /-- The permission bits, unless the usual ones are to be taken. -/
  mode : Option Int
  /-- Whose it is to be, unless it is to be the user's. -/
  owner : Option Owner
  /-- For a hard link: where the file stands that it is a second name of, if that has been checked. -/
  existing : Option String
  deriving DecidableEq, Repr

def Item.kind (item : Item) : Kind := item.member.header.kind

def Item.linkName (item : Item) : String := item.member.header.linkName

/-- A member as it is in the archive. -/
def Item.ofMember (member : Member) : Item where
  member := member
  name := member.header.name
  mode := some member.header.mode
  owner := some member.header.owner
  existing := none

/-- The permission bits in a number, set-id bits included. -/
def permissionBits (mode : Int) : Nat := (mode % 0o10000).toNat

/-- Permission bits that are admitted: others may not write, and there are no set-id bits. -/
def permissionMask : Nat := 0o755

/-- What the owner of a file may always do with it. -/
def ownerReadWrite : Nat := 0o600

/-- Permission bits of a file. What its owner may not execute, nobody may. -/
def fileMode (mode : Nat) : Nat :=
  let limited := mode &&& permissionMask
  (if limited.testBit 6 then limited else limited &&& 0o644) ||| ownerReadWrite

/-- The permission bits of a member; directories and links get the usual ones. -/
def admittedMode (header : Header) : Except Fault (Option Int) :=
  match header.kind with
  | .file | .hardLink => .ok (some (fileMode (permissionBits header.mode)))
  | .directory | .symlink => .ok none
  | _ => .error (.specialFile header.name)

def liftFault {α : Type} (result : Except Fault α) : Action α :=
  match result with
  | .ok value => pure value
  | .error fault => throw (.archive fault)

/-- Ends with a fault unless a path, links followed, lies in a directory. -/
def requireInside (directory path : String) (fault : String → Fault) : Action Unit := do
  let place ← Action.realPath path
  if !PathText.leadsInto directory place then throw (.archive (fault place))

/-- The place that a link leads to, as text: a symbolic link starts from its own directory. -/
def linkPlace (kind : Kind) (directory name linkName : String) : String :=
  if kind = .symlink then PathText.join (PathText.join directory (PathText.parent name)) linkName
  else PathText.join directory linkName

/-- Ends with a fault if a member is a link that leads out of a directory. -/
def requireLinkInside (directory name : String) (header : Header) : Action Unit := do
  if header.kind = .symlink ∨ header.kind = .hardLink then
    if PathText.isAnchored header.linkName then throw (.archive (.absoluteLink header.name))
    requireInside directory (linkPlace header.kind directory name header.linkName)
      (.linkOutside header.name)

def withoutFirstSlashes (name : String) : String := String.ofList (name.toList.dropWhile (· = '/'))

/-- A member as it may be extracted into a directory. -/
def permit (directory : String) (member : Member) : Action Item := do
  let header := member.header
  let root ← Action.realPath directory
  let name := withoutFirstSlashes header.name
  requireInside root (PathText.join root name) (.outside header.name)
  let mode ← liftFault (admittedMode header)
  requireLinkInside root name header
  let existing := if header.kind = .hardLink then some (PathText.join directory header.linkName)
    else none
  return { member := member, name := name, mode := mode, owner := none, existing := existing }

/-- An admitted file has no set-id bits, and nobody but its owner may write to it. -/
theorem fileMode_limited (mode : Nat) : fileMode mode &&& 0o7022 = 0 := by
  have masks : (0o755 : Nat) &&& 0o7022 = 0 ∧ (0o600 : Nat) &&& 0o7022 = 0 := by decide
  have limited : (mode &&& 0o755) &&& 0o7022 = 0 := by
    rw [Nat.and_assoc, masks.1, Nat.and_zero]
  have both : ∀ kept, kept &&& 0o7022 = 0 → (kept ||| 0o600) &&& 0o7022 = 0 := by
    intro kept none
    rw [Nat.and_or_distrib_right, none, masks.2, Nat.or_zero]
  apply both
  by_cases owner : (mode &&& permissionMask).testBit 6 = true
  · rw [if_pos owner]
    exact limited
  · rw [if_neg owner, Nat.and_assoc, Nat.and_comm 0o644, ← Nat.and_assoc]
    exact (congrArg (· &&& 0o644) limited).trans (Nat.zero_and _)

end Bookbinder.Archive
