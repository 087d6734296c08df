import Mathlib.Data.List.DropRight
import Bookbinder.Proofs.Archive.Containment
import Bookbinder.Proofs.Archive.Faults
import Bookbinder.Proofs.Archive.Replacement

/-!
The permission bits of files that are extracted. Main statement: after all members, or after the first that
may not be extracted, each file has limited bits or is as it was before, unless data could not be copied to
their end or a link could not be made.
-/

set_option autoImplicit false

namespace Bookbinder.Archive

open Compression (Gzip.Stream Gzip.Cursor)
open FileSystem (AllFiles)

/-! ### Bits that are limited -/

/-- No set-id bits, not the sticky bit, nobody but the owner may write, and the owner may read and write. -/
def IsLimited (mode : Nat) : Prop := mode &&& 0o7022 = 0 ∧ mode &&& ownerReadWrite = ownerReadWrite

instance (mode : Nat) : Decidable (IsLimited mode) := inferInstanceAs (Decidable (_ ∧ _))

theorem isLimited_fileMode (mode : Nat) : IsLimited (fileMode mode) := by
  refine ⟨fileMode_limited mode, ?_⟩
  unfold fileMode
  rw [Nat.and_or_distrib_right, Nat.and_self]
  refine Nat.eq_of_testBit_eq fun place => ?_
  simp only [Nat.testBit_or, Nat.testBit_and]
  cases ownerReadWrite.testBit place <;> simp

theorem permissionBits_fileMode (mode : Nat) : permissionBits (fileMode mode) = fileMode mode := by
  have small := fileMode_lt mode
  unfold permissionBits
  omega

/-! ### Members as they are admitted -/

/-- What a member is admitted as, wherever its names lead. -/
structure IsAdmittedAs (directory : String) (member : Member) (item : Item) : Prop where
  same : item.member = member
  owner : item.owner = none
  mode : admittedMode member.header = .ok item.mode
  existing : item.existing =
    if item.kind = .hardLink then some (PathText.join directory item.linkName) else none

theorem meets_permit_as (directory : String) (member : Member) {kept : Machine → Prop} :
    Action.Meets kept (permit directory member)
      (fun item machine => kept machine ∧ IsAdmittedAs directory member item) kept := by
  unfold permit
  refine (Action.meets_realPath directory).bind fun root => ?_
  refine (meets_requireInside (fun _ holds => holds.1) _ _ _).bind fun _ => ?_
  have mode : Action.Meets (fun machine => kept machine) (liftFault (admittedMode member.header))
      (fun mode machine => kept machine ∧ admittedMode member.header = .ok mode) kept := by
    cases admitted : admittedMode member.header with
    | ok mode => exact Action.meets_pure fun _ holds => ⟨holds, rfl⟩
    | error fault => exact Action.meets_throw fun _ holds => holds
  refine (mode.weaken (fun _ holds => holds.1.1) (fun _ _ holds => holds) fun _ holds => holds).bind
    fun mode => ?_
  refine (meets_requireLinkInside (fun _ holds => holds.1) _ _ _).bind fun _ => ?_
  exact Action.meets_pure fun machine holds => ⟨holds.1.1, rfl, rfl, holds.1.2, rfl⟩

namespace IsAdmittedAs

variable {directory : String} {member : Member} {item : Item}

theorem kind (admitted : IsAdmittedAs directory member item) :
    item.kind = .directory ∨ item.kind = .symlink ∨ item.kind = .hardLink ∨ item.kind = .file := by
  have mode := admitted.mode
  rw [Item.kind, admitted.same]
  unfold admittedMode at mode
  split at mode
  · next file => exact .inr (.inr (.inr file))
  · next hardLink => exact .inr (.inr (.inl hardLink))
  · next directory => exact .inl directory
  · next symlink => exact .inr (.inl symlink)
  · cases mode

/-- Directories and symbolic links are admitted without bits, the others with limited ones. -/
theorem limited (admitted : IsAdmittedAs directory member item) (noDirectory : item.kind ≠ .directory)
    (noSymlink : item.kind ≠ .symlink) : ∃ mode : Nat, item.mode = some (fileMode mode : Int) := by
  have mode := admitted.mode
  rw [Item.kind, admitted.same] at noDirectory noSymlink
  unfold admittedMode at mode
  split at mode
  · exact ⟨_, (Except.ok.inj mode).symm⟩
  · exact ⟨_, (Except.ok.inj mode).symm⟩
  · next directory => exact absurd directory noDirectory
  · next symlink => exact absurd symlink noSymlink
  · cases mode

end IsAdmittedAs

/-! ### Data that are copied -/

variable {good : Spot → Nat → Content → Prop} {target : String} {bits : Nat → Prop}

/-- Copying the data of an item breaks off, where reading goes on from some place of the stream. -/
def BreaksOff (archive : Archive) (member : Member) (cursor : Gzip.Cursor) : Prop :=
  ∃ start, Listing.seek archive.stream cursor member.dataStart = .ok start ∧
    (copyData archive.stream member.header start).failure.isSome = true

theorem wholePiece_ne_leftOut {stream : Gzip.Stream} {cursor : Gzip.Cursor} {size : Nat} {fault : Fault}
    (failed : wholePiece stream cursor size = .error fault) : fault ≠ .leftOut := by
  unfold wholePiece at failed
  split at failed
  · cases failed
    simp
  · split at failed <;> cases failed
    simp

theorem copyPieces_ne_leftOut (stream : Gzip.Stream) (last count : Nat) (cursor : Gzip.Cursor) :
    (copyPieces stream last count cursor).failure ≠ some (.archive .leftOut) := by
  induction count generalizing cursor with
  | zero =>
    rw [copyPieces]
    split
    · simp
    · unfold copyPiece
      split
      · next failed => simpa using wholePiece_ne_leftOut failed
      · simp
  | succ count ih =>
    rw [copyPieces]
    split
    · next failed => simpa using wholePiece_ne_leftOut failed
    · exact ih _

theorem placeFailure_ne_leftOut (place : Int) : placeFailure? place ≠ some (.archive .leftOut) := by
  unfold placeFailure?
  split
  · nofun
  · split <;> nofun

theorem copyRuns_ne_leftOut (stream : Gzip.Stream) (size : Int) (runs : List Run) {copied : Copied}
    (whole : copied.failure ≠ some (.archive .leftOut)) :
    (copyRuns stream size runs copied).failure ≠ some (.archive .leftOut) := by
  induction runs generalizing copied with
  | nil =>
    rw [copyRuns]
    split
    · next failure failed =>
      rw [← failed]
      exact placeFailure_ne_leftOut size
    · exact whole
  | cons run runs ih =>
    have piece := copyPieces_ne_leftOut stream (run.length % copySize).toNat (run.length / copySize).toNat
      copied.cursor
    rw [copyRuns]
    split
    · next failure failed =>
      rw [← failed]
      exact placeFailure_ne_leftOut run.offset
    · dsimp only
      split
      · exact piece
      · exact ih piece

theorem copyData_ne_leftOut (stream : Gzip.Stream) (header : Header) (cursor : Gzip.Cursor) :
    (copyData stream header cursor).failure ≠ some (.archive .leftOut) := by
  unfold copyData
  split
  · exact copyPieces_ne_leftOut stream _ _ cursor
  · exact copyRuns_ne_leftOut stream _ _ nofun

/-- The file that the path of an item leads to has the bits that it had, if it was there. -/
def AllButKept (good : Spot → Nat → Content → Prop) (target : String) (machine : Machine) : Prop :=
  AllFiles (fun spot number content => good spot number content ∨
    (machine.Names target number ∧ ∃ old, old.mode = content.mode ∧ good spot number old)) machine.files

theorem yields_writeData {archive : Archive} {member : Member} {cursor : Gzip.Cursor}
    (new : ∀ spot number content, content.mode = FileSystem.fileMode → good spot number content) :
    Extraction.Yields (fun here machine => here = cursor ∧ AllGood good machine)
      (writeData archive member target) (fun _ _ => AllElse good target fun _ => True)
      (fun failure machine => (failure = .archive .leftOut → AllGood good machine) ∧
        (AllGood good machine ∨ BreaksOff archive member cursor ∧ AllButKept good target machine)) := by
  have write (bytes : Text.Bytes) : Action.Yields (AllGood good)
      (Action.change target fun files cwd => files.writeFile cwd target fun _ => bytes)
      (fun _ => AllButKept good target) (fun _ => AllGood good) := by
    refine Action.yields_change (fun machine files all clean written => ?_) (fun _ _ all _ => all)
      fun _ all _ => all
    refine FileSystem.AllFiles.mono (FileSystem.allFiles_writeFile all written) ?_
    rintro spot number content (holds | ⟨leads, isNew | old⟩)
    · exact .inl holds
    · exact .inl (new spot number content isNew)
    · exact .inr ⟨⟨clean, leads⟩, old⟩
  refine Extraction.yields_cursor fun here => ?_
  have sought : Action.Yields (AllGood good) (liftFault (Listing.seek archive.stream cursor member.dataStart))
      (fun start machine => AllGood good machine ∧
        Listing.seek archive.stream cursor member.dataStart = .ok start)
      (fun failure machine => (failure = .archive .leftOut → AllGood good machine) ∧
        (AllGood good machine ∨ BreaksOff archive member cursor ∧ AllButKept good target machine)) := by
    cases Listing.seek archive.stream cursor member.dataStart with
    | ok start => exact Action.yields_pure fun _ all => ⟨all, rfl⟩
    | error fault => exact Action.yields_throw fun _ all => ⟨fun _ => all, .inl all⟩
  refine Extraction.Yields.knowing (fun _ _ holds => holds.1.symm.trans holds.2.1) fun same => ?_
  subst same
  refine (Extraction.yields_lift fun _ => sought.weaken (fun _ holds => holds.2.2) (fun _ _ holds => holds)
    fun _ _ holds => holds).bind fun start => ?_
  refine Extraction.Yields.knowing (fun _ _ holds => holds.2) fun start_eq => ?_
  have moved : Extraction.Yields (fun _ machine => AllGood good machine ∧
        Listing.seek archive.stream here member.dataStart = .ok start)
      (set (copyData archive.stream member.header start).cursor : Extraction Unit)
      (fun _ _ => AllGood good)
      (fun failure machine => (failure = .archive .leftOut → AllGood good machine) ∧
        (AllGood good machine ∨ BreaksOff archive member here ∧ AllButKept good target machine)) :=
    ⟨fun _ => Action.yields_pure fun _ holds => holds.1⟩
  refine moved.bind fun _ => ?_
  refine (Extraction.yields_lift fun _ => (write _).weaken (fun _ all => all) (fun _ _ holds => holds)
    fun _ _ all => ⟨fun _ => all, .inl all⟩).bind fun _ => ?_
  split
  · next failure failed =>
    refine Extraction.yields_throw fun _ _ kept => ⟨?_, .inr ⟨⟨start, start_eq, by rw [failed]; rfl⟩, kept⟩⟩
    rintro rfl
    exact absurd failed (copyData_ne_leftOut _ _ _)
  · exact Extraction.yields_pure fun _ _ kept =>
      FileSystem.AllFiles.mono kept fun _ _ _ => Or.imp_right fun named => ⟨trivial, named.1⟩

/-! ### Items in their turn -/

/-- A link that cannot be made at a path, so that what it stands for is extracted in its place. -/
inductive IsUnmade (item : Item) (target : String) (machine : Machine) : Prop
  | symlink {errno : Errno} {subject : Subject} :
    item.kind = .symlink →
    (Action.perform (makeSymlink item.linkName target) machine).1 = .error (.refused errno subject) →
    IsUnmade item target machine
  | nowhere {existing : String} :
    item.kind = .hardLink → item.existing = some existing →
    machine.files.leadsSomewhere machine.cwd existing = false → IsUnmade item target machine
  | hardLink {existing : String} {errno : Errno} {subject : Subject} :
    item.kind = .hardLink → item.existing = some existing →
    (Action.perform (Action.change target fun files cwd => files.makeHardLink cwd existing target)
      machine).1 = .error (.refused errno subject) →
    IsUnmade item target machine

/-- The bits of the members that a link stands for. -/
def StoodBits (archive : Archive) (item : Item) (mode : Nat) : Prop :=
  ∃ other, StandsFor archive item other ∧ mode = permissionBits other.header.mode

section

variable {archive : Archive} {extract : Extractor} {item : Item} {there : Machine}

/-- An item with limited bits gives these to the file that its path leads to, if there is one. -/
theorem yields_settle_limited (limited : ∀ spot number content, IsLimited content.mode → good spot number content)
    (owner : item.owner = none) (link : item.kind ≠ .symlink) {mode : Nat}
    (given : item.mode = some (fileMode mode : Int)) :
    Action.Yields (AllElse good target bits) (settle item target) (fun _ => AllGood good)
      (fun _ => AllGood good) := by
  have set : Action.Yields (AllElse good target bits)
      (Action.change target fun files cwd => files.setMode cwd target (fileMode mode))
      (fun _ => AllGood good) (fun _ => AllGood good) := by
    refine (yields_setMode (fileMode mode)).weaken (fun _ else_ => else_) (fun _ _ else_ => ?_)
      fun _ _ all => all
    refine FileSystem.AllFiles.mono else_ ?_
    rintro spot number content (holds | ⟨same, _⟩)
    · exact holds
    · exact limited spot number content (same ▸ isLimited_fileMode mode)
  have small := fileMode_lt mode
  have fits : ¬ ((fileMode mode : Int) < -modeLimit ∨ modeLimit ≤ (fileMode mode : Int)) := by
    simp only [modeLimit]
    omega
  refine yields_settle (fun fault failed => ?_) (fun _ all => all) ?_
  · rw [owner] at failed
    cases failed
  · unfold settlePresent
    rw [if_pos link, given]
    dsimp only
    unfold setPermissions
    rw [if_neg fits, permissionBits_fileMode]
    exact set.bind fun _ => (keeps_failIf _).yields

/-- What is extracted where a link cannot be made. -/
theorem yields_instead (loose : IsLoose good) (plain : PathText.withoutFinalSlashes target = target)
    {depth : Nat} (stood : ∀ mode, StoodBits archive item mode → bits mode) (member : Member)
    (found : findTarget archive item = .ok member) :
    Extraction.Yields (fun _ => AllGood good) (extractItem archive depth (Item.ofMember member) target true)
      (fun _ _ => AllElse good target bits) (AfterFailure good target bits) :=
  yields_extractItem loose plain (stood _ ⟨member, .target found, rfl⟩)
    fun other stands => stood _ ⟨other, .onward found stands, rfl⟩

/-- Where a symbolic link cannot be made, the bits of what it stands for may be left. -/
theorem yields_symlink (kind : item.kind = .symlink) (plain : PathText.withoutFinalSlashes target = target)
    {depth : Nat} (loose : IsUnmade item target there → IsLoose good)
    (stood : IsUnmade item target there → ∀ spot number content,
      StoodBits archive item content.mode → good spot number content) :
    Extraction.Yields (fun _ machine => machine = there ∧ AllGood good machine)
      (place archive (extractItem archive depth) item target) (fun _ _ => AllGood good)
      (fun _ => AllGood good) := by
  have made : Action.Yields (fun machine => machine = there ∧ AllGood good machine)
      (makeSymlink item.linkName target) (fun _ => AllGood good) (fun _ => AllGood good) :=
    (keepsFiles_makeSymlink item.linkName).yields.weaken (fun _ holds => holds.2) (fun _ _ all => all)
      fun _ _ all => all
  unfold place
  rw [kind]
  refine Extraction.Yields.unlessRefused
    ((Extraction.yields_lift fun _ => made.told).weaken (fun _ _ holds => holds)
      (fun _ _ _ holds => holds.1) fun _ _ holds => holds) (fun errno subject => ?_)
    fun _ _ _ holds => holds.1
  refine Extraction.Yields.knowing
    (fun _ _ holds => IsUnmade.symlink kind (congrArg Prod.fst holds.2)) fun unmade => ?_
  have replaced : Extraction.Yields (fun _ => AllGood good)
      (replaceLink archive (extractItem archive depth) item target)
      (fun _ _ => AllElse good target (StoodBits archive item))
      (AfterFailure good target (StoodBits archive item)) :=
    yields_replaceLink (yields_instead (loose unmade) plain fun _ stands => stands)
  have settles {machine : Machine} (else_ : AllElse good target (StoodBits archive item) machine) :
      AllGood good machine :=
    FileSystem.AllFiles.mono else_ fun spot number content either =>
      either.elim id fun named => stood unmade spot number content named.1
  exact replaced.weaken (fun _ _ holds => holds.1) (fun _ _ _ else_ => settles else_)
    fun _ _ ended => settles ended.1

/-- A hard link is made, or what it stands for is extracted in its place: the file that its path leads to
has bits of its own until it is settled. -/
theorem yields_hardLink (kind : item.kind = .hardLink) {existing : String}
    (checked : item.existing = some existing) (plain : PathText.withoutFinalSlashes target = target)
    {depth : Nat} (loose : IsUnmade item target there → IsLoose good) :
    Extraction.Yields (fun _ machine => machine = there ∧ AllGood good machine)
      (place archive (extractItem archive depth) item target) (fun _ _ => AllElse good target fun _ => True)
      (fun failure machine => AllGood good machine ∨
        (IsUnmade item target there ∧ AfterFailure good target (StoodBits archive item) failure machine)) := by
  have linked : Action.Yields (fun machine => machine = there ∧ AllGood good machine)
      (Action.change target fun files cwd => files.makeHardLink cwd existing target)
      (fun _ => AllElse good target fun _ => True) (fun _ => AllGood good) :=
    Action.yields_change
      (fun machine files holds clean made => FileSystem.AllFiles.mono
        (FileSystem.allFiles_makeHardLink holds.2 made)
        fun _ _ _ => Or.imp_right fun leads => ⟨trivial, clean, leads⟩)
      (fun _ _ holds _ => holds.2) fun _ holds _ => holds.2
  have instead (unmade : IsUnmade item target there) (member : Member)
      (found : findTarget archive item = .ok member) : Extraction.Yields (fun _ => AllGood good)
        (extractItem archive depth (Item.ofMember member) target true)
        (fun _ _ => AllElse good target (StoodBits archive item))
        (AfterFailure good target (StoodBits archive item)) :=
    yields_instead (loose unmade) plain (fun _ stands => stands) member found
  have fallback (unmade : IsUnmade item target there) : Extraction.Yields (fun _ => AllGood good)
      (replaceLink archive (extractItem archive depth) item target)
      (fun _ _ => AllElse good target fun _ => True)
      (fun failure machine => AllGood good machine ∨
        (IsUnmade item target there ∧ AfterFailure good target (StoodBits archive item) failure machine)) :=
    (yields_replaceLink (instead unmade)).weaken (fun _ _ all => all)
      (fun _ _ _ else_ => else_.mono fun _ _ => trivial) fun _ _ ended => .inr ⟨unmade, ended⟩
  unfold place
  rw [kind]
  dsimp only
  unfold makeHardLink
  rw [checked]
  dsimp only
  refine Extraction.yields_machine fun machine => ?_
  refine Extraction.Yields.knowing (fun _ _ holds => holds.1.symm.trans holds.2.1) fun same => ?_
  subst same
  cases leads : machine.files.leadsSomewhere machine.cwd existing with
  | true =>
    rw [if_pos rfl]
    refine Extraction.Yields.unlessRefused
      ((Extraction.yields_lift fun _ => linked.told).weaken (fun _ _ holds => holds.2)
        (fun _ _ _ holds => holds.1) fun _ _ holds => holds) (fun errno subject => ?_)
      fun _ _ _ holds => .inl holds.1
    refine Extraction.Yields.knowing
      (fun _ _ holds => IsUnmade.hardLink kind checked (congrArg Prod.fst holds.2)) fun unmade => ?_
    exact (fallback unmade).weaken (fun _ _ holds => holds.1) (fun _ _ _ holds => holds) fun _ _ holds => holds
  | false =>
    have unmade : IsUnmade item target machine := .nowhere kind checked leads
    rw [if_neg (by simp)]
    refine Extraction.Yields.unlessRefused
      ((yields_extractTarget (instead unmade)).weaken (fun _ _ holds => holds.2.2)
        (fun _ _ _ else_ => else_.mono fun _ _ => trivial) fun _ _ ended => ended)
      (fun errno subject => ?_) fun _ _ _ ended => .inr ⟨unmade, ended⟩
    exact (fallback unmade).weaken (fun _ _ ended => ended.2 trivial) (fun _ _ _ holds => holds)
      fun _ _ holds => holds

/-- What may be left of an item that could not be extracted: its data could not be copied to their end, or
what a hard link stands for was given up half-way. -/
def IsLeft (good : Spot → Nat → Content → Prop) (archive : Archive) (item : Item) (target : String)
    (cursor : Gzip.Cursor) (there machine : Machine) : Prop :=
  (item.kind = .file ∧ BreaksOff archive item.member cursor ∧ AllButKept good target machine) ∨
    (item.kind = .hardLink ∧ IsUnmade item target there ∧
      AllElse good target (StoodBits archive item) machine)

/-- After an item that could not be extracted. Nothing is left of one that is left out. -/
def AfterItem (good : Spot → Nat → Content → Prop) (archive : Archive) (item : Item) (target : String)
    (cursor : Gzip.Cursor) (there : Machine) (failure : Failure) (machine : Machine) : Prop :=
  (failure = .archive .leftOut → AllGood good machine) ∧
    (AllGood good machine ∨ IsLeft good archive item target cursor there machine)

theorem AllGood.afterItem {machine : Machine} {cursor : Gzip.Cursor} (all : AllGood good machine)
    (failure : Failure) : AfterItem good archive item target cursor there failure machine :=
  ⟨fun _ => all, .inl all⟩

/-- The machine when the directory that a path stands in has been provided. -/
def provided (target : String) (machine : Machine) : Machine :=
  (Action.perform (provideParent target) machine).2

/-- An item in its turn, by its kind. -/
theorem yields_placeSettled {directory : String} {member : Member} {cursor : Gzip.Cursor} {depth : Nat}
    (admitted : IsAdmittedAs directory member item) (plain : PathText.withoutFinalSlashes target = target)
    (limited : ∀ spot number content, IsLimited content.mode → good spot number content)
    (loose : IsUnmade item target there → IsLoose good)
    (stood : IsUnmade item target there → item.kind = .symlink → ∀ spot number content,
      StoodBits archive item content.mode → good spot number content) :
    Extraction.Yields (fun here machine => here = cursor ∧ machine = there ∧ AllGood good machine)
      (placeSettled archive (extractItem archive depth) item target (item.kind ≠ .directory))
      (fun _ _ => AllGood good) (AfterItem good archive item target cursor there) := by
  have settling (link : item.kind ≠ .symlink) (noDirectory : item.kind ≠ .directory) :
      Extraction.Yields (fun _ => AllElse good target fun _ => True) (liftM (settle item target))
        (fun _ _ => AllGood good) (AfterItem good archive item target cursor there) := by
    obtain ⟨mode, given⟩ := admitted.limited noDirectory link
    exact Extraction.yields_lift fun _ =>
      (yields_settle_limited limited admitted.owner link given).weaken (fun _ else_ => else_)
        (fun _ _ all => all) fun failure _ all => all.afterItem failure
  unfold placeSettled
  rcases admitted.kind with kind | kind | kind | kind
  · have made : Extraction.Yields (fun _ => AllGood good)
        (liftM (makeDirectory target (if item.mode.isSome then privateMode else FileSystem.directoryMode)))
        (fun _ _ => AllGood good) (fun _ => AllGood good) :=
      (Extraction.meets_lift (keepsFiles_makeDirectory _)).yields
    simp only [place, kind]
    exact (made.weaken (fun _ _ holds => holds.2.2) (fun _ _ _ all => all)
      fun failure _ all => all.afterItem failure).bind fun _ => Extraction.yields_pure fun _ _ all => all
  · have made : Extraction.Yields (fun _ machine => machine = there ∧ AllGood good machine)
        (place archive (extractItem archive depth) item target) (fun _ _ => AllGood good)
        (fun _ => AllGood good) :=
      yields_symlink kind plain loose fun unmade => stood unmade kind
    have kept : Action.Keeps (AllGood good) (settle item target) :=
      keeps_settle fun link => absurd kind link
    refine (made.weaken (fun _ _ holds => holds.2) (fun _ _ _ all => all)
      fun failure _ all => all.afterItem failure).bind fun _ => ?_
    rw [if_pos (by simp [kind])]
    exact (Extraction.meets_lift kept).yields.weaken (fun _ _ all => all) (fun _ _ _ all => all)
      fun failure _ all => all.afterItem failure
  · have checked : item.existing = some (PathText.join directory item.linkName) := by
      rw [admitted.existing, if_pos kind]
    refine ((yields_hardLink kind checked plain loose).weaken (fun _ _ holds => holds.2)
      (fun _ _ _ else_ => else_) ?_).bind fun _ => ?_
    · rintro failure machine (all | ⟨unmade, ended⟩)
      · exact all.afterItem failure
      · exact ⟨fun same => ended.2 (same ▸ trivial), .inr (.inr ⟨kind, unmade, ended.1⟩)⟩
    · rw [if_pos (by simp [kind])]
      exact settling (by simp [kind]) (by simp [kind])
  · have new (spot : Spot) (number : Nat) (content : Content) (new : content.mode = FileSystem.fileMode) :
        good spot number content := limited spot number content (new ▸ by decide)
    simp only [place, kind]
    refine ((yields_writeData new).weaken (fun _ _ holds => ⟨holds.1, holds.2.2⟩)
      (fun _ _ _ else_ => else_) ?_).bind fun _ => ?_
    · rintro failure machine ⟨leftOut, all | kept⟩
      · exact all.afterItem failure
      · exact ⟨leftOut, .inr (.inl ⟨kind, kept⟩)⟩
    · rw [if_pos (by simp)]
      exact settling (by simp [kind]) (by simp [kind])

theorem withoutFinalSlashes_idem (path : String) :
    PathText.withoutFinalSlashes (PathText.withoutFinalSlashes path) = PathText.withoutFinalSlashes path := by
  simp [PathText.withoutFinalSlashes, List.dropWhile_idempotent]

/-- The path to which an item is extracted. -/
def Item.pathIn (item : Item) (directory : String) : String :=
  PathText.withoutFinalSlashes (PathText.join directory item.name)

/-- A link that cannot be made does not matter to files for which something holds. -/
def Tolerates (good : Spot → Nat → Content → Prop) (archive : Archive) (directory : String) (item : Item)
    (now : Machine) : Prop :=
  IsUnmade item (item.pathIn directory) (provided (item.pathIn directory) now) →
    IsLoose good ∧ (item.kind = .symlink → ∀ spot number content,
      StoodBits archive item content.mode → good spot number content)

theorem yields_extractItem_admitted {directory : String} {member : Member} {cursor : Gzip.Cursor}
    {now : Machine} {depth : Nat} (admitted : IsAdmittedAs directory member item)
    (limited : ∀ spot number content, IsLimited content.mode → good spot number content)
    (tolerates : Tolerates good archive directory item now) :
    Extraction.Yields (fun here machine => here = cursor ∧ machine = now ∧ AllGood good machine)
      (extractItem archive (depth + 1) item (PathText.join directory item.name) (item.kind ≠ .directory))
      (fun _ _ => AllGood good)
      (AfterItem good archive item (item.pathIn directory) cursor
        (provided (item.pathIn directory) now)) := by
  have made : Action.Yields (fun machine => machine = now ∧ AllGood good machine)
      (provideParent (item.pathIn directory)) (fun _ => AllGood good) (fun _ => AllGood good) :=
    (keepsFiles_provideParent _).yields.weaken (fun _ holds => holds.2) (fun _ _ all => all) fun _ _ all => all
  have first : Extraction.Yields (fun here machine => here = cursor ∧ machine = now ∧ AllGood good machine)
      (liftM (provideParent (item.pathIn directory)))
      (fun _ here machine =>
        here = cursor ∧ machine = provided (item.pathIn directory) now ∧ AllGood good machine)
      (AfterItem good archive item (item.pathIn directory) cursor
        (provided (item.pathIn directory) now)) := by
    refine Extraction.yields_lift fun here => Action.Yields.knowing (fun _ holds => holds.1) fun same => ?_
    refine made.told.weaken (fun _ holds => holds.2) (fun _ machine holds => ⟨same, ?_, holds.1⟩)
      fun failure _ holds => holds.1.afterItem failure
    rw [provided, holds.2]
  rw [extractItem_succ]
  exact first.bind fun _ => yields_placeSettled admitted (withoutFinalSlashes_idem _) limited
    (fun unmade => (tolerates unmade).1) fun unmade => (tolerates unmade).2

/-- A member in its turn. -/
theorem yields_extractMember {directory : String} {member : Member} {cursor : Gzip.Cursor} {now : Machine}
    (limited : ∀ spot number content, IsLimited content.mode → good spot number content)
    (tolerates : ∀ item, Action.perform (permit directory member) now = (.ok item, now) →
      Tolerates good archive directory item now) :
    Extraction.Yields (fun here machine => here = cursor ∧ machine = now ∧ AllGood good machine)
      (extractMember archive directory member) (fun _ _ => AllGood good)
      (fun _ machine => AllGood good machine ∨
        ∃ item, Action.perform (permit directory member) now = (.ok item, now) ∧
          IsLeft good archive item (item.pathIn directory) cursor
            (provided (item.pathIn directory) now) machine) := by
  have permitted : Action.Yields (fun machine => machine = now ∧ AllGood good machine)
      (permit directory member)
      (fun item machine => (machine = now ∧ AllGood good machine) ∧ IsAdmittedAs directory member item)
      (fun _ machine => machine = now ∧ AllGood good machine) :=
    (meets_permit_as directory member).yields
  have first : Extraction.Yields (fun here machine => here = cursor ∧ machine = now ∧ AllGood good machine)
      (liftM (permit directory member))
      (fun item here machine =>
        ((here = cursor ∧ machine = now ∧ AllGood good machine) ∧ IsAdmittedAs directory member item) ∧
          Action.perform (permit directory member) now = (.ok item, now))
      (fun _ machine => AllGood good machine ∨
        ∃ item, Action.perform (permit directory member) now = (.ok item, now) ∧
          IsLeft good archive item (item.pathIn directory) cursor
            (provided (item.pathIn directory) now) machine) := by
    refine Extraction.yields_lift fun here => Action.Yields.knowing (fun _ holds => holds.1) fun same => ?_
    refine permitted.told.weaken (fun _ holds => holds.2) (fun item machine holds => ?_)
      fun _ _ holds => .inl holds.1.2
    obtain ⟨⟨⟨rfl, all⟩, admitted⟩, performed⟩ := holds
    exact ⟨⟨⟨same, rfl, all⟩, admitted⟩, performed⟩
  refine first.bind fun item => ?_
  · refine Extraction.Yields.knowing (fun _ _ holds => And.intro holds.1.2 holds.2)
      fun ⟨admitted, performed⟩ => ?_
    have extracted : Extraction.Yields
        (fun here machine => here = cursor ∧ machine = now ∧ AllGood good machine)
        (extractItem archive (archive.members.length + 2) item (PathText.join directory item.name)
          (item.kind ≠ .directory))
        (fun _ _ => AllGood good)
        (AfterItem good archive item (item.pathIn directory) cursor
          (provided (item.pathIn directory) now)) :=
      yields_extractItem_admitted admitted limited (tolerates item performed)
    refine ((extracted.weaken (fun _ _ holds => holds.1.1) (fun _ _ _ all => all)
      fun _ _ ended => ended).attempt).bind fun result => ?_
    cases result with
    | ok _ => exact Extraction.yields_pure fun _ _ all => all
    | error failure =>
      have thrown : Extraction.Yields
          (fun _ => AfterItem good archive item (item.pathIn directory) cursor
            (provided (item.pathIn directory) now) failure)
          (throw failure : Extraction Item) (fun _ _ => AllGood good)
          (fun _ machine => AllGood good machine ∨
            ∃ item, Action.perform (permit directory member) now = (.ok item, now) ∧
              IsLeft good archive item (item.pathIn directory) cursor
                (provided (item.pathIn directory) now) machine) :=
        Extraction.yields_throw fun _ _ ended => ended.2.imp_right fun left => ⟨item, performed, left⟩
      cases failure with
      | archive fault =>
        cases fault with
        | leftOut => exact Extraction.yields_pure fun _ _ ended => ended.1 rfl
        | _ => exact thrown
      | _ => exact thrown

end

/-! ### All members, one after the other -/

/-- An item comes to its turn when the members before it have been extracted: from a place in the stream,
and from a machine. -/
inductive Turn (archive : Archive) (directory : String) :
    List Member → Gzip.Cursor → Machine → Item → Gzip.Cursor → Machine → Prop
  | first {member : Member} {rest : List Member} {cursor : Gzip.Cursor} {machine : Machine} {item : Item} :
    Action.perform (permit directory member) machine = (.ok item, machine) →
    Turn archive directory (member :: rest) cursor machine item cursor machine
  | later {member : Member} {rest : List Member} {cursor further there : Gzip.Cursor}
      {machine between now : Machine} {earlier item : Item} :
    Action.perform (extractMember archive directory member cursor) machine =
      (.ok (earlier, further), between) →
    Turn archive directory rest further between item there now →
    Turn archive directory (member :: rest) cursor machine item there now

/-- The induction is on the members; the turns of those to come are turns of the whole run. -/
theorem yields_extractMembers {archive : Archive} {directory : String} {members : List Member}
    {cursor : Gzip.Cursor} {machine : Machine}
    (limited : ∀ spot number content, IsLimited content.mode → good spot number content)
    (tolerates : ∀ item there now, Turn archive directory members cursor machine item there now →
      Tolerates good archive directory item now) :
    Action.Yields (fun same => same = machine ∧ AllGood good same)
      (extractMembers archive directory members cursor) (fun _ => AllGood good)
      (fun _ final => AllGood good final ∨
        ∃ item there now, Turn archive directory members cursor machine item there now ∧
          IsLeft good archive item (item.pathIn directory) there
            (provided (item.pathIn directory) now) final) := by
  induction members generalizing cursor machine with
  | nil => exact Action.yields_pure fun _ holds => holds.2
  | cons member rest ih =>
    have head : Action.Yields (fun same => same = machine ∧ AllGood good same)
        (extractMember archive directory member cursor) (fun _ => AllGood good) _ :=
      ((yields_extractMember limited fun item permitted =>
        tolerates item cursor machine (.first permitted)).ends cursor).weaken
          (fun _ holds => ⟨rfl, holds⟩) (fun _ _ all => all) fun _ _ ended => ended
    refine (head.told.weaken (fun _ holds => holds) (fun _ _ holds => holds) fun _ _ ended => ?_).bind
      fun result => ?_
    · exact ended.1.imp_right fun ⟨item, permitted, left⟩ => ⟨item, cursor, machine, .first permitted, left⟩
    · obtain ⟨earlier, further⟩ := result
      refine ⟨fun between holds => ?_⟩
      have onward := @ih further between fun item there now turn =>
        tolerates item there now (.later holds.2 turn)
      have tail : Action.Yields (fun same => same = between ∧ AllGood good same)
          (extractMembers archive directory rest further >>= fun others =>
            pure (earlier :: others.1, others.2))
          (fun _ => AllGood good) _ :=
        onward.bind fun _ => Action.yields_pure fun _ all => all
      refine (tail.weaken (fun _ holds => holds) (fun _ _ all => all) fun _ _ ended => ?_).ends between
        ⟨rfl, holds.1⟩
      exact ended.imp_right fun ⟨item, there, now, turn, left⟩ =>
        ⟨item, there, now, .later holds.2 turn, left⟩

/-! ### What files come to -/

/-- A file that is as it was: it stood there, and held the same. -/
def WasThere (before : FileSystem) (spot : Spot) (number : Nat) (content : Content) : Prop :=
  before.entryAt? spot = some (.file number) ∧ before.content? number = some content

/-- The permission bits of a file that was there before. -/
def HadBits (before : FileSystem) (spot : Spot) (number mode : Nat) : Prop :=
  ∃ content, WasThere before spot number content ∧ content.mode = mode

/-- An item of an archive comes to its turn. -/
def Comes (archive : Archive) (directory : String) (begun : Machine) (item : Item) (cursor : Gzip.Cursor)
    (now : Machine) : Prop :=
  Turn archive directory archive.members archive.cursor begun item cursor now

/-- A link of an archive cannot be made when it comes to its turn. -/
def Falters (archive : Archive) (directory : String) (begun : Machine) (item : Item) : Prop :=
  ∃ cursor now, Comes archive directory begun item cursor now ∧
    IsUnmade item (item.pathIn directory) (provided (item.pathIn directory) now)

/-- Where a file need not have limited bits although it is not as it was. -/
inductive Exempts (archive : Archive) (directory : String) (begun final : Machine) (fails : Prop) (spot : Spot)
    (number mode : Nat) : Prop
  /-- Its data could not be copied to their end, and it has the bits that it had. -/
  | cutShort {item : Item} {cursor : Gzip.Cursor} {now : Machine} :
    fails → Comes archive directory begun item cursor now → item.kind = .file →
    BreaksOff archive item.member cursor → final.Names (item.pathIn directory) number →
    HadBits begun.files spot number mode → Exempts archive directory begun final fails spot number mode
  /-- A link could not be made, and the file has the bits that it had. -/
  | kept {item : Item} :
    Falters archive directory begun item → HadBits begun.files spot number mode →
    Exempts archive directory begun final fails spot number mode
  /-- A symbolic link could not be made, and the file has the bits of what that stands for. -/
  | symlink {item : Item} :
    Falters archive directory begun item → item.kind = .symlink → StoodBits archive item mode →
    Exempts archive directory begun final fails spot number mode
  /-- Instead of a hard link, what it stands for could not be extracted as a whole. -/
  | hardLink {item : Item} :
    fails → Falters archive directory begun item → item.kind = .hardLink → StoodBits archive item mode →
    final.Names (item.pathIn directory) number → Exempts archive directory begun final fails spot number mode

/-- What holds of each file after members that were extracted. -/
def IsFine (archive : Archive) (directory : String) (begun : Machine) (spot : Spot) (number : Nat)
    (content : Content) : Prop :=
  IsLimited content.mode ∨ WasThere begun.files spot number content ∨
    ∃ item, Falters archive directory begun item ∧
      (HadBits begun.files spot number content.mode ∨
        (item.kind = .symlink ∧ StoodBits archive item content.mode))

/-- What holds of each file in the end. -/
def IsJustified (archive : Archive) (directory : String) (begun final : Machine) (fails : Prop) (spot : Spot)
    (number : Nat) (content : Content) : Prop :=
  IsLimited content.mode ∨ WasThere begun.files spot number content ∨
    Exempts archive directory begun final fails spot number content.mode

section

variable {archive : Archive} {directory : String} {begun final : Machine} {fails : Prop} {spot : Spot}
  {number : Nat} {content old : Content}

theorem IsFine.justified (fine : IsFine archive directory begun spot number content) :
    IsJustified archive directory begun final fails spot number content := by
  rcases fine with limited | same | ⟨item, falters, had | ⟨symlink, stands⟩⟩
  · exact .inl limited
  · exact .inr (.inl same)
  · exact .inr (.inr (.kept falters had))
  · exact .inr (.inr (.symlink falters symlink stands))

/-- Where files and the current directory are the same, the same is exempt. -/
theorem Exempts.congr {other : Machine} {also : Prop} {mode : Nat}
    (exempts : Exempts archive directory begun final fails spot number mode)
    (files : other.files = final.files) (cwd : other.cwd = final.cwd) (still : fails → also) :
    Exempts archive directory begun other also spot number mode := by
  have names {path : String} {number : Nat} (names : final.Names path number) : other.Names path number := by
    rw [Machine.Names, files, cwd]
    exact names
  cases exempts with
  | cutShort failed comes file breaks named had =>
    exact .cutShort (still failed) comes file breaks (names named) had
  | kept falters had => exact .kept falters had
  | symlink falters symlink stands => exact .symlink falters symlink stands
  | hardLink failed falters hardLink stands named =>
    exact .hardLink (still failed) falters hardLink stands (names named)

/-- A file that is written over is fine still, or has the bits that it had. -/
theorem IsFine.rewritten (fine : IsFine archive directory begun spot number old)
    (same : old.mode = content.mode) :
    IsFine archive directory begun spot number content ∨ HadBits begun.files spot number content.mode := by
  rcases fine with limited | there | ⟨item, falters, either⟩
  · exact .inl (.inl (same ▸ limited))
  · exact .inr ⟨old, there, same⟩
  · exact .inl (.inr (.inr ⟨item, falters, same ▸ either⟩))

theorem Falters.isLoose {item : Item} (falters : Falters archive directory begun item) :
    IsLoose (IsFine archive directory begun) where
  new spot number content new := .inl (new ▸ by decide)
  rewritten spot number old content same fine :=
    (fine.rewritten same).elim id fun had => .inr (.inr ⟨item, falters, .inl had⟩)

theorem tolerates_isFine {item : Item} {cursor : Gzip.Cursor} {now : Machine}
    (comes : Comes archive directory begun item cursor now) :
    Tolerates (IsFine archive directory begun) archive directory item now := by
  intro unmade
  have falters : Falters archive directory begun item := ⟨cursor, now, comes, unmade⟩
  exact ⟨falters.isLoose, fun symlink _ _ _ stands => .inr (.inr ⟨item, falters, .inr ⟨symlink, stands⟩⟩)⟩

theorem IsLeft.justified {item : Item} {cursor : Gzip.Cursor} {now : Machine} (failed : fails)
    (comes : Comes archive directory begun item cursor now)
    (left : IsLeft (IsFine archive directory begun) archive item (item.pathIn directory) cursor
      (provided (item.pathIn directory) now) final) :
    AllFiles (IsJustified archive directory begun final fails) final.files := by
  rcases left with ⟨file, breaks, kept⟩ | ⟨hardLink, unmade, else_⟩
  · refine kept.mono ?_
    rintro spot number content (fine | ⟨names, old, same, fine⟩)
    · exact fine.justified
    · rcases fine.rewritten same with fine | had
      · exact fine.justified
      · exact .inr (.inr (.cutShort failed comes file breaks names had))
  · refine FileSystem.AllFiles.mono else_ ?_
    rintro spot number content (fine | ⟨stands, names⟩)
    · exact fine.justified
    · exact .inr (.inr (.hardLink failed ⟨cursor, now, comes, unmade⟩ hardLink stands names))

/-- After extracting, by how it ended. -/
theorem yields_extract (archive : Archive) (directory : String) (begun : Machine) :
    Action.Yields (· = begun) (archive.extract directory)
      (fun _ final => AllFiles (IsJustified archive directory begun final False) final.files)
      (fun _ final => AllFiles (IsJustified archive directory begun final True) final.files) := by
  have members : Action.Yields (fun same => same = begun ∧ AllGood (IsFine archive directory begun) same)
      (extractMembers archive directory archive.members archive.cursor)
      (fun _ => AllGood (IsFine archive directory begun)) _ :=
    yields_extractMembers (fun _ _ _ limited => .inl limited) fun item there now turn => tolerates_isFine turn
  have extracted : Action.Yields (· = begun)
      (extractMembers archive directory archive.members archive.cursor)
      (fun _ => AllGood (IsFine archive directory begun))
      (fun _ final => AllFiles (IsJustified archive directory begun final True) final.files) := by
    refine members.weaken ?_ (fun _ _ all => all) ?_
    · rintro machine rfl
      exact ⟨rfl, fun _ _ _ entry held => .inr (.inl ⟨entry, held⟩)⟩
    · rintro failure final (all | ⟨item, there, now, turn, left⟩)
      · exact all.mono fun _ _ _ fine => fine.justified
      · exact left.justified trivial turn
  refine extracted.bind fun result => ?_
  · exact (keeps_settleDirectories directory _).yields.weaken (fun _ all => all)
      (fun _ _ all => FileSystem.AllFiles.mono all fun _ _ _ fine => fine.justified)
      fun _ _ all => FileSystem.AllFiles.mono all fun _ _ _ fine => fine.justified

end

end Bookbinder.Archive
