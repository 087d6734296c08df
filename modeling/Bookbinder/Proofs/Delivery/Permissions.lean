import Bookbinder.Proofs.Archive.Permissions
import Bookbinder.Proofs.Delivery.Containment

/-!
The permission bits of files after an archive was brought into a directory. Main statement: a file that is
not as it was has limited bits, unless data could not be copied to their end or a link could not be made.
-/

set_option autoImplicit false

namespace Bookbinder.Delivery

open Archive (IsLimited WasThere IsJustified Exempts)
open FileSystem (AllFiles)

variable {supply : Supply} {url : String} {directory : Path} {machine : Machine}

/-- Where the archive that was downloaded exempts a file. -/
def IsExempt (supply : Supply) (url : String) (directory : Path) (machine final : Machine) (fails : Prop)
    (spot : Spot) (number mode : Nat) : Prop :=
  ∃ body archive started,
    Action.perform (download supply url) (announced url directory machine) = (.ok body, started) ∧
      Archive.ofBytes body = .ok archive ∧
        Exempts archive directory.text started final fails spot number mode

/-- What holds of a file after an archive was brought into a directory. -/
def IsAccounted (supply : Supply) (url : String) (directory : Path) (machine final : Machine) (fails : Prop)
    (spot : Spot) (number : Nat) (content : Content) : Prop :=
  IsLimited content.mode ∨ WasThere machine.files spot number content ∨
    IsExempt supply url directory machine final fails spot number content.mode

theorem accounted_of_files {final : Machine} {fails : Prop} (same : final.files = machine.files) :
    AllFiles (IsAccounted supply url directory machine final fails) final.files := by
  intro spot number content entry held
  rw [same] at entry held
  exact .inr (.inl ⟨entry, held⟩)

theorem keeps_download_files (supply : Supply) (url : String) (files : FileSystem) :
    Action.Keeps (fun machine => machine.files = files) (download supply url) := by
  refine ⟨fun machine same => ?_⟩
  rw [download, perform_downloadTo]
  cases downloaded supply.store supply.network url <;> exact same

section

variable {body : Text.Bytes} {started : Machine}

theorem yields_unpack
    (served : Action.perform (download supply url) (announced url directory machine) = (.ok body, started))
    (same : started.files = machine.files) :
    Action.Yields (· = started) (unpack body directory)
      (fun _ final => AllFiles (IsAccounted supply url directory machine final False) final.files)
      (fun _ final => AllFiles (IsAccounted supply url directory machine final True) final.files) := by
  cases read : Archive.ofBytes body with
  | error fault =>
    rw [unpack, read]
    refine Action.yields_throw_bind ?_
    rintro final rfl
    exact accounted_of_files same
  | ok archive =>
    have accounted {final : Machine} {fails : Prop}
        (all : AllFiles (IsJustified archive directory.text started final fails) final.files) :
        AllFiles (IsAccounted supply url directory machine final fails) final.files := by
      refine all.mono ?_
      rintro spot number content (limited | there | exempts)
      · exact .inl limited
      · rw [same] at there
        exact .inr (.inl there)
      · exact .inr (.inr ⟨body, archive, started, served, read, exempts⟩)
    rw [unpack, read]
    exact ((Archive.yields_extract archive directory.text started).weaken (fun _ here => here)
      (fun _ _ all => accounted all) fun _ _ all => accounted all).bind fun _ =>
        Action.yields_pure fun _ all => all

/-- What is told of extracting changes no file. -/
theorem yields_deliver
    (served : Action.perform (download supply url) (announced url directory machine) = (.ok body, started))
    (same : started.files = machine.files) :
    Action.Yields (· = started) (deliver url directory body)
      (fun _ final => AllFiles (IsAccounted supply url directory machine final False) final.files)
      (fun _ final => AllFiles (IsAccounted supply url directory machine final True) final.files) := by
  refine (yields_unpack served same).attempt.bind fun result => ?_
  cases result with
  | error failure => exact Action.yields_throw fun _ all => all
  | ok names =>
    refine ⟨fun final all => FileSystem.AllFiles.mono all ?_⟩
    rintro spot number content (limited | there | ⟨other, archive, first, given, read, exempts⟩)
    · exact .inl limited
    · exact .inr (.inl there)
    · exact .inr (.inr ⟨other, archive, first, given, read, exempts.congr rfl rfl id⟩)

end

theorem yields_fetch (supply : Supply) (url : String) (directory : Path) (machine : Machine) :
    Action.Yields (· = announced url directory machine) (download supply url >>= deliver url directory)
      (fun _ final => AllFiles (IsAccounted supply url directory machine final False) final.files)
      (fun _ final => AllFiles (IsAccounted supply url directory machine final True) final.files) := by
  have downloads : Action.Yields (fun same => same = announced url directory machine ∧ True)
      (download supply url) (fun _ final => final.files = machine.files)
      (fun _ final => final.files = machine.files) := by
    refine (keeps_download_files supply url machine.files).yields.weaken ?_ (fun _ _ same => same)
      fun _ _ same => same
    rintro same ⟨rfl, _⟩
    rfl
  refine (downloads.told.weaken (fun _ here => ⟨here, trivial⟩) (fun _ _ holds => holds)
    fun _ _ holds => accounted_of_files holds.1).bind fun body => ?_
  exact ⟨fun started holds => (yields_deliver holds.2 holds.1).ends started rfl⟩

/-- The block of a member without data, with the permission bits that it asks for. -/
def bitsBlock (byte : Char) (mode : Nat) (name linkName : String) : Text.Bytes :=
  let front := Archive.padded 100 name ++ Archive.padded 48 (Text.digits 8 mode)
  let back := Archive.padded 1 byte.toString ++ Archive.padded 355 linkName
  let sum := ((front ++ List.replicate 8 0x20 ++ back).map UInt8.toNat).sum
  front ++ Archive.padded 8 (Text.digits 8 sum) ++ back

/-- Such a block, and what it says. -/
def withBits (byte : Char) (mode : Nat) (name linkName : String) : Text.Bytes × Archive.Header :=
  (bitsBlock byte mode name linkName,
    ⟨.ofByte (UInt8.ofNat byte.toNat), name, linkName, 0, mode, ⟨0, 0⟩, .whole 0, none⟩)

/-- A file with a set-id bit that everyone may write to, and a second name of it. -/
def openTwice : List (Text.Bytes × Archive.Header) :=
  [withBits '0' 0o4777 "a" "", withBits '1' 0o4777 "h" "a"]

/-- A link to the directory it stands in, an open file, and a link by way of the first one: to make it, the
first one is taken away. -/
def openLink : List (Text.Bytes × Archive.Header) :=
  [withBits '2' 0o777 "x" ".", withBits '0' 0o4777 "x/a" "", withBits '2' 0o777 "x/x" "a"]

/-- A file that is not as it was has bits that are not limited. -/
def Gains (blocks : List (Text.Bytes × Archive.Header)) (machine : Machine) : Prop :=
  ∃ spot number content,
    (Action.perform (fetch (.serving (packed blocks)) address place) machine).2.files.entryAt? spot =
        some (.file number) ∧
      (Action.perform (fetch (.serving (packed blocks)) address place) machine).2.files.content? number =
        some content ∧
      ¬ IsLimited content.mode ∧ ¬ WasThere machine.files spot number content

end Bookbinder.Delivery
