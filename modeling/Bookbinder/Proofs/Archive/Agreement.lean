import Bookbinder.Proofs.Archive.Faults
import Bookbinder.Proofs.Archive.Layout
import Bookbinder.Proofs.Machine.Endings

/-!
Archives that agree in their members and in what is copied of these. Main statements: to extract one does
the same as to extract the other; and an archive that is cut, if its members can be listed, agrees with the
whole one.
-/

set_option autoImplicit false

namespace Bookbinder.Archive

open Bookbinder.Text (Bytes)
open Bookbinder.Compression (Gzip.Stream Gzip.Cursor)
open Action (Alike)

/-! ### What is copied -/

section

variable {cut whole : Gzip.Stream} (isCut : cut.IsCutOf whole)

include isCut

theorem wholePiece_cut {cursor : Gzip.Cursor} {size : Nat}
    (within : cursor.position + size ≤ cut.bytes.size) :
    wholePiece cut cursor size =
        .ok ((cut.bytes.extract cursor.position (cursor.position + size)).toList,
          { cursor with position := cursor.position + size }) ∧
      wholePiece whole cursor size = wholePiece cut cursor size := by
  obtain ⟨here, same⟩ := isCut.read_of_le cursor within
  have full : ¬ (cut.bytes.extract cursor.position (cursor.position + size)).toList.length < size := by
    rw [Array.length_toList, Array.size_extract]
    omega
  rw [wholePiece, wholePiece, same, here]
  exact ⟨if_neg full, rfl⟩

theorem copyPieces_cut {last count : Nat} {cursor : Gzip.Cursor}
    (within : cursor.position + (count * copySize + last) ≤ cut.bytes.size) :
    copyPieces whole last count cursor = copyPieces cut last count cursor ∧
      (copyPieces cut last count cursor).cursor.position = cursor.position + (count * copySize + last) := by
  -- on the number of whole pieces, the last one is copied at the end
  induction count generalizing cursor with
  | zero =>
    rw [Nat.zero_mul, Nat.zero_add] at within ⊢
    rw [copyPieces, copyPieces]
    by_cases none : last = 0
    · rw [if_pos none, if_pos none, none]
      exact ⟨rfl, rfl⟩
    · rw [if_neg none, if_neg none, copyPiece, copyPiece, (wholePiece_cut isCut within).2,
        (wholePiece_cut isCut within).1]
      exact ⟨rfl, rfl⟩
  | succ count ih =>
    rw [Nat.succ_mul] at within ⊢
    have first : cursor.position + copySize ≤ cut.bytes.size := by omega
    obtain ⟨here, same⟩ := wholePiece_cut isCut first
    rw [copyPieces, copyPieces, same, here]
    dsimp only
    have left : { cursor with position := cursor.position + copySize : Gzip.Cursor }.position +
        (count * copySize + last) ≤ cut.bytes.size := by
      dsimp only
      omega
    obtain ⟨others, ends⟩ := ih left
    rw [others]
    refine ⟨rfl, ?_⟩
    rw [Copied.after, ends]
    dsimp only
    omega

theorem copy_cut (length : Int) (cursor : Gzip.Cursor)
    (within : cursor.position + copiedLength length ≤ cut.bytes.size) :
    copy whole length cursor = copy cut length cursor ∧
      (copy cut length cursor).cursor.position = cursor.position + copiedLength length :=
  copyPieces_cut isCut within

theorem copyRuns_cut (size : Int) {runs : List Run} {copied : Copied}
    (within : copied.cursor.position + (runs.map fun run => copiedLength run.length).sum ≤ cut.bytes.size) :
    copyRuns whole size runs copied = copyRuns cut size runs copied := by
  induction runs generalizing copied with
  | nil => rfl
  | cons run runs ih =>
    rw [List.map_cons, List.sum_cons] at within
    obtain ⟨same, ends⟩ := copy_cut isCut run.length copied.cursor (by omega)
    rw [copyRuns, copyRuns, same]
    split
    · rfl
    dsimp only
    split
    · rfl
    · refine ih ?_
      dsimp only
      omega

theorem copyData_cut {header : Header} {cursor : Gzip.Cursor}
    (within : cursor.position + header.copied ≤ cut.bytes.size) :
    copyData whole header cursor = copyData cut header cursor := by
  unfold Header.copied at within
  unfold copyData
  cases runs : header.runs with
  | none =>
    rw [runs] at within
    exact (copy_cut isCut _ _ within).1
  | some runs' =>
    rw [runs] at within
    exact copyRuns_cut isCut header.size within

end

/-! ### Extracting alike -/

namespace Extraction

variable {α β : Type}

/-- Extracting that does the same wherever in the stream it starts. -/
structure Alike (first second : Extraction α) : Prop where
  ends : ∀ cursor, Action.Alike (first cursor) (second cursor)

theorem alike_pure (value : α) : Alike (pure value) (pure value) :=
  ⟨fun cursor => Action.alike_pure (value, cursor)⟩

theorem alike_throw (failure : Failure) : Alike (throw failure : Extraction α) (throw failure) :=
  ⟨fun _ => Action.alike_throw failure⟩

theorem alike_lift {first second : Action α} (alike : Action.Alike first second) :
    Alike (liftM first) (liftM second) :=
  ⟨fun cursor => alike.bind fun value => Action.alike_pure (value, cursor)⟩

theorem Alike.bind {first second : Extraction α} {next onward : α → Extraction β}
    (alike : Alike first second) (later : ∀ value, Alike (next value) (onward value)) :
    Alike (first >>= next) (second >>= onward) :=
  ⟨fun cursor => (alike.ends cursor).bind fun result => (later result.1).ends result.2⟩

theorem Alike.bind_of_gives {first second : Extraction α} {next onward : α → Extraction β} {good : α → Prop}
    {allowed : Failure → Prop} (alike : Alike first second) (gives : Gives good allowed first)
    (later : ∀ value, good value → Alike (next value) (onward value)) :
    Alike (first >>= next) (second >>= onward) :=
  ⟨fun cursor => (alike.ends cursor).bind_of_gives (gives.ends cursor) fun result holds =>
    (later result.1 holds).ends result.2⟩

theorem Alike.attempt {first second : Extraction α} (alike : Alike first second) :
    Alike (attempt first) (attempt second) := by
  refine ⟨fun cursor => (alike.ends cursor).attempt.bind fun result => ?_⟩
  cases result with
  | ok value => exact Action.alike_pure _
  | error failure => exact Action.alike_pure _

theorem alike_machine {next onward : Machine → Extraction α}
    (later : ∀ machine other, machine.SameFiles other → Alike (next machine) (onward other)) :
    Alike (getThe Machine >>= next) (getThe Machine >>= onward) :=
  ⟨fun cursor => ⟨fun machine other same =>
    ((later machine other same).ends cursor).ends machine other same⟩⟩

theorem alike_cursor {next onward : Gzip.Cursor → Extraction α}
    (later : ∀ cursor, Alike (next cursor) (onward cursor)) : Alike (get >>= next) (get >>= onward) :=
  ⟨fun cursor => (later cursor).ends cursor⟩

theorem alike_set (cursor : Gzip.Cursor) : Alike (set cursor : Extraction Unit) (set cursor) :=
  ⟨fun _ => Action.alike_pure _⟩

theorem Alike.unlessRefused {first second fallback fallback' : Extraction Unit} (alike : Alike first second)
    (fallbacks : Alike fallback fallback') :
    Alike (unlessRefused first fallback) (unlessRefused second fallback') := by
  refine alike.attempt.bind fun result => ?_
  cases result with
  | ok _ => exact alike_pure _
  | error failure =>
    cases failure with
    | refused errno subject => exact fallbacks
    | _ => exact alike_throw _

end Extraction

/-- Archives with the same members, of which the same is copied. -/
structure Agrees (archive other : Archive) : Prop where
  members : archive.members = other.members
  cursor : archive.cursor = other.cursor
  data : ∀ member ∈ archive.members, member.header.kind.isCopied → ∀ cursor,
    (Listing.seek archive.stream cursor member.dataStart).map (copyData archive.stream member.header) =
      (Listing.seek other.stream cursor member.dataStart).map (copyData other.stream member.header)

theorem Agrees.refl (archive : Archive) : Agrees archive archive := ⟨rfl, rfl, fun _ _ _ _ => rfl⟩

theorem agrees_of_cut {cut whole : Gzip.Stream} (isCut : cut.IsCutOf whole) {members : List Member}
    {cursor : Gzip.Cursor}
    (there : ∀ member ∈ members, member.header.kind.isCopied →
      member.dataStart + member.header.copied ≤ cut.bytes.size) :
    Agrees ⟨cut, members, cursor⟩ ⟨whole, members, cursor⟩ := by
  refine ⟨rfl, rfl, fun member among copied cursor => ?_⟩
  have within := there member among copied
  obtain ⟨here, same⟩ := isCut.seek_of_le cursor (Nat.le_of_add_right_le within)
  unfold Listing.seek
  split
  · rfl
  · rw [Int.toNat_natCast, here, same]
    exact congrArg Except.ok (copyData_cut isCut within).symm

section

variable {archive other : Archive} (agrees : Agrees archive other)

theorem alike_liftFault {α : Type} (result : Except Fault α) :
    Alike (liftFault result) (liftFault result) := by
  cases result with
  | ok value => exact Action.alike_pure value
  | error fault => exact Action.alike_throw _

theorem alike_failIf (fault : Option Fault) : Alike (failIf fault) (failIf fault) := by
  cases fault with
  | none => exact Action.alike_pure ()
  | some fault => exact Action.alike_throw _

theorem alike_makeDirectory (target : String) (mode : Nat) :
    Alike (makeDirectory target mode) (makeDirectory target mode) :=
  Action.alike_change target _

theorem alike_makeSymlink (linkName target : String) :
    Alike (makeSymlink linkName target) (makeSymlink linkName target) := by
  unfold makeSymlink
  split
  · exact ⟨fun _ _ same => ⟨rfl, same⟩⟩
  · refine Action.alike_look fun machine other same => ?_
    rw [same.files, same.cwd]
    split
    · exact (Action.alike_change target _).bind fun _ => Action.alike_change target _
    · exact Action.alike_change target _

theorem alike_makeDevice (target : String) : Alike (makeDevice target) (makeDevice target) := by
  refine Action.alike_look fun machine other same => ?_
  rw [same.files, same.cwd]
  exact Action.alike_throw _

theorem alike_setPermissions (target : String) (mode : Int) :
    Alike (setPermissions target mode) (setPermissions target mode) := by
  unfold setPermissions
  split
  · exact ⟨fun _ _ same => ⟨rfl, same⟩⟩
  · exact Action.alike_change target _

theorem alike_settle (item : Item) (target : String) : Alike (settle item target) (settle item target) := by
  have finish : Alike (settlePresent item target) (settlePresent item target) := by
    unfold settlePresent
    split
    · split
      · exact (alike_setPermissions target _).bind fun _ => alike_failIf _
      · exact alike_failIf _
    · exact Action.alike_pure ()
  refine (alike_failIf _).bind fun _ => Action.alike_look fun machine other same => ?_
  rw [same.files, same.cwd]
  generalize (if item.kind = .symlink then other.files.isTaken other.cwd target
    else other.files.leadsSomewhere other.cwd target) = present
  cases present with
  | true => exact finish
  | false => exact ⟨fun _ _ same => ⟨rfl, same⟩⟩

/-- What is left to do once the data of a member have been copied. -/
def writeCopied (copied : Copied) (target : String) : Extraction Unit := do
  set copied.cursor
  Action.change target fun files cwd => files.writeFile cwd target fun _ => copied.bytes
  if let some failure := copied.failure then throw failure

theorem alike_writeCopied (copied : Copied) (target : String) :
    Extraction.Alike (writeCopied copied target) (writeCopied copied target) := by
  refine (Extraction.alike_set _).bind fun _ => ?_
  refine (Extraction.alike_lift (Action.alike_change target _)).bind fun _ => ?_
  split
  · exact Extraction.alike_throw _
  · exact Extraction.alike_pure ()

theorem alike_requireInside (directory path : String) (fault : String → Fault) :
    Alike (requireInside directory path fault) (requireInside directory path fault) := by
  refine (Action.alike_realPath path).bind fun place => ?_
  split
  · exact Action.alike_throw _
  · exact Action.alike_pure ()

theorem alike_requireLinkInside (directory name : String) (header : Header) :
    Alike (requireLinkInside directory name header) (requireLinkInside directory name header) := by
  unfold requireLinkInside
  split
  · split
    · exact ⟨fun _ _ same => ⟨rfl, same⟩⟩
    · exact alike_requireInside _ _ _
  · exact Action.alike_pure ()

theorem alike_permit (directory : String) (member : Member) :
    Alike (permit directory member) (permit directory member) := by
  refine (Action.alike_realPath directory).bind fun root => ?_
  refine (alike_requireInside _ _ _).bind fun _ => ?_
  refine (alike_liftFault _).bind fun mode => ?_
  exact (alike_requireLinkInside _ _ _).bind fun _ => Action.alike_pure _

theorem alike_settleDirectories (directory : String) (items : List Item) :
    Alike (settleDirectories directory items) (settleDirectories directory items) := by
  refine Action.alike_forM _ fun item => Action.alike_look fun machine other same => ?_
  rw [same.files, same.cwd]
  split
  · exact alike_failIf _
  · exact Action.alike_pure ()

theorem bind_liftFault_ok {α β : Type} (value : α) (next : α → Extraction β) :
    (liftM (liftFault (.ok value)) : Extraction α) >>= next = next value :=
  rfl

theorem bind_liftFault_error {α β : Type} (fault : Fault) (next : α → Extraction β) :
    (liftM (liftFault (.error fault) : Action α) : Extraction α) >>= next = throw (.archive fault) :=
  rfl

/-! ### Members that stand for others -/

include agrees

theorem alike_writeData {member : Member} (among : member ∈ archive.members)
    (copied : member.header.kind.isCopied) (target : String) :
    Extraction.Alike (writeData archive member target) (writeData other member target) := by
  refine Extraction.alike_cursor fun cursor => ?_
  have same := agrees.data member among copied cursor
  generalize Listing.seek archive.stream cursor member.dataStart = first at same ⊢
  generalize Listing.seek other.stream cursor member.dataStart = second at same ⊢
  cases first with
  | error fault =>
    cases second with
    | error fault' =>
      cases same
      rw [bind_liftFault_error, bind_liftFault_error]
      exact Extraction.alike_throw _
    | ok place => cases same
  | ok place =>
    cases second with
    | error fault => cases same
    | ok place' =>
      rw [bind_liftFault_ok, bind_liftFault_ok]
      have copies := Except.ok.inj same
      change Extraction.Alike (writeCopied (copyData archive.stream member.header place) target)
        (writeCopied (copyData other.stream member.header place') target)
      rw [copies]
      exact alike_writeCopied _ target

theorem findTarget_eq (item : Item) : findTarget archive item = findTarget other item := by
  unfold findTarget
  rw [agrees.members]

section

variable {extract extract' : Extractor} {item : Item} {target : String}
  (each : ∀ member ∈ archive.members,
    Extraction.Alike (extract (Item.ofMember member) target true)
      (extract' (Item.ofMember member) target true))

include each

theorem alike_extractTarget :
    Extraction.Alike (extractTarget archive extract item target)
      (extractTarget other extract' item target) := by
  unfold extractTarget
  rw [← findTarget_eq agrees]
  cases found : findTarget archive item with
  | error fault =>
    rw [bind_liftFault_error, bind_liftFault_error]
    exact Extraction.alike_throw _
  | ok member =>
    rw [bind_liftFault_ok, bind_liftFault_ok]
    exact each member (mem_of_findTarget found)

theorem alike_replaceLink :
    Extraction.Alike (replaceLink archive extract item target) (replaceLink other extract' item target) := by
  refine (alike_extractTarget agrees each).attempt.bind fun result => ?_
  split
  · exact Extraction.alike_pure ()
  · exact Extraction.alike_throw _
  · exact Extraction.alike_throw _

theorem alike_makeHardLink :
    Extraction.Alike (makeHardLink archive extract item target) (makeHardLink other extract' item target) := by
  unfold makeHardLink
  split
  · exact alike_replaceLink agrees each
  · refine Extraction.alike_machine fun machine after same => ?_
    rw [same.files, same.cwd]
    refine Extraction.Alike.unlessRefused ?_ (alike_replaceLink agrees each)
    split
    · exact Extraction.alike_lift (Action.alike_change target _)
    · exact alike_extractTarget agrees each

theorem alike_place (among : item.member ∈ archive.members) :
    Extraction.Alike (place archive extract item target) (place other extract' item target) := by
  unfold place
  split
  · exact Extraction.alike_lift (alike_makeDirectory _ _)
  · exact (Extraction.alike_lift (alike_makeSymlink _ _)).unlessRefused (alike_replaceLink agrees each)
  · exact alike_makeHardLink agrees each
  · exact Extraction.alike_lift (alike_makeDevice _)
  -- all other kinds are written as files
  · refine alike_writeData agrees among ?_ target
    unfold Kind.isCopied
    split <;> first | rfl | contradiction

end

theorem alike_extractItem (depth : Nat) {item : Item} (among : item.member ∈ archive.members) (path : String)
    (settled : Bool) :
    Extraction.Alike (extractItem archive depth item path settled)
      (extractItem other depth item path settled) := by
  -- on the depth of links that stand for links
  induction depth generalizing item path settled with
  | zero => exact Extraction.alike_throw _
  | succ depth ih =>
    -- what is left to do once the directory of the target is there
    have last : Extraction.Alike
        (do
          place archive (extractItem archive depth) item (PathText.withoutFinalSlashes path)
          if settled then settle item (PathText.withoutFinalSlashes path))
        (do
          place other (extractItem other depth) item (PathText.withoutFinalSlashes path)
          if settled then settle item (PathText.withoutFinalSlashes path)) := by
      refine (alike_place agrees (fun member there => ih there _ true) among).bind fun _ => ?_
      split
      · exact Extraction.alike_lift (alike_settle _ _)
      · exact Extraction.alike_pure ()
    rw [extractItem, extractItem]
    refine Extraction.alike_machine fun machine after same => ?_
    rw [same.files, same.cwd]
    by_cases missing : PathText.parent (PathText.withoutFinalSlashes path) ≠ "" ∧
      !after.files.leadsSomewhere after.cwd (PathText.parent (PathText.withoutFinalSlashes path))
    · rw [if_pos missing, if_pos missing]
      exact (Extraction.alike_lift (Action.alike_provideDirectory _)).bind fun _ => last
    · rw [if_neg missing, if_neg missing]
      exact last

theorem alike_extractMember (directory : String) {member : Member} (among : member ∈ archive.members) :
    Extraction.Alike (extractMember archive directory member) (extractMember other directory member) := by
  -- the item that is permitted still stands for the same member
  have permitted : Extraction.Gives (fun item => item.member = member ∧ IsOf archive item)
      (Ends archive False) (liftM (permit directory member)) :=
    Extraction.gives_lift (gives_permit directory among)
  unfold extractMember
  rw [← agrees.members]
  refine (Extraction.alike_lift (alike_permit directory member)).bind_of_gives permitted fun item known => ?_
  refine (alike_extractItem agrees _ known.2.member _ _).attempt.bind fun result => ?_
  split
  · exact Extraction.alike_pure item
  · exact Extraction.alike_pure item
  · exact Extraction.alike_throw _

theorem alike_extractMembers (directory : String) {members : List Member}
    (among : ∀ member ∈ members, member ∈ archive.members) :
    Extraction.Alike (extractMembers archive directory members) (extractMembers other directory members) := by
  induction members with
  | nil => exact Extraction.alike_pure []
  | cons member members ih =>
    refine (alike_extractMember agrees directory (among member List.mem_cons_self)).bind fun item => ?_
    refine (ih fun other there => among other (List.mem_cons_of_mem _ there)).bind fun items => ?_
    exact Extraction.alike_pure _

/-- To extract archives that agree does the same. -/
theorem alike_extract (directory : String) : Alike (archive.extract directory) (other.extract directory) := by
  unfold extract
  rw [← agrees.members, ← agrees.cursor]
  have all : Extraction.Alike (extractMembers archive directory archive.members)
      (extractMembers other directory archive.members) :=
    alike_extractMembers agrees directory fun _ there => there
  exact (all.ends archive.cursor).bind fun result => alike_settleDirectories _ _

end

end Bookbinder.Archive
