import Bookbinder.Archive.Copy
import Bookbinder.Proofs.Archive.Cut

/-!
Where the members of an archive lie. Main statement: where the members of an archive that is cut can be
listed, what is copied of each of them is there, unless its size is not the one in its header.
-/

set_option autoImplicit false

namespace Bookbinder.Archive

open Bookbinder.Text (Bytes)
open Bookbinder.Compression (Gzip.Stream Gzip.Cursor)

def blockAt (stream : Gzip.Stream) (position : Nat) : Bytes :=
  (stream.bytes.extract position (position + blockSize)).toList

/-- The header of a member is the first that is about it, or comes right after the first one and what belongs
to that. -/
def IsNear (stream : Gzip.Stream) (member : Member) : Prop :=
  member.dataStart = member.start + blockSize ∨
    ∃ first, Header.read (blockAt stream member.start) = .ok first ∧
      (member.dataStart : Int) = member.start + blockSize + wholeBlocks first.size + blockSize

/-- The size of a member is the one in its header, and there are no holes in its data. -/
structure HasOwnSize (stream : Gzip.Stream) (member : Member) : Prop where
  data : member.header.kind.hasData = true
  solid : member.header.runs = none
  nonneg : 0 ≤ member.header.size
  near : IsNear stream member
  own : ∃ header, Header.read (blockAt stream (member.dataStart - blockSize)) = .ok header ∧
    header.size = member.header.size

namespace Listing

variable {α β : Type} {cut whole : Gzip.Stream} {place after : Place}

theorem ok_of_bind {first : Listing α} {next : α → Listing β} {value : β}
    (ended : (first >>= next).run place = (.ok value, after)) :
    ∃ between mid, first.run place = (.ok between, mid) ∧ (next between).run mid = (.ok value, after) := by
  rw [run_bind] at ended
  cases found : first.run place with
  | mk result mid =>
    rw [found] at ended
    cases result with
    | ok between => exact ⟨between, mid, rfl, ended⟩
    | error trouble => cases ended

theorem ok_of_following {listing : Listing α} {value : α}
    (ended : (following listing).run place = (.ok value, after)) :
    listing.run place = (.ok value, after) := by
  rw [run_following] at ended
  generalize listing.run place = outcome at ended
  rcases outcome with ⟨result, mid⟩
  cases result with
  | ok value => exact ended
  | error trouble => cases ended

theorem ok_of_liftTrouble {result : Except Trouble α} {value : α}
    (ended : (liftTrouble result).run place = (.ok value, after)) : result = .ok value ∧ place = after := by
  cases result with
  | ok value => cases ended; exact ⟨rfl, rfl⟩
  | error trouble => cases ended

theorem ok_of_liftFault {result : Except Fault α} {value : α}
    (ended : (liftFault result).run place = (.ok value, after)) : result = .ok value ∧ place = after := by
  cases result with
  | ok value => cases ended; exact ⟨rfl, rfl⟩
  | error fault => cases ended

theorem ok_of_liftHeader {result : Except HeaderFault α} {value : α}
    (ended : (liftHeader result).run place = (.ok value, after)) : result = .ok value ∧ place = after := by
  cases result with
  | ok value => cases ended; exact ⟨rfl, rfl⟩
  | error fault => cases ended

end Listing

theorem Header.assign_keeps {header assigned : Header} {keyword value : String}
    (ended : header.assign keyword value = .ok assigned) :
    assigned.kind = header.kind ∧ assigned.runs = header.runs := by
  unfold Header.assign at ended
  split at ended
  case h_5 | h_6 =>
    cases read : readWhole value with
    | error fault =>
      rw [read] at ended
      cases ended
    | ok size =>
      rw [read] at ended
      cases ended
      exact ⟨rfl, rfl⟩
  all_goals
    cases ended
    exact ⟨rfl, rfl⟩

theorem Header.amend_keeps {header amended : Header} {fields : Fields}
    (ended : header.amend fields = .ok amended) :
    amended.kind = header.kind ∧ amended.runs = header.runs := by
  induction fields generalizing header with
  | nil =>
    cases ended
    exact ⟨rfl, rfl⟩
  | cons field fields ih =>
    rw [Header.amend, List.foldlM_cons] at ended
    cases given : header.assign field.1 field.2 with
    | error fault =>
      rw [given] at ended
      cases ended
    | ok assigned =>
      rw [given] at ended
      obtain ⟨kind, runs⟩ := ih ended
      obtain ⟨sameKind, sameRuns⟩ := Header.assign_keeps given
      exact ⟨kind.trans sameKind, runs.trans sameRuns⟩

theorem withoutSlash_keeps (header : Header) :
    (Listing.withoutSlash header).kind = header.kind ∧ (Listing.withoutSlash header).runs = header.runs := by
  unfold Listing.withoutSlash
  split <;> exact ⟨rfl, rfl⟩

theorem length_of_read {bytes : Bytes} {header : Header} (read : Header.read bytes = .ok header) :
    bytes.length = blockSize := by
  unfold Header.read at read
  split at read
  · cases read
  split at read
  · cases read
  · next full => exact Decidable.not_not.1 full

namespace Listing

variable {cut whole : Gzip.Stream} {place after : Place} {member : Member}

theorem read_blockAt (isCut : cut.IsCutOf whole) {position : Nat} {header : Header}
    (read : Header.read (blockAt cut position) = .ok header) :
    Header.read (blockAt whole position) = .ok header := by
  have length := length_of_read read
  rw [blockAt, Array.length_toList, Array.size_extract] at length
  have within : position + blockSize ≤ cut.bytes.size := by
    rw [blockSize] at length ⊢
    omega
  rw [← read, blockAt, blockAt, isCut.extract_eq position within]

theorem of_run_plainMember {header : Header} {start : Nat}
    (ended : (plainMember header start).run place = (.ok member, after)) :
    member.dataStart = place.cursor.position ∧ member.header.kind = header.kind ∧
      member.start = start ∧ after.next = place.cursor.position + dataLength header := by
  obtain ⟨dataStart, _, there, ended⟩ := ok_of_bind ended
  cases there
  obtain ⟨_, expected, moved, ended⟩ := ok_of_bind ended
  cases moved
  obtain ⟨_, _, looked, ended⟩ := ok_of_bind ended
  cases looked
  obtain ⟨amended, _, lifted, ended⟩ := ok_of_bind ended
  obtain ⟨changed, rfl⟩ := ok_of_liftFault lifted
  cases ended
  exact ⟨rfl, (Header.amend_keeps changed).1, rfl, rfl⟩

theorem runs_of_run_holedMember {header : Header} {outline : Outline} {start : Nat}
    (ended : (holedMember cut header outline start).run place = (.ok member, after)) :
    member.header.runs ≠ none := by
  have solid {mid last : Place} {more : List Run}
      (finished : (do
        let dataStart ← position
        expectAfter dataStart (wholeBlocks header.size)
        let runs := outline.runs ++ more
        return ⟨{ header with kind := .file, size := outline.size, runs := some runs }, start, dataStart⟩ :
          Listing Member).run mid = (.ok member, last)) : member.header.runs ≠ none := by
    obtain ⟨dataStart, _, _, finished⟩ := ok_of_bind finished
    obtain ⟨_, _, _, finished⟩ := ok_of_bind finished
    cases finished
    nofun
  unfold holedMember at ended
  split at ended
  · obtain ⟨more, _, _, ended⟩ := ok_of_bind ended
    exact solid ended
  · exact solid ended

theorem of_run_withRuns {other : Member} {fields : Fields} {records : Bytes}
    (ended : (withRuns cut other fields records).run place = (.ok member, after))
    (solid : member.header.runs = none) : member = other ∧ after = place := by
  unfold withRuns at ended
  split at ended
  · obtain ⟨_, _, _, ended⟩ := ok_of_bind ended
    cases ended
    cases solid
  split at ended
  · obtain ⟨_, _, _, ended⟩ := ok_of_bind ended
    cases ended
    cases solid
  split at ended
  · obtain ⟨_, _, _, ended⟩ := ok_of_bind ended
    obtain ⟨_, _, _, ended⟩ := ok_of_bind ended
    cases ended
    cases solid
  · cases ended
    exact ⟨rfl, rfl⟩

theorem of_run_withFields {other : Member} {fields : Fields}
    (ended : (withFields other fields).run place = (.ok member, after)) :
    member.dataStart = other.dataStart ∧ member.header.kind = other.header.kind ∧
      member.header.runs = other.header.runs ∧
      (after.next = place.next ∨ after.next = member.dataStart + dataLength member.header) := by
  obtain ⟨header, _, lifted, rest⟩ := ok_of_bind ended
  obtain ⟨changed, rfl⟩ := ok_of_liftFault lifted
  obtain ⟨kind, runs⟩ := Header.amend_keeps changed
  split at rest
  · obtain ⟨_, _, moved, rest⟩ := ok_of_bind rest
    cases moved
    cases rest
    exact ⟨rfl, kind, runs, .inr rfl⟩
  · cases rest
    exact ⟨rfl, kind, runs, .inl rfl⟩

/-- How a member without runs lies that was read from a place on, and where the next one is expected. -/
structure LiesAt (stream : Gzip.Stream) (place : Place) (member : Member) (after : Place) : Prop where
  beyond : place.cursor.position + blockSize ≤ member.dataStart
  alone : member.dataStart = place.cursor.position + blockSize →
    ∃ header, Header.read (blockAt stream place.cursor.position) = .ok header ∧
      header.kind = member.header.kind ∧ after.next = member.dataStart + dataLength header
  sized : HasOwnSize stream member → member.dataStart + member.header.size ≤ after.next

theorem of_readCount {length : Int} {count : Nat} (counted : readCount length = .ok count) :
    (count : Int) = length := by
  unfold readCount at counted
  split at counted
  · cases counted
  split at counted
  · cases counted
  split at counted
  · cases counted
  · cases counted
    omega

theorem dataLength_of_hasData {header : Header} (data : header.kind.hasData = true) :
    dataLength header = wholeBlocks header.size :=
  if_pos data

theorem liesAt_of_first {header : Header}
    (head : Header.read (blockAt whole place.cursor.position) = .ok header)
    (dataStart : member.dataStart = place.cursor.position + blockSize)
    (kind : member.header.kind = header.kind)
    (next : after.next = member.dataStart + dataLength header) : LiesAt whole place member after where
  beyond := Nat.le_of_eq dataStart.symm
  alone _ := ⟨header, head, kind.symm, next⟩
  sized owns := by
    obtain ⟨own, same, size⟩ := owns.own
    rw [dataStart, Nat.add_sub_cancel, head] at same
    cases same
    have data := owns.data
    rw [kind] at data
    rw [next, dataLength_of_hasData data, size]
    exact Int.add_le_add_left (le_wholeBlocks _) _

/-- A member with a header that comes before the others about it. Only where these are no more than its own
does its size tell where the next member is expected. -/
theorem LiesAt.behind {header : Header} {mid middle : Place} {other : Member}
    (inner : LiesAt whole mid other middle)
    (head : Header.read (blockAt whole place.cursor.position) = .ok header)
    (moved : (mid.cursor.position : Int) = place.cursor.position + blockSize + wholeBlocks header.size)
    (later : place.cursor.position + blockSize ≤ mid.cursor.position)
    (start : member.start = place.cursor.position) (dataStart : member.dataStart = other.dataStart)
    (kind : member.header.kind = other.header.kind)
    (next : after.next = middle.next ∨ after.next = member.dataStart + dataLength member.header) :
    LiesAt whole place member after := by
  have beyond : mid.cursor.position + blockSize ≤ member.dataStart := dataStart ▸ inner.beyond
  have apart : member.dataStart ≠ place.cursor.position + blockSize := by
    rw [blockSize] at beyond later ⊢
    omega
  refine ⟨Nat.le_trans (Nat.add_le_add_right (Nat.le_of_add_right_le later) _) beyond,
    fun alone => absurd alone apart, fun owns => ?_⟩
  -- the next header is expected where the own header of the member says, or where a changed size says
  rcases next with next | next
  · have alone : member.dataStart = mid.cursor.position + blockSize := by
      rcases owns.near with first | ⟨_, same, first⟩
      · rw [start] at first
        exact absurd first apart
      · rw [start, head] at same
        cases same
        rw [start, ← moved] at first
        exact Int.ofNat.inj first
    obtain ⟨_, read, same, ends⟩ := inner.alone (dataStart ▸ alone)
    obtain ⟨own, again, size⟩ := owns.own
    rw [alone, Nat.add_sub_cancel, read] at again
    cases again
    have data := owns.data
    rw [kind, ← same] at data
    rw [next, ends, ← dataStart, dataLength_of_hasData data, size]
    exact Int.add_le_add_left (le_wholeBlocks _) _
  · rw [next, dataLength_of_hasData owns.data]
    exact Int.add_le_add_left (le_wholeBlocks _) _

theorem LiesAt.later {mid : Place} (inner : LiesAt whole mid member after)
    (later : place.cursor.position + blockSize ≤ mid.cursor.position) : LiesAt whole place member after where
  beyond := Nat.le_trans later (Nat.le_of_add_right_le inner.beyond)
  alone alone := by
    have beyond := inner.beyond
    rw [blockSize] at alone beyond later
    omega
  sized := inner.sized

theorem liesAt_member (isCut : cut.IsCutOf whole) {depth : Nat}
    (ended : (Listing.member cut depth).run place = (.ok member, after)) (solid : member.header.runs = none) :
    LiesAt whole place member after := by
  induction depth generalizing place member after with
  | zero => cases ended
  | succ depth ih =>
    rw [Listing.member] at ended
    obtain ⟨start, _, there, ended⟩ := ok_of_bind ended
    cases there
    obtain ⟨block, mid, read, ended⟩ := ok_of_bind ended
    obtain ⟨_, counted, passed, same⟩ := of_run_bytes isCut read
    cases counted
    obtain ⟨header, _, lifted, ended⟩ := ok_of_bind ended
    obtain ⟨head, rfl⟩ := ok_of_liftHeader lifted
    rw [same] at head
    replace head := read_blockAt isCut head
    -- what belongs to this header has been read before the next one is
    have later {last : Place} {data : Bytes}
        (taken : (bytes cut (wholeBlocks header.size)).run mid = (.ok data, last)) :
        (last.cursor.position : Int) = place.cursor.position + blockSize + wholeBlocks header.size ∧
          place.cursor.position + blockSize ≤ last.cursor.position := by
      obtain ⟨count, counted, moved, _⟩ := of_run_bytes isCut taken
      have length := of_readCount counted
      omega
    split at ended
    · obtain ⟨name, last, taken, ended⟩ := ok_of_bind ended
      obtain ⟨next, _, followed, ended⟩ := ok_of_bind ended
      cases ended
      obtain ⟨kind, runs⟩ := withoutSlash_keeps { next.header with name := textOf name }
      have inner := ih (ok_of_following followed) (runs ▸ solid)
      exact inner.behind head (later taken).1 (later taken).2 rfl rfl kind (.inl rfl)
    · obtain ⟨name, last, taken, ended⟩ := ok_of_bind ended
      obtain ⟨next, _, followed, ended⟩ := ok_of_bind ended
      cases ended
      obtain ⟨kind, runs⟩ := withoutSlash_keeps { next.header with linkName := textOf name }
      have inner := ih (ok_of_following followed) (runs ▸ solid)
      exact inner.behind head (later taken).1 (later taken).2 rfl rfl kind (.inl rfl)
    · obtain ⟨records, last, taken, ended⟩ := ok_of_bind ended
      obtain ⟨_, _, looked, ended⟩ := ok_of_bind ended
      cases looked
      obtain ⟨fields, _, lifted, ended⟩ := ok_of_bind ended
      obtain ⟨-, rfl⟩ := ok_of_liftTrouble lifted
      obtain ⟨next, middle, followed, ended⟩ := ok_of_bind ended
      obtain ⟨other, _, given, ended⟩ := ok_of_bind ended
      obtain ⟨final, _, amended, ended⟩ := ok_of_bind ended
      cases ended
      obtain ⟨dataStart, kind, runs, expected⟩ := of_run_withFields amended
      obtain ⟨rfl, rfl⟩ := of_run_withRuns given (runs ▸ solid)
      have inner := ih (ok_of_following followed) (runs ▸ solid)
      exact inner.behind head (later taken).1 (later taken).2 rfl dataStart kind expected
    · obtain ⟨records, last, taken, ended⟩ := ok_of_bind ended
      obtain ⟨_, _, looked, ended⟩ := ok_of_bind ended
      cases looked
      obtain ⟨fields, _, lifted, ended⟩ := ok_of_bind ended
      obtain ⟨-, rfl⟩ := ok_of_liftTrouble lifted
      obtain ⟨_, _, shares, ended⟩ := ok_of_bind ended
      cases shares
      obtain ⟨next, middle, followed, ended⟩ := ok_of_bind ended
      obtain ⟨_, _, looked, ended⟩ := ok_of_bind ended
      cases looked
      obtain ⟨rfl, rfl⟩ := of_run_withRuns ended solid
      exact (ih (ok_of_following followed) solid).later (later taken).2
    · exact absurd solid (runs_of_run_holedMember ended)
    · obtain ⟨dataStart, kind, start, next⟩ := of_run_plainMember ended
      refine liesAt_of_first head (dataStart.trans passed) kind ?_
      rw [next, dataStart]

/-- To list members, all before the first of them has to be there. -/
theorem next_le (isCut : cut.IsCutOf whole) {fuel : Nat} {listed : List Member × Gzip.Cursor}
    (within : place.cursor.position ≤ cut.bytes.size) (ended : members cut fuel place = .ok listed) :
    place.next ≤ cut.bytes.size := by
  cases fuel with
  | zero => cases ended
  | succ fuel =>
    rw [members_eq_ok_iff] at ended
    cases ended with
    | closed closed =>
      rw [closed.1]
      exact Int.natCast_nonneg _
    | ended _ gone _ _ => exact (advance_cut isCut within gone).2.2.1
    | another _ gone _ _ => exact (advance_cut isCut within gone).2.2.1

theorem sized_of_members (isCut : cut.IsCutOf whole) {fuel : Nat} {listed : List Member × Gzip.Cursor}
    (within : place.cursor.position ≤ cut.bytes.size) (ended : members cut fuel place = .ok listed) :
    ∀ member ∈ listed.1, HasOwnSize whole member →
      member.dataStart + member.header.size ≤ cut.bytes.size := by
  -- each member is told by where the next header is expected, and listing the rest needs all before that
  induction fuel generalizing place listed with
  | zero => cases ended
  | succ fuel ih =>
    rw [members_eq_ok_iff] at ended
    cases ended with
    | closed _ => exact List.forall_mem_nil _
    | ended _ _ _ _ => exact List.forall_mem_nil _
    | @another here after next others _ gone read rest =>
      have inside := (advance_cut isCut within gone).2.1
      have left : after.cursor.position ≤ cut.bytes.size := by
        rcases (tracks_member isCut depthLimit).goes here inside with ⟨last, stopped⟩ | ⟨_, left, _⟩
        · rw [read] at stopped
          cases stopped
        · rw [read] at left
          exact left
      refine List.forall_mem_cons.2 ⟨fun owns => ?_, ih left rest⟩
      have lies := liesAt_member isCut read owns.solid
      exact Int.le_trans (lies.sized owns) (next_le isCut left rest)

end Listing

/-! ### What is copied of members -/

def Kind.isCopied : Kind → Bool
  | .directory | .symlink | .hardLink | .device => false
  | _ => true

def copiedLength (length : Int) : Nat := (length / copySize).toNat * copySize + (length % copySize).toNat

/-- How many bytes are copied of the data of a member, at most. -/
def Header.copied (header : Header) : Nat :=
  match header.runs with
  | none => copiedLength header.size
  | some runs => (runs.map fun run => copiedLength run.length).sum

theorem copiedLength_of_nonneg {length : Int} (nonneg : 0 ≤ length) :
    (copiedLength length : Int) = length := by
  unfold copiedLength copySize
  omega

end Bookbinder.Archive

namespace Bookbinder

open Archive (Member HasOwnSize)
open Compression (Gzip.Stream)

/-- Reading of the headers comes that far: to where the data of a member start, or to where it ends. -/
def Archive.Passes (archive : Archive) (position : Nat) : Prop :=
  position ≤ archive.cursor.position ∨ ∃ member ∈ archive.members, position ≤ member.dataStart

/-- The data of a member take the room that its header tells, or do not go beyond what is passed anyway. -/
def Archive.HasRoomFor (archive : Archive) (member : Member) : Prop :=
  HasOwnSize archive.stream member ∨ archive.Passes (member.dataStart + member.header.copied)

namespace Archive

variable {cut whole : Gzip.Stream}

/-- The members of an archive that is cut, where they can be listed. -/
theorem list_cut (isCut : cut.IsCutOf whole) {listed : List Member × Compression.Gzip.Cursor}
    (ended : list cut = .ok listed) :
    list whole = .ok listed ∧ ∀ member ∈ listed.1, HasRoomFor ⟨whole, listed.1, listed.2⟩ member →
      member.dataStart + member.header.copied ≤ cut.bytes.size := by
  have start : Place.start.cursor.position ≤ cut.bytes.size := Nat.zero_le _
  obtain ⟨same, passed, starts⟩ := Listing.members_cut isCut (Nat.succ_le_succ isCut.size_le) start ended
  refine ⟨same, fun member there room => ?_⟩
  rcases room with owns | ended | ⟨other, among, before⟩
  · have size := Listing.sized_of_members isCut start ended member there owns
    rw [Header.copied, owns.solid]
    have length := copiedLength_of_nonneg owns.nonneg
    dsimp only
    omega
  · exact Nat.le_trans ended passed
  · exact Nat.le_trans before (starts other among)

end Archive

end Bookbinder
