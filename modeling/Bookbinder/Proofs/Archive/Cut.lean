import Bookbinder.Proofs.Archive.Blocks
import Bookbinder.Proofs.Compression.Cut

/-!
The members of an archive that is cut. Main statement: they cannot be listed, or they are the members of the
whole archive, and all that was passed to list them is there.
-/

set_option autoImplicit false

namespace Bookbinder.Archive

open Bookbinder.Text (Bytes)
open Bookbinder.Compression (Gzip.Stream Gzip.Cursor)

namespace Listing

variable {α β : Type} {cut whole : Gzip.Stream} {good : α → Prop}

/-- Listing from a place: it comes to the cut, or goes as in the whole and does not leave what is there. -/
def TracksAt (cut : Gzip.Stream) (good : α → Prop) (listing other : Listing α) (place : Place) : Prop :=
  (∃ after, listing.run place = (.error (.stream .cut), after)) ∨
    other.run place = listing.run place ∧ (listing.run place).2.cursor.position ≤ cut.bytes.size ∧
      ∀ value, (listing.run place).1 = .ok value → good value

structure Tracks (cut : Gzip.Stream) (good : α → Prop) (listing other : Listing α) : Prop where
  goes : ∀ place, place.cursor.position ≤ cut.bytes.size → TracksAt cut good listing other place

/-- Listing that does not read goes on from where it is. -/
abbrev Stays (cut : Gzip.Stream) (good : α → Prop) (listing : Listing α) : Prop :=
  Tracks cut good listing listing

theorem stays_pure {value : α} (holds : good value) : Stays cut good (pure value) := by
  refine ⟨fun place within => .inr ⟨rfl, within, ?_⟩⟩
  rintro _ ⟨⟩
  exact holds

theorem stays_throw (trouble : Trouble) : Stays cut good (throw trouble) :=
  ⟨fun _ within => .inr ⟨rfl, within, nofun⟩⟩

theorem TracksAt.bind {listing other : Listing α} {next onward : α → Listing β} {final : β → Prop}
    {place : Place} (first : TracksAt cut good listing other place)
    (second : ∀ value after, listing.run place = (.ok value, after) →
      after.cursor.position ≤ cut.bytes.size → good value →
      TracksAt cut final (next value) (onward value) after) :
    TracksAt cut final (listing >>= next) (other >>= onward) place := by
  unfold TracksAt
  rw [run_bind, run_bind]
  rcases first with ⟨after, ended⟩ | ⟨same, within, holds⟩
  · rw [ended]
    exact .inl ⟨after, rfl⟩
  · rw [same]
    cases ended : listing.run place with
    | mk result after =>
      rw [ended] at within holds
      cases result with
      | ok value => exact second value after ended within (holds value rfl)
      | error trouble => exact .inr ⟨rfl, within, nofun⟩

theorem Tracks.bind {listing other : Listing α} {next onward : α → Listing β} {final : β → Prop}
    (first : Tracks cut good listing other)
    (second : ∀ value, good value → Tracks cut final (next value) (onward value)) :
    Tracks cut final (listing >>= next) (other >>= onward) :=
  ⟨fun place within => (first.goes place within).bind fun value after _ within holds =>
    (second value holds).goes after within⟩

/-- The trouble with a header that has to be there. -/
def followed : Trouble → Trouble
  | .header fault => .follower fault
  | other => other

theorem run_following (listing : Listing α) (place : Place) :
    (following listing).run place =
      match listing.run place with
      | (.ok value, after) => (.ok value, after)
      | (.error trouble, after) => (.error (followed trouble), after) := by
  simp only [following, tryCatch, tryCatchThe, MonadExceptOf.tryCatch, ExceptT.tryCatch, ExceptT.run,
    ExceptT.mk, bind, StateT.bind]
  rcases listing place with ⟨result, after⟩
  cases result with
  | ok value => rfl
  | error trouble => cases trouble <;> rfl

theorem Tracks.following {listing other : Listing α} (tracks : Tracks cut good listing other) :
    Tracks cut good (following listing) (following other) := by
  refine ⟨fun place within => ?_⟩
  unfold TracksAt
  rw [run_following, run_following]
  rcases tracks.goes place within with ⟨after, ended⟩ | ⟨same, within, holds⟩
  · rw [ended]
    exact .inl ⟨after, rfl⟩
  · rw [same]
    generalize listing.run place = outcome at within holds ⊢
    rcases outcome with ⟨result, after⟩
    cases result with
    | ok value => exact .inr ⟨rfl, within, holds⟩
    | error trouble => exact .inr ⟨rfl, within, nofun⟩

theorem tracks_look {next onward : Place → Listing α}
    (second : ∀ place, Tracks cut good (next place) (onward place)) :
    Tracks cut good (get >>= next) (get >>= onward) :=
  ⟨fun place within => (second place).goes place within⟩

theorem stays_modify {step : Place → Place} (stays : ∀ place, (step place).cursor = place.cursor) :
    Stays cut (fun _ => True) (modify step) := by
  refine ⟨fun place within => .inr ⟨rfl, ?_, fun _ _ => trivial⟩⟩
  change (step place).cursor.position ≤ _
  rw [stays]
  exact within

theorem stays_position : Stays cut (· ≤ cut.bytes.size) position := by
  refine ⟨fun place within => .inr ⟨rfl, within, ?_⟩⟩
  rintro _ ⟨⟩
  exact within

theorem stays_liftTrouble (result : Except Trouble α) : Stays cut (fun _ => True) (liftTrouble result) := by
  cases result with
  | ok value => exact stays_pure trivial
  | error trouble => exact stays_throw trouble

theorem stays_liftFault (result : Except Fault α) : Stays cut (fun _ => True) (liftFault result) :=
  stays_liftTrouble _

theorem stays_liftHeader (result : Except HeaderFault α) :
    Stays cut (fun _ => True) (liftHeader result) := by
  cases result with
  | ok value => exact stays_pure trivial
  | error fault => exact stays_throw _

theorem tracks_bytes (isCut : cut.IsCutOf whole) (length : Int) :
    Tracks cut (fun _ => True) (bytes cut length) (bytes whole length) := by
  refine ⟨fun place within => ?_⟩
  unfold TracksAt
  rw [run_bytes_eq, run_bytes_eq]
  cases readCount length with
  | error fault => exact .inr ⟨rfl, within, nofun⟩
  | ok count =>
    dsimp only
    by_cases there : place.cursor.position + count ≤ cut.bytes.size
    · obtain ⟨here, same⟩ := isCut.read_of_le place.cursor there
      rw [same, here]
      exact .inr ⟨rfl, there, fun _ _ => trivial⟩
    · have some : count ≠ 0 := fun none => there (by rw [none]; exact within)
      rw [isCut.read_of_lt place.cursor some (Nat.lt_of_not_le there)]
      exact .inl ⟨place, rfl⟩

theorem of_run_bytes (isCut : cut.IsCutOf whole) {length : Int} {place after : Place} {read : Bytes}
    (ended : (bytes cut length).run place = (.ok read, after)) :
    ∃ count, readCount length = .ok count ∧ after.cursor.position = place.cursor.position + count ∧
      read = (cut.bytes.extract place.cursor.position (place.cursor.position + count)).toList := by
  rw [run_bytes_eq] at ended
  cases counted : readCount length with
  | error fault =>
    rw [counted] at ended
    cases ended
  | ok count =>
    rw [counted] at ended
    dsimp only at ended
    cases found : cut.read place.cursor count with
    | error ending =>
      rw [found] at ended
      cases ended
    | ok pair =>
      rw [found] at ended
      cases ended
      obtain ⟨same, moved⟩ := isCut.of_read found
      exact ⟨count, rfl, by rw [moved], same⟩

theorem stays_expectAfter (start : Nat) (length : Int) :
    Stays cut (fun _ => True) (expectAfter start length) :=
  stays_modify fun _ => rfl

/-- A member whose data start within what is there. -/
def StartsIn (cut : Gzip.Stream) (member : Member) : Prop := member.dataStart ≤ cut.bytes.size

theorem stays_plainMember (header : Header) (start : Nat) :
    Stays cut (StartsIn cut) (plainMember header start) := by
  refine stays_position.bind fun dataStart within => ?_
  refine (stays_expectAfter _ _).bind fun _ _ => tracks_look fun place => ?_
  exact (stays_liftFault _).bind fun amended _ => stays_pure within

theorem tracksAt_followingRuns (isCut : cut.IsCutOf whole) {fuel more : Nat} (less : fuel ≤ more)
    {place : Place} (enough : cut.bytes.size < place.cursor.position + fuel)
    (within : place.cursor.position ≤ cut.bytes.size) :
    TracksAt cut (fun _ => True) (followingRuns cut fuel) (followingRuns whole more) place := by
  -- on the bound of the data that are cut: every block that is there takes bytes, so these end before the
  -- bound comes into play
  induction fuel generalizing more place with
  | zero => omega
  | succ fuel ih =>
    cases more with
    | zero => omega
    | succ more =>
      rw [followingRuns, followingRuns]
      refine ((tracks_bytes isCut _).goes place within).bind fun block after read inside _ => ?_
      obtain ⟨count, counted, moved, -⟩ := of_run_bytes isCut read
      have full : blockSize = count := Except.ok.inj counted
      have left : cut.bytes.size < after.cursor.position + fuel := by
        rw [moved, ← full, blockSize]
        omega
      have onward := ih (Nat.le_of_succ_le_succ less) left inside
      cases runsOfBlock block with
      | error trouble => exact (stays_throw trouble).goes after inside
      | ok runs =>
        cases blockGoesOn block with
        | error trouble => exact (stays_throw trouble).goes after inside
        | ok goesOn =>
          cases goesOn with
          | false => exact (stays_pure trivial).goes after inside
          | true => exact onward.bind fun others last _ there _ => (stays_pure trivial).goes last there

theorem tracks_holedMember (isCut : cut.IsCutOf whole) (header : Header) (outline : Outline) (start : Nat) :
    Tracks cut (StartsIn cut) (holedMember cut header outline start)
      (holedMember whole header outline start) := by
  have finish (more : List Run) : Stays cut (StartsIn cut)
      (do
        let dataStart ← position
        expectAfter dataStart (wholeBlocks header.size)
        let runs := outline.runs ++ more
        return ⟨{ header with kind := .file, size := outline.size, runs := some runs }, start, dataStart⟩) := by
    refine stays_position.bind fun dataStart within => ?_
    exact (stays_expectAfter _ _).bind fun _ _ => stays_pure within
  unfold holedMember
  split
  · have runs : Tracks cut (fun _ => True) (followingRuns cut (cut.bytes.size + 1))
        (followingRuns whole (whole.bytes.size + 1)) :=
      ⟨fun place within => tracksAt_followingRuns isCut (Nat.succ_le_succ isCut.size_le) (by omega) within⟩
    exact runs.bind fun more _ => finish more
  · exact finish []

/-- The number in the first line, and what comes after it. -/
def numberOf (lines : Bytes) : Listing (Int × Bytes) := do
  let (line, rest) ← liftFault (splitLine lines)
  return (← liftFault (readWholeBytes line), rest)

theorem stays_numberOf (lines : Bytes) : Stays cut (fun _ => True) (numberOf lines) :=
  (stays_liftFault _).bind fun _ _ => (stays_liftFault _).bind fun _ _ => stays_pure trivial

theorem tracks_lineNumber (isCut : cut.IsCutOf whole) (ahead : Bytes) :
    Tracks cut (fun _ => True) (lineNumber cut ahead) (lineNumber whole ahead) := by
  unfold lineNumber
  split
  · exact stays_numberOf (ahead ++ [])
  · exact (tracks_bytes isCut _).bind fun block _ => stays_numberOf (ahead ++ block)

theorem tracks_lineNumbers (isCut : cut.IsCutOf whole) (count : Nat) (ahead : Bytes) :
    Tracks cut (fun _ => True) (lineNumbers cut count ahead) (lineNumbers whole count ahead) := by
  induction count generalizing ahead with
  | zero => exact stays_pure trivial
  | succ count ih =>
    refine (tracks_lineNumber isCut ahead).bind fun pair _ => ?_
    exact (ih pair.2).bind fun others _ => stays_pure trivial

theorem tracks_linedRuns (isCut : cut.IsCutOf whole) :
    Tracks cut (fun _ => True) (linedRuns cut) (linedRuns whole) := by
  refine (tracks_lineNumber isCut []).bind fun pair _ => ?_
  exact (tracks_lineNumbers isCut _ _).bind fun numbers _ => stays_pure trivial

theorem tracks_withRuns (isCut : cut.IsCutOf whole) {member : Member} (starts : StartsIn cut member)
    (fields : Fields) (records : Bytes) :
    Tracks cut (StartsIn cut) (withRuns cut member fields records)
      (withRuns whole member fields records) := by
  unfold withRuns
  split
  · exact (stays_liftFault _).bind fun runs _ => stays_pure starts
  split
  · exact (stays_liftFault _).bind fun runs _ => stays_pure starts
  split
  · refine (tracks_linedRuns isCut).bind fun runs _ => stays_position.bind fun dataStart within => ?_
    exact stays_pure within
  · exact stays_pure starts

theorem stays_withFields {member : Member} (starts : StartsIn cut member) (fields : Fields) :
    Stays cut (StartsIn cut) (withFields member fields) := by
  refine (stays_liftFault _).bind fun header _ => ?_
  split
  · exact (stays_expectAfter _ _).bind fun _ _ => stays_pure starts
  · exact stays_pure starts

theorem tracks_member (isCut : cut.IsCutOf whole) (depth : Nat) :
    Tracks cut (StartsIn cut) (member cut depth) (member whole depth) := by
  induction depth with
  | zero => exact stays_throw _
  | succ depth ih =>
    rw [member, member]
    refine stays_position.bind fun start _ => (tracks_bytes isCut _).bind fun block _ => ?_
    refine (stays_liftHeader _).bind fun header _ => ?_
    split
    · refine (tracks_bytes isCut _).bind fun name _ => ?_
      exact ih.following.bind fun next starts => stays_pure starts
    · refine (tracks_bytes isCut _).bind fun name _ => ?_
      exact ih.following.bind fun next starts => stays_pure starts
    · refine (tracks_bytes isCut _).bind fun records _ => tracks_look fun place => ?_
      refine (stays_liftTrouble _).bind fun fields _ => ih.following.bind fun next starts => ?_
      refine (tracks_withRuns isCut starts fields records).bind fun next starts => ?_
      exact (stays_withFields starts fields).bind fun next starts => stays_pure starts
    · refine (tracks_bytes isCut _).bind fun records _ => tracks_look fun place => ?_
      refine (stays_liftTrouble _).bind fun fields _ => ?_
      have shares : Stays cut (fun _ => True) (modify fun place => { place with shared := fields }) :=
        stays_modify fun _ => rfl
      refine shares.bind fun _ _ => ih.following.bind fun next starts => ?_
      exact tracks_look fun place => tracks_withRuns isCut starts _ records
    · exact tracks_holedMember isCut _ _ _
    · exact stays_plainMember header start

/-! ### One member after the other -/

/-- Where going on leads: to the place itself, or to the byte before the next header, which is read. -/
theorem advance_cases {stream : Gzip.Stream} {place here : Place} (ends : advance stream place = .ok here) :
    (place.next = place.cursor.position ∧ here = place) ∨
      ∃ sought byte bytes cursor, place.next ≠ place.cursor.position ∧
        ¬(place.next - 1 < -positionLimit ∨ positionLimit ≤ place.next - 1) ∧
        stream.seek place.cursor (place.next - 1).toNat = .ok sought ∧
        stream.read sought 1 = .ok (byte :: bytes, cursor) ∧ here = { place with cursor := cursor } := by
  unfold advance at ends
  by_cases there : place.next = place.cursor.position
  · rw [if_pos there] at ends
    cases ends
    exact .inl ⟨there, rfl⟩
  rw [if_neg there] at ends
  unfold seek at ends
  split at ends
  · cases ends
  rename_i inLimits
  cases gone : stream.seek place.cursor (place.next - 1).toNat with
  | error ending =>
    rw [gone] at ends
    cases ends
  | ok sought =>
    simp only [gone, bind, Except.bind] at ends
    cases read : stream.read sought 1 with
    | error ending =>
      rw [read] at ends
      cases ends
    | ok pair =>
      obtain ⟨bytes, cursor⟩ := pair
      rw [read] at ends
      cases bytes with
      | nil => cases ends
      | cons byte bytes =>
        cases ends
        exact .inr ⟨sought, byte, bytes, cursor, there, inLimits, rfl, read, rfl⟩

theorem advance_of_read {stream : Gzip.Stream} {place : Place} {sought cursor : Gzip.Cursor} {byte : UInt8}
    {bytes : Bytes} (elsewhere : place.next ≠ place.cursor.position)
    (inLimits : ¬(place.next - 1 < -positionLimit ∨ positionLimit ≤ place.next - 1))
    (gone : stream.seek place.cursor (place.next - 1).toNat = .ok sought)
    (read : stream.read sought 1 = .ok (byte :: bytes, cursor)) :
    advance stream place = .ok { place with cursor := cursor } := by
  unfold advance seek
  rw [if_neg elsewhere, if_neg inLimits, gone]
  simp only [bind, Except.bind, read]
  rfl

/-- To go on to the next header, all before it has to be there. -/
theorem advance_cut (isCut : cut.IsCutOf whole) {place here : Place}
    (within : place.cursor.position ≤ cut.bytes.size) (ends : advance cut place = .ok here) :
    advance whole place = .ok here ∧ here.cursor.position ≤ cut.bytes.size ∧
      place.next ≤ cut.bytes.size ∧ here.shared = place.shared := by
  rcases advance_cases ends with
    ⟨there, rfl⟩ | ⟨sought, byte, bytes, cursor, elsewhere, inLimits, gone, read, rfl⟩
  · exact ⟨advance_of_eq there, within, there ▸ Int.ofNat_le.2 within, rfl⟩
  by_cases reached : (place.next - 1).toNat + 1 ≤ cut.bytes.size
  · obtain ⟨same, wholeGone⟩ := isCut.seek_of_le place.cursor (Nat.le_of_succ_le reached)
    rw [gone] at same
    cases same
    have wholeRead := (isCut.read_of_le { place.cursor with position := (place.next - 1).toNat } reached).2
    rw [read] at wholeRead
    obtain ⟨-, rfl⟩ := isCut.of_read read
    refine ⟨advance_of_read elsewhere inLimits wholeGone wholeRead, reached, ?_, rfl⟩
    omega
  · -- the place sought is beyond the cut, or right at it and there is no byte to read
    by_cases found : (place.next - 1).toNat ≤ cut.bytes.size
    · rw [(isCut.seek_of_le place.cursor found).1] at gone
      cases gone
      rw [isCut.read_of_lt _ (Nat.one_ne_zero) (Nat.lt_of_not_le reached)] at read
      cases read
    · rw [isCut.seek_of_lt place.cursor (Nat.lt_of_not_le found)] at gone
      cases gone

/-- How reading of members goes on. -/
inductive Goes (stream : Gzip.Stream) (fuel : Nat) (place : Place) : List Member × Gzip.Cursor → Prop where
  | closed : place.next = 0 ∧ place.cursor.position ≠ 0 → Goes stream fuel place ([], place.cursor)
  | ended {here after : Place} {trouble : Trouble} : ¬(place.next = 0 ∧ place.cursor.position ≠ 0) →
      advance stream place = .ok here →
      (member stream depthLimit).run here = (.error trouble, after) →
      settle (place.next = 0) trouble = .ok () → Goes stream fuel place ([], after.cursor)
  | another {here after : Place} {next : Member} {others : List Member × Gzip.Cursor} :
      ¬(place.next = 0 ∧ place.cursor.position ≠ 0) →
      advance stream place = .ok here → (member stream depthLimit).run here = (.ok next, after) →
      members stream fuel after = .ok others → Goes stream fuel place (next :: others.1, others.2)

theorem members_eq_ok_iff {stream : Gzip.Stream} {fuel : Nat} {place : Place}
    {listed : List Member × Gzip.Cursor} :
    members stream (fuel + 1) place = .ok listed ↔ Goes stream fuel place listed := by
  constructor
  · intro ends
    rw [members] at ends
    by_cases closed : place.next = 0 ∧ place.cursor.position ≠ 0
    · rw [if_pos closed] at ends
      cases ends
      exact .closed closed
    rw [if_neg closed] at ends
    cases gone : advance stream place with
    | error fault =>
      rw [gone] at ends
      cases ends
    | ok here =>
      simp only [gone, bind, Except.bind] at ends
      cases read : (member stream depthLimit).run here with
      | mk result after =>
        rw [read] at ends
        cases result with
        | error trouble =>
          dsimp only at ends
          cases settled : settle (place.next = 0) trouble with
          | error fault =>
            rw [settled] at ends
            cases ends
          | ok _ =>
            rw [settled] at ends
            cases ends
            exact .ended closed gone read settled
        | ok next =>
          dsimp only at ends
          cases others : members stream fuel after with
          | error fault =>
            rw [others] at ends
            cases ends
          | ok pair =>
            rw [others] at ends
            cases ends
            exact .another closed gone read others
  · intro goes
    rw [members]
    cases goes with
    | closed closed => rw [if_pos closed]; rfl
    | ended going gone read settled =>
      rw [if_neg going]
      simp only [gone, bind, Except.bind, read, settled]
      rfl
    | another going gone read others =>
      rw [if_neg going]
      simp only [gone, bind, Except.bind, read, others]
      rfl

/-- Where the members of an archive that is cut can be listed, they are those of the whole archive, their data
start in what is there, and reading has ended in it. The induction is on the bound of their number. -/
theorem members_cut (isCut : cut.IsCutOf whole) {fuel more : Nat} (less : fuel ≤ more) {place : Place}
    {listed : List Member × Gzip.Cursor} (within : place.cursor.position ≤ cut.bytes.size)
    (ends : members cut fuel place = .ok listed) :
    members whole more place = .ok listed ∧ listed.2.position ≤ cut.bytes.size ∧
      ∀ member ∈ listed.1, StartsIn cut member := by
  induction fuel generalizing more place listed with
  | zero => cases ends
  | succ fuel ih =>
    cases more with
    | zero => cases less
    | succ more =>
      rw [members_eq_ok_iff] at ends ⊢
      cases ends with
      | closed closed => exact ⟨.closed closed, within, List.forall_mem_nil _⟩
      | @ended here after trouble going gone read settled =>
        obtain ⟨wholeGone, inside, -, -⟩ := advance_cut isCut within gone
        rcases (tracks_member isCut depthLimit).goes here inside with ⟨last, ended⟩ | ⟨same, left, -⟩
        · -- coming to the cut is a fault of the archive
          rw [read] at ended
          cases ended
          cases settled
        · rw [read] at same left
          exact ⟨.ended going wholeGone same settled, left, List.forall_mem_nil _⟩
      | @another here after next others going gone read rest =>
        obtain ⟨wholeGone, inside, -, -⟩ := advance_cut isCut within gone
        rcases (tracks_member isCut depthLimit).goes here inside with ⟨last, ended⟩ | ⟨same, left, starts⟩
        · rw [read] at ended
          cases ended
        · rw [read] at same left starts
          obtain ⟨wholeRest, final, all⟩ := ih (Nat.le_of_succ_le_succ less) left rest
          refine ⟨.another going wholeGone same wholeRest, final, ?_⟩
          exact List.forall_mem_cons.2 ⟨starts next rfl, all⟩

end Listing

end Bookbinder.Archive
