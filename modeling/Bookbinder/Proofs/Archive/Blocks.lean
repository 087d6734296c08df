import Bookbinder.Archive.Listing
import Bookbinder.Proofs.Attempts
import Bookbinder.Proofs.Compression.Stored

/-!
Archives of members without data: one block after the other, each of them a header. Main statement: such
an archive, stored in a compressed file, is read as the members that its blocks say.
-/

set_option autoImplicit false

namespace Bookbinder

namespace Archive

open Bookbinder.Text (Bytes)
open Bookbinder.Compression (Gzip.Stream Gzip.Cursor)

/-- A field of a block that starts with some text. -/
def padded (length : Nat) (text : String) : Bytes :=
  let bytes := Text.encodeUtf8 text.toList
  bytes ++ List.replicate (length - bytes.length) 0

/-- The block of a member without data that only its owner may use. -/
def loneBlock (byte : Char) (name linkName : String) : Bytes :=
  let front := padded 100 name ++ padded 48 "700"
  let back := padded 1 byte.toString ++ padded 355 linkName
  let sum := ((front ++ List.replicate 8 0x20 ++ back).map UInt8.toNat).sum
  front ++ padded 8 (Text.digits 8 sum) ++ back

/-- Such a block, and what it says. -/
def lone (byte : Char) (name linkName : String) : Bytes × Header :=
  (loneBlock byte name linkName,
    ⟨.ofByte (UInt8.ofNat byte.toNat), name, linkName, 0, 0o700, ⟨0, 0⟩, .whole 0, none⟩)

/-- A block that is a header, and has no data after it. -/
structure IsLone (block : Bytes) (header : Header) : Prop where
  length : block.length = blockSize
  read : Header.read block = .ok header
  plain : header.kind = .file ∨ header.kind = .hardLink ∨ header.kind = .symlink
  empty : header.size = 0

theorem isLone_of_reads {blocks : List (Bytes × Header)}
    (reads : ∀ pair ∈ blocks, pair.1.length = blockSize ∧ (Header.read pair.1).toOption = some pair.2 ∧
      (pair.2.kind = .file ∨ pair.2.kind = .hardLink ∨ pair.2.kind = .symlink) ∧ pair.2.size = 0) :
    ∀ pair ∈ blocks, IsLone pair.1 pair.2 := by
  intro pair member
  obtain ⟨length, read, plain, empty⟩ := reads pair member
  exact ⟨length, eq_ok_of_toOption read, plain, empty⟩

/-- The members that blocks from a place on are the headers of. -/
def membersFrom : Nat → List (Bytes × Header) → List Member
  | _, [] => []
  | start, pair :: rest =>
    ⟨pair.2, start, start + blockSize⟩ :: membersFrom (start + blockSize) rest

namespace Listing

variable {stream : Gzip.Stream}

theorem run_bind {α β : Type} (first : Listing α) (next : α → Listing β) (place : Place) :
    (first >>= next).run place =
      match first.run place with
      | (.ok value, after) => (next value).run after
      | (.error trouble, after) => (.error trouble, after) := by
  have opened : (first >>= next).run place =
      ExceptT.bindCont next (first.run place).1 (first.run place).2 := rfl
  rw [opened]
  rcases first.run place with ⟨result, after⟩
  cases result <;> rfl

theorem run_bind_of_ok {α β : Type} {first : Listing α} {next : α → Listing β} {place later : Place}
    {value : α} (read : first.run place = (.ok value, later)) :
    (first >>= next).run place = (next value).run later := by
  rw [run_bind, read]

theorem run_position (place : Place) : position.run place = (.ok place.cursor.position, place) := rfl

theorem run_bytes_eq (stream : Gzip.Stream) (length : Int) (place : Place) :
    (bytes stream length).run place =
      match readCount length with
      | .error fault => (.error (.fault fault), place)
      | .ok count =>
        match stream.read place.cursor count with
        | .error ending => (.error (.stream ending), place)
        | .ok (bytes, cursor) => (.ok bytes, { place with cursor := cursor }) := by
  rw [bytes]
  cases readCount length with
  | error fault => rfl
  | ok count =>
    have counted : (liftFault (.ok count)).run place = (.ok count, place) := rfl
    have looked : (get : Listing Place).run place = (.ok place, place) := rfl
    rw [run_bind_of_ok counted, run_bind_of_ok looked]
    dsimp only
    cases stream.read place.cursor count with
    | error ending => rfl
    | ok pair => rfl

theorem run_bytes {place : Place} {block : Bytes} {cursor : Gzip.Cursor}
    (read : stream.read place.cursor blockSize = .ok (block, cursor)) :
    (bytes stream blockSize).run place = (.ok block, { place with cursor := cursor }) := by
  have count : readCount blockSize = .ok blockSize := rfl
  rw [run_bytes_eq, count]
  dsimp only
  rw [read]

/-- Bytes are read where they stand. -/
theorem read_here {cursor : Gzip.Cursor} (finished : stream.ending = .finished) {front piece rest : Bytes}
    (content : stream.bytes.toList = front ++ (piece ++ rest)) (here : cursor.position = front.length) :
    stream.read cursor piece.length = .ok (piece, { cursor with position := front.length + piece.length }) := by
  have size : stream.bytes.size = front.length + (piece.length + rest.length) := by
    rw [← Array.length_toList, content, List.length_append, List.length_append]
  have slice : (stream.bytes.extract front.length (front.length + piece.length)).toList = piece := by
    rw [Array.toList_extract, content, List.extract_eq_take_drop]
    simp
  rw [Compression.Gzip.Stream.read_of_finished stream cursor piece.length finished (by omega), here, slice]

theorem read_block {cursor : Gzip.Cursor} (finished : stream.ending = .finished)
    {front block rest : Bytes} (length : block.length = blockSize)
    (content : stream.bytes.toList = front ++ (block ++ rest)) (here : cursor.position = front.length) :
    stream.read cursor blockSize = .ok (block, { cursor with position := front.length + blockSize }) :=
  length ▸ read_here finished content here

/-- After the last block there is nothing. -/
theorem read_at_end {cursor : Gzip.Cursor} (finished : stream.ending = .finished)
    (here : cursor.position = stream.bytes.size) : stream.read cursor blockSize = .ok ([], cursor) := by
  have slice : stream.slice stream.bytes.size blockSize = .ok [] := by
    simp [Compression.Gzip.Stream.slice, finished]
  simp only [Compression.Gzip.Stream.read, finished, here, slice]
  rw [← here]
  rfl

theorem run_plainMember {header : Header} {place : Place} (empty : dataLength header = 0)
    (notDirectory : header.kind ≠ .directory) (shared : place.shared = []) (start : Nat) :
    (plainMember header start).run place =
      (.ok ⟨header, start, place.cursor.position⟩, ⟨place.cursor, place.cursor.position, []⟩) := by
  obtain ⟨cursor, next, fields⟩ := place
  cases shared
  have amended : header.amend [] = .ok header := rfl
  rw [plainMember, run_bind_of_ok (run_position _), empty]
  have expected : (expectAfter cursor.position 0).run ⟨cursor, next, []⟩ =
      (.ok (), ⟨cursor, cursor.position, []⟩) := by
    rw [← Int.add_zero (cursor.position : Int)]
    rfl
  rw [run_bind_of_ok expected,
    run_bind_of_ok (show (get : Listing Place).run ⟨cursor, cursor.position, []⟩ =
      (.ok ⟨cursor, cursor.position, []⟩, ⟨cursor, cursor.position, []⟩) from rfl), amended]
  simp only [run_bind_of_ok (show (liftFault (.ok header)).run ⟨cursor, cursor.position, []⟩ =
      (.ok header, ⟨cursor, cursor.position, []⟩) from rfl), notDirectory, if_false]
  rfl

/-- The member of a block without data. -/
theorem run_member {place : Place} (finished : stream.ending = .finished) {front block rest : Bytes}
    {header : Header} (lone : IsLone block header)
    (content : stream.bytes.toList = front ++ (block ++ rest))
    (here : place.cursor.position = front.length) (shared : place.shared = []) (depth : Nat) :
    (member stream (depth + 1)).run place =
      (.ok ⟨header, front.length, front.length + blockSize⟩,
        ⟨{ place.cursor with position := front.length + blockSize }, (front.length + blockSize : Nat), []⟩) := by
  have read := run_bytes (read_block finished lone.length content here)
  have empty : dataLength header = 0 := by
    rw [dataLength, lone.empty]
    split <;> rfl
  have notDirectory : header.kind ≠ .directory := by
    rcases lone.plain with is | is | is <;> rw [is] <;> nofun
  have plain (after : Gzip.Cursor) : (plainMember header front.length).run { place with cursor := after } =
      (.ok ⟨header, front.length, after.position⟩, ⟨after, after.position, []⟩) :=
    run_plainMember empty notDirectory (show ({ place with cursor := after } : Place).shared = [] from shared)
      front.length
  rw [member, run_bind_of_ok (run_position place), run_bind_of_ok read, lone.read, here,
    run_bind_of_ok (show (liftHeader (.ok header)).run _ = (.ok header, _) from rfl)]
  rcases lone.plain with is | is | is <;> simp only [is] <;> exact plain _

/-- A file with holes, all runs of which are in its header. -/
theorem run_member_of_holed {place : Place} {block : Bytes} {cursor : Gzip.Cursor}
    (read : stream.read place.cursor blockSize = .ok (block, cursor)) {header : Header}
    (head : Header.read block = .ok header) {outline : Outline} (kind : header.kind = .holed outline)
    (closed : outline.goesOn = false) (depth : Nat) :
    (member stream (depth + 1)).run place =
      (.ok ⟨{ header with kind := .file, size := outline.size, runs := some (outline.runs ++ []) },
          place.cursor.position, cursor.position⟩,
        ⟨cursor, cursor.position + wholeBlocks header.size, place.shared⟩) := by
  rw [member, run_bind_of_ok (run_position place), run_bind_of_ok (run_bytes read), head,
    run_bind_of_ok (show (liftHeader (.ok header)).run _ = (.ok header, _) from rfl)]
  simp only [kind]
  unfold holedMember
  rw [if_neg (by rw [closed]; nofun)]
  rfl

theorem advance_of_eq {place : Place} (there : place.next = place.cursor.position) :
    advance stream place = .ok place := by
  unfold advance
  exact if_pos there

theorem members_succ (stream : Gzip.Stream) (fuel : Nat) {place : Place}
    (here : place.next = place.cursor.position) :
    members stream (fuel + 1) place =
      match (member stream depthLimit).run place with
      | (.ok member, after) =>
        (members stream fuel after).map fun others => (member :: others.1, others.2)
      | (.error trouble, after) =>
        (settle (decide (place.next = 0)) trouble).map fun _ => ([], after.cursor) := by
  have ready : advance stream place = .ok place := advance_of_eq here
  have goesOn : ¬ (place.next = 0 ∧ place.cursor.position ≠ 0) := by omega
  rw [members, if_neg goesOn]
  simp only [ready, bind, Except.bind]
  generalize (member stream depthLimit).run place = outcome
  rcases outcome with ⟨result, after⟩
  cases result with
  | ok member => cases members stream fuel after <;> rfl
  | error trouble => cases settle (decide (place.next = 0)) trouble <;> rfl

/-- The induction is on the blocks. The first one is told from the end of an archive by its place. -/
theorem members_blocks (finished : stream.ending = .finished) {blocks : List (Bytes × Header)}
    (lone : ∀ pair ∈ blocks, IsLone pair.1 pair.2) {front : Bytes}
    (content : stream.bytes.toList = front ++ blocks.flatMap Prod.fst) (some : front ≠ [] ∨ blocks ≠ [])
    {cursor : Gzip.Cursor} (here : cursor.position = front.length) {fuel : Nat}
    (enough : blocks.length < fuel) :
    members stream fuel ⟨cursor, front.length, []⟩ =
      .ok (membersFrom front.length blocks, { cursor with position := stream.bytes.size }) := by
  induction blocks generalizing front cursor fuel with
  | nil =>
    obtain ⟨fuel, rfl⟩ : ∃ fewer, fuel = fewer + 1 := ⟨fuel - 1, by omega⟩
    have size : front.length = stream.bytes.size := by
      rw [← Array.length_toList, content, List.flatMap_nil, List.append_nil]
    have read : stream.read (Place.mk cursor front.length []).cursor blockSize = .ok ([], cursor) :=
      read_at_end finished (here.trans size)
    have nothing : (member stream depthLimit).run ⟨cursor, front.length, []⟩ =
        (.error (.header .empty), ⟨cursor, front.length, []⟩) := by
      rw [depthLimit, member, run_bind_of_ok (run_position _), run_bind_of_ok (run_bytes read)]
      rfl
    have later : ¬ (front.length : Int) = 0 := by
      rcases some with some | none
      · have := List.length_pos_iff.2 some
        omega
      · exact absurd rfl none
    rw [members_succ stream fuel (congrArg Int.ofNat here.symm)]
    simp only [nothing, later, decide_false]
    rw [← size, ← here]
    rfl
  | cons pair rest ih =>
    rw [List.length_cons] at enough
    obtain ⟨fuel, rfl⟩ : ∃ fewer, fuel = fewer + 1 := ⟨fuel - 1, by omega⟩
    have first := lone pair List.mem_cons_self
    rw [List.flatMap_cons] at content
    have there : (member stream depthLimit).run ⟨cursor, front.length, []⟩ =
        (.ok ⟨pair.2, front.length, front.length + blockSize⟩,
          ⟨{ cursor with position := front.length + blockSize }, (front.length + blockSize : Nat), []⟩) :=
      run_member finished first content here rfl (depthLimit - 1)
    rw [← List.append_assoc] at content
    have passed : (front ++ pair.1).length = front.length + blockSize := by
      rw [List.length_append, first.length]
    have after : front ++ pair.1 ≠ [] := by
      rw [← List.length_pos_iff, passed]
      exact Nat.add_pos_right _ (by decide)
    have position : ({ cursor with position := front.length + blockSize } : Gzip.Cursor).position =
        (front ++ pair.1).length := passed.symm
    have left : rest.length < fuel := by omega
    have others := ih (fun other member => lone other (List.mem_cons_of_mem _ member)) content (.inl after)
      position left
    rw [passed] at others
    rw [members_succ stream fuel (congrArg Int.ofNat here.symm)]
    simp only [there, others]
    rfl

end Listing

/-- A file with holes at the beginning of an archive, whose size leads back there, is its only member. -/
theorem list_of_holed {stream : Gzip.Stream} {block : Bytes} {header : Header} {outline : Outline}
    (filled : stream.bytes.size ≠ 0)
    (read : stream.read .start blockSize = .ok (block, ⟨blockSize, .empty⟩))
    (head : Header.read block = .ok header) (kind : header.kind = .holed outline)
    (closed : outline.goesOn = false) (back : blockSize + wholeBlocks header.size = 0) :
    list stream =
      .ok ([⟨{ header with kind := .file, size := outline.size, runs := some (outline.runs ++ []) }, 0,
        blockSize⟩], ⟨blockSize, .empty⟩) := by
  obtain ⟨fewer, size⟩ := Nat.exists_eq_succ_of_ne_zero filled
  have goes := Listing.run_member_of_holed (show stream.read Place.start.cursor blockSize = _ from read) head
    kind closed (Listing.depthLimit - 1)
  dsimp only at goes
  rw [back] at goes
  have others : Listing.members stream (fewer + 1) ⟨⟨blockSize, .empty⟩, 0, Place.start.shared⟩ =
      .ok ([], ⟨blockSize, .empty⟩) := by
    rw [Listing.members]
    exact if_pos ⟨rfl, nofun⟩
  rw [list, size, Listing.members_succ stream _ rfl]
  simp only [Listing.depthLimit, Nat.add_one_sub_one] at goes ⊢
  rw [goes]
  exact congrArg (Except.map _) others

end Archive

/-- The archive of such blocks. -/
def Archive.ofBlocks (blocks : List (Text.Bytes × Archive.Header)) : Archive where
  stream :=
    let content := blocks.flatMap Prod.fst
    ⟨content.toArray,
      [⟨0, content.length, #[⟨content.length, content.length + 5, true⟩], none⟩], .finished⟩
  members := Archive.membersFrom 0 blocks
  cursor := ⟨(blocks.flatMap Prod.fst).length, .empty⟩

theorem Archive.length_flatMap_of_isLone {blocks : List (Text.Bytes × Archive.Header)}
    (lone : ∀ pair ∈ blocks, Archive.IsLone pair.1 pair.2) :
    (blocks.flatMap Prod.fst).length = Archive.blockSize * blocks.length := by
  induction blocks with
  | nil => rfl
  | cons pair rest ih =>
    rw [List.flatMap_cons, List.length_append, List.length_cons, (lone pair List.mem_cons_self).length,
      ih fun other member => lone other (List.mem_cons_of_mem _ member), Nat.mul_succ, Nat.add_comm]

/-- Blocks that are stored in a compressed file are read as the members they are the headers of. -/
theorem Archive.ofBytes_stored {blocks : List (Text.Bytes × Archive.Header)}
    (lone : ∀ pair ∈ blocks, Archive.IsLone pair.1 pair.2) (some : blocks ≠ [])
    (short : Archive.blockSize * blocks.length ≤ Compression.mostStored) :
    Archive.ofBytes (Compression.Gzip.stored (blocks.flatMap Prod.fst)) = .ok (Archive.ofBlocks blocks) := by
  have length := Archive.length_flatMap_of_isLone lone
  have many : blocks.length ≤ (blocks.flatMap Prod.fst).length :=
    length.symm ▸ Nat.le_mul_of_pos_left _ (by decide)
  have read : Archive.Listing.members (Archive.ofBlocks blocks).stream
      ((blocks.flatMap Prod.fst).toArray.size + 1) ⟨.start, ([] : Text.Bytes).length, []⟩ = _ :=
    Archive.Listing.members_blocks rfl lone rfl (.inr some) rfl (Nat.lt_succ_of_le many)
  rw [Archive.ofBytes, Compression.Gzip.read_stored (length.symm ▸ short)]
  exact congrArg (Except.map _) read

end Bookbinder
