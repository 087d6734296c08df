import Bookbinder.Archive.Copy
import Bookbinder.Proofs.Archive.Tape
import Bookbinder.Proofs.Compression.Wrapping

/-!
What it means that bytes are an archive of files, one after the other. Main statement: such an archive in a
compressed file is read as members that are the files in their order, and all that a file holds is copied.
-/

set_option autoImplicit false

namespace Bookbinder

namespace Text

theorem length_encodeUtf8_digits (n : Nat) : (encodeUtf8 (digits 8 n).toList).length = (Nat.toDigits 8 n).length := by
  rw [digits, String.toList_ofList, encodeUtf8_of_small, List.length_map]
  intro c member
  have bounds := bounds_of_isDigit (areDigits_toDigits (by decide) (by decide) n c member).1
  omega

end Text

namespace Archive

open Bookbinder.Text (Bytes)
open Bookbinder.Compression (Gzip.Stream Gzip.Cursor)

/-- A regular file: the names that lead to it, its permission bits, and what it holds. -/
structure Packed where
  names : List String
  mode : Nat
  bytes : Bytes
  deriving DecidableEq, Repr

def Packed.name (file : Packed) : String := "/".intercalate file.names

/-- Files with the fields that all of them have so far: of each its headers and its data in whole blocks, and
after them a block of zeros or nothing. What fills the last block of a file is not looked at, and neither is
what comes after the block of zeros. -/
inductive Follow : Fields → List Packed → Bytes → Prop
  | zeros {shared : Fields} (rest : Bytes) : Follow shared [] (List.replicate blockSize 0 ++ rest)
  | nothing {shared : Fields} : Follow shared [] []
  | file {file : Packed} {files : List Packed} {count : Nat} {shared after : Fields} {head padding rest : Bytes}
    (heads : Heads file.mode count shared after ⟨some file.name, some file.bytes.length⟩ head)
    (few : count ≤ Listing.depthLimit)
    (fills : ((file.bytes.length + padding.length : Nat) : Int) = wholeBlocks file.bytes.length)
    (others : Follow after files rest) : Follow shared (file :: files) (head ++ (file.bytes ++ (padding ++ rest)))

/-- An archive without any file still has the block of zeros. -/
structure IsReel (files : List Packed) (tape : Bytes) : Prop where
  follow : Follow [] files tape
  some : tape ≠ []
  short : tape.length < Listing.positionLimit

/-! ### Members that are files -/

/-- A member of an archive that is a file, with its data where the member says that they are. -/
structure Member.Keeps (stream : Gzip.Stream) (file : Packed) (member : Member) : Prop where
  told : member.IsAs file.mode ⟨Option.some file.name, Option.some file.bytes.length⟩ member.dataStart
  there : ∃ front rest, stream.bytes.toList = front ++ (file.bytes ++ rest) ∧ front.length = member.dataStart
  near : (member.dataStart : Int) < Listing.positionLimit

theorem IsHeader.length_pos {byte : UInt8} {size mode : Nat} {seconds : Int} {block : Bytes}
    (is : IsHeader byte size mode seconds block) : 0 < block.length :=
  is.length.symm ▸ (by decide : 0 < blockSize)

theorem Heads.length_pos {mode count : Nat} {shared after : Fields} {told : Told} {head : Bytes}
    (heads : Heads mode count shared after told head) : 0 < head.length := by
  have announced {byte : UInt8} {content header : Bytes} (announces : Announces byte content header)
      (others : Bytes) : 0 < (header ++ others).length := by
    obtain ⟨is, -, -⟩ := announces
    have := is.length_pos
    simp only [List.length_append]
    omega
  cases heads with
  | file known is => exact is.length_pos
  | longName shown announces => exact announced announces _
  | ownFields own path sized fits are announces => exact announced announces _
  | sharedFields idle are announces => exact announced announces _

namespace Listing

variable {stream : Gzip.Stream}

theorem seek_of_le (finished : stream.ending = .finished) (cursor : Gzip.Cursor) {target : Nat}
    (there : target ≤ stream.bytes.size) (near : (target : Int) < positionLimit) :
    seek stream cursor target = .ok { cursor with position := target } := by
  have within : ¬ ((target : Int) < -positionLimit ∨ positionLimit ≤ (target : Int)) := by
    simp only [positionLimit] at near ⊢
    omega
  rw [seek, if_neg within]
  simp only [Compression.Gzip.Stream.seek, finished, Int.toNat_natCast, Nat.min_eq_left there]

/-- What is before the next header is passed over. -/
theorem advance_to (finished : stream.ending = .finished) {place : Place} {target : Nat} (next : place.next = target)
    (there : target ≤ stream.bytes.size) (near : (target : Int) < positionLimit)
    (first : target = 0 → place.cursor.position = 0) :
    advance stream place = .ok { place with cursor := { place.cursor with position := target } } := by
  by_cases same : place.cursor.position = target
  · rw [advance_of_eq (next.trans (congrArg Int.ofNat same.symm)), ← same]
  · have back : place.next - 1 = ((target - 1 : Nat) : Int) := by omega
    have sought := seek_of_le finished place.cursor (show target - 1 ≤ stream.bytes.size by omega)
      (show ((target - 1 : Nat) : Int) < positionLimit by omega)
    have last : (target - 1) + 1 = target := by omega
    have read := Compression.Gzip.Stream.read_of_finished stream { place.cursor with position := target - 1 } 1 finished
      (by simp only; omega)
    have single : (stream.bytes.extract (target - 1) (target - 1 + 1)).toList.length = 1 := by
      rw [Array.length_toList, Array.size_extract]
      omega
    rw [advance, if_neg (by omega), back, sought]
    simp only [bind, Except.bind]
    rw [read]
    obtain ⟨byte, one⟩ := List.length_eq_one_iff.1 single
    rw [last] at one
    simp only [last, one]
    rfl

/-- Where no header is, an archive ends that has begun. -/
theorem members_ended {place here : Place} {fault : HeaderFault} (goesOn : ¬ (place.next = 0 ∧ place.cursor.position ≠ 0))
    (gone : advance stream place = .ok here) {block : Bytes} {later : Place}
    (read : (bytes stream blockSize).run here = (.ok block, later)) (none : Header.read block = .error fault)
    (settled : settle (decide (place.next = 0)) (.header fault) = .ok ()) (fuel : Nat) :
    members stream (fuel + 1) place = .ok ([], later.cursor) := by
  have ended : (member stream depthLimit).run here = (.error (.header fault), later) := by
    rw [depthLimit, member, run_bind_of_ok (run_position _), run_bind_of_ok read, none]
    rfl
  rw [members, if_neg goesOn, gone]
  simp only [bind, Except.bind, ended, settled]
  rfl

/-- The induction is on the files. The next header is expected after the last block of a file, whether or not the
file has data to be passed over. -/
theorem members_of_follow (finished : stream.ending = .finished) {shared : Fields} {files : List Packed} {bytes : Bytes}
    (follow : Follow shared files bytes) (are : shared.AreIdle) {front : Bytes}
    (content : stream.bytes.toList = front ++ bytes) (some : front ≠ [] ∨ bytes ≠ [])
    (near : (stream.bytes.size : Int) < positionLimit) {place : Place} (next : place.next = front.length)
    (first : front = [] → place.cursor.position = 0) (known : place.shared = shared) {fuel : Nat}
    (enough : bytes.length < fuel) :
    ∃ found cursor, members stream fuel place = .ok (found, cursor) ∧ List.Forall₂ (Member.Keeps stream) files found := by
  have size (front rest : Bytes) (content : stream.bytes.toList = front ++ rest) :
      stream.bytes.size = front.length + rest.length := by
    rw [← Array.length_toList, content, List.length_append]
  have goesOn : ¬ (place.next = 0 ∧ place.cursor.position ≠ 0) := by
    rintro ⟨start, moved⟩
    exact moved (first (List.eq_nil_of_length_eq_zero (by omega)))
  have whole := size front bytes content
  have gone := advance_to finished next (show front.length ≤ stream.bytes.size by omega) (by omega)
    (fun none => first (List.eq_nil_of_length_eq_zero none))
  obtain ⟨fuel, rfl⟩ : ∃ fewer, fuel = fewer + 1 := ⟨fuel - 1, by omega⟩
  induction follow generalizing front place fuel with
  | zeros rest =>
    have read := @run_bytes_here stream { place with cursor := { place.cursor with position := front.length } } finished
      front (List.replicate blockSize 0) rest blockSize content rfl (by rw [List.length_replicate]) (by decide)
    have zeroBlock : Header.read (List.replicate blockSize 0) = .error .zeroBlock := by
      rw [Header.read, List.length_replicate, List.isEmpty_replicate, List.all_replicate]
      rfl
    exact ⟨[], _, members_ended goesOn gone read zeroBlock rfl fuel, .nil⟩
  | nothing =>
    have begun : ¬ place.next = 0 := by
      rintro start
      rcases some with some | none
      · exact some (List.eq_nil_of_length_eq_zero (by omega))
      · exact none rfl
    have read : (Listing.bytes stream blockSize).run
        { place with cursor := { place.cursor with position := front.length } } =
          (.ok [], { place with cursor := { place.cursor with position := front.length } }) :=
      run_bytes (read_at_end finished (by simpa using whole.symm))
    exact ⟨[], _, members_ended goesOn gone read rfl (by rw [settle, decide_eq_false begun]; rfl) fuel, .nil⟩
  | @file file files count shared after head padding rest heads few fills others ih =>
    have long := heads.length_pos
    simp only [List.length_append] at enough whole
    have finds : Finds stream depthLimit { place with cursor := { place.cursor with position := front.length } } file.mode
        ⟨Option.some file.name, Option.some file.bytes.length⟩ (front.length + head.length) after ∧ after.AreIdle :=
      finds_of_heads heads are finished content rfl (by exact known) few
    obtain ⟨⟨found, expected, goes, is, sized⟩, areAfter⟩ := finds
    have data : stream.bytes.toList = (front ++ head) ++ (file.bytes ++ (padding ++ rest)) := by
      rw [content]
      simp only [List.append_assoc]
    have later : stream.bytes.toList = (front ++ head ++ file.bytes ++ padding) ++ rest := by
      rw [content]
      simp only [List.append_assoc]
    have length : (front ++ head ++ file.bytes ++ padding).length =
        front.length + head.length + file.bytes.length + padding.length := by
      simp only [List.length_append]
    have onward : expected = ((front ++ head ++ file.bytes ++ padding).length : Nat) := by
      rw [sized _ rfl, ← fills, length]
      omega
    have begun : front ++ head ++ file.bytes ++ padding ≠ [] := by
      rw [← List.length_pos_iff, length]
      omega
    have dataStart : found.dataStart = front.length + head.length := is.dataStart
    obtain ⟨fuel, rfl⟩ : ∃ fewer, fuel = fewer + 1 := ⟨fuel - 1, by omega⟩
    have none (start : front ++ head ++ file.bytes ++ padding = []) : front.length + head.length = 0 :=
      absurd start begun
    have passed := @advance_to stream finished ⟨{ place.cursor with position := front.length + head.length }, expected, after⟩
      _ onward (by omega) (by omega) (fun none => absurd (List.eq_nil_of_length_eq_zero none) begun)
    obtain ⟨more, cursor, rests, keeps⟩ := ih areAfter later (.inl begun) onward none rfl
      (fun ends => by
        have start : ((front ++ head ++ file.bytes ++ padding).length : Int) = 0 := onward.symm.trans ends.1
        exact begun (List.eq_nil_of_length_eq_zero (by omega)))
      (by omega) passed fuel (by omega)
    refine ⟨found :: more, cursor, ?_, .cons ⟨?_, ⟨front ++ head, padding ++ rest, data, ?_⟩, by omega⟩ keeps⟩
    · rw [members, if_neg goesOn, gone]
      simp only [bind, Except.bind, goes, rests]
      rfl
    · rwa [dataStart]
    · rw [List.length_append, dataStart]

end Listing

theorem Fields.areIdle_nil : Fields.AreIdle [] := ⟨by simp, List.nodup_nil⟩

/-! ### What is copied of a file -/

theorem copyPieces_here {stream : Gzip.Stream} (finished : stream.ending = .finished) (last count : Nat)
    {front piece rest : Bytes} (content : stream.bytes.toList = front ++ (piece ++ rest)) {cursor : Gzip.Cursor}
    (here : cursor.position = front.length) (length : piece.length = count * copySize + last) :
    ∃ after, copyPieces stream last count cursor = ⟨piece, after, none⟩ := by
  have whole {front piece rest : Bytes} (content : stream.bytes.toList = front ++ (piece ++ rest)) {cursor : Gzip.Cursor}
      (here : cursor.position = front.length) : wholePiece stream cursor piece.length =
        .ok (piece, { cursor with position := front.length + piece.length }) := by
    rw [wholePiece, Listing.read_here finished content here]
    simp
  induction count generalizing front piece cursor with
  | zero =>
    rw [copyPieces]
    rw [Nat.zero_mul, Nat.zero_add] at length
    split
    · next none =>
      rw [List.eq_nil_of_length_eq_zero (length.trans none)]
      exact ⟨cursor, rfl⟩
    · rw [copyPiece, ← length, whole content here]
      exact ⟨_, rfl⟩
  | succ count ih =>
    rw [Nat.succ_mul] at length
    have split : piece = piece.take copySize ++ piece.drop copySize := (List.take_append_drop _ _).symm
    have size : (piece.take copySize).length = copySize := by
      rw [List.length_take]
      omega
    have begins : stream.bytes.toList = front ++ (piece.take copySize ++ (piece.drop copySize ++ rest)) := by
      rw [content, ← List.append_assoc (piece.take copySize), ← split]
    have goesOn : stream.bytes.toList = (front ++ piece.take copySize) ++ (piece.drop copySize ++ rest) := by
      rw [begins, List.append_assoc]
    have first := whole begins here
    rw [size] at first
    have there : ({ cursor with position := front.length + copySize } : Gzip.Cursor).position =
        (front ++ piece.take copySize).length := by
      rw [List.length_append, size]
    obtain ⟨after, others⟩ := ih goesOn there (by rw [List.length_drop]; omega)
    refine ⟨after, ?_⟩
    rw [copyPieces, first]
    simp only [others, Copied.after, ← split]

/-- All that a file holds is copied, and nothing else. -/
theorem Member.Keeps.copied {stream : Gzip.Stream} {file : Packed} {member : Member} (keeps : member.Keeps stream file)
    (finished : stream.ending = .finished) (cursor : Gzip.Cursor) :
    ∃ start after, Listing.seek stream cursor member.dataStart = .ok start ∧
      copyData stream member.header start = ⟨file.bytes, after, none⟩ := by
  obtain ⟨front, rest, content, length⟩ := keeps.there
  have there : member.dataStart ≤ stream.bytes.size := by
    rw [← Array.length_toList, content, List.length_append]
    omega
  have size := keeps.told.size _ rfl
  have whole : file.bytes.length = file.bytes.length / copySize * copySize + file.bytes.length % copySize :=
    (Nat.div_add_mod' _ _).symm
  have here : ({ cursor with position := member.dataStart } : Gzip.Cursor).position = front.length := length.symm
  obtain ⟨after, copied⟩ := copyPieces_here finished (file.bytes.length % copySize) (file.bytes.length / copySize) content
    here whole
  refine ⟨_, after, Listing.seek_of_le finished cursor there keeps.near, ?_⟩
  rw [copyData, keeps.told.runs]
  simp only [copy, size]
  rwa [← Int.natCast_mod, ← Int.natCast_div, Int.toNat_natCast, Int.toNat_natCast]

/-! ### One way to write an archive -/

theorem endsField_replicate (count : Nat) : EndsField (List.replicate count 0) :=
  fun _ first => List.eq_of_mem_replicate (List.mem_of_mem_head? first)

theorem writes_padded (width number : Nat) : Writes number (padded width (Text.digits 8 number)) := by
  have writes := @Writes.digits 0 0 _ _ (Text.areDigits_toDigits (by decide) (by decide) number)
    (endsField_replicate (width - (Text.encodeUtf8 (Text.digits 8 number).toList).length))
  rw [Nat.ofDigitChars_toDigits (by decide) (by decide), List.replicate_zero, List.nil_append, List.append_nil] at writes
  rw [padded]
  simpa only [Text.digits, String.toList_ofList] using writes

theorem writes_zeros (width : Nat) : Writes 0 (padded width "") :=
  @Writes.digits 0 0 [] (List.replicate width 0) (fun _ member => absurd member List.not_mem_nil) (endsField_replicate width)

theorem shows_padded {text : String} (clean : '\x00' ∉ text.toList) (width : Nat) : Shows text (padded width text) :=
  .intro clean (endsField_replicate _)

theorem length_padded {width : Nat} {text : String} (fits : (Text.encodeUtf8 text.toList).length ≤ width) :
    (padded width text).length = width := by
  rw [padded, List.length_append, List.length_replicate]
  omega

/-- Fields one after the other, of their widths. -/
def fields (rows : List (Nat × String)) : Bytes := rows.flatMap fun row => padded row.1 row.2

/-- The texts of fields fit into them. -/
def RowsFit (rows : List (Nat × String)) : Prop := ∀ row ∈ rows, (Text.encodeUtf8 row.2.toList).length ≤ row.1

theorem length_fields {rows : List (Nat × String)} (fit : RowsFit rows) : (fields rows).length = (rows.map Prod.fst).sum := by
  induction rows with
  | nil => rfl
  | cons row rest ih =>
    have others := ih fun other member => fit other (List.mem_cons_of_mem _ member)
    rw [fields, List.flatMap_cons, List.length_append, length_padded (fit row List.mem_cons_self)]
    rw [fields] at others
    rw [others, List.map_cons, List.sum_cons]

/-- A field stands after the fields before it. -/
theorem field_fields {rows : List (Nat × String)} (fit : RowsFit rows) {place width : Nat} {text : String}
    (row : rows[place]? = some (width, text)) :
    field (fields rows) ((rows.take place).map Prod.fst).sum width = padded width text := by
  have split : rows = rows.take place ++ (width, text) :: rows.drop (place + 1) := by
    obtain ⟨inside, is⟩ := List.getElem?_eq_some_iff.1 row
    rw [← is, List.getElem_cons_drop, List.take_append_drop]
  have front : ((rows.take place).map Prod.fst).sum = (fields (rows.take place)).length :=
    (length_fields fun other member => fit other (List.mem_of_mem_take member)).symm
  have size := length_padded (fit _ (List.mem_of_getElem? row))
  have whole : fields rows = fields (rows.take place) ++ (padded width text ++ fields (rows.drop (place + 1))) := by
    conv_lhs => rw [split]
    rw [fields, List.flatMap_append, List.flatMap_cons]
    rfl
  rw [front, whole, field, List.drop_left, List.take_left' size]

/-- The fields of a header before its checksum, and those after it. -/
def Packed.earlierRows (file : Packed) : List (Nat × String) :=
  [(100, file.name), (8, Text.digits 8 file.mode), (8, ""), (8, ""), (12, Text.digits 8 file.bytes.length), (12, "")]

def laterRows : List (Nat × String) :=
  [(1, "0"), (100, ""), (6, "ustar"), (2, "00"), (32, ""), (32, ""), (8, ""), (8, ""), (155, ""), (12, "")]

/-- The sum of the bytes of a header, with blanks for the sum. -/
def Packed.sum (file : Packed) : Nat :=
  ((fields file.earlierRows ++ List.replicate 8 0x20 ++ fields laterRows).map UInt8.toNat).sum

def Packed.rows (file : Packed) : List (Nat × String) := file.earlierRows ++ (8, Text.digits 8 file.sum) :: laterRows

/-- A header of a file with a short name. -/
def Packed.block (file : Packed) : Bytes := fields file.rows

/-- A file that a header in digits has room for. -/
structure Packed.IsShort (file : Packed) : Prop where
  name : (Text.encodeUtf8 file.name.toList).length ≤ 100
  clean : '\x00' ∉ file.name.toList
  mode : file.mode < 8 ^ 8
  size : file.bytes.length < 8 ^ 12

theorem fits_digits {n width : Nat} (some : 0 < width) (small : n < 8 ^ width) :
    (Text.encodeUtf8 (Text.digits 8 n).toList).length ≤ width := by
  rw [Text.length_encodeUtf8_digits]
  exact (Nat.length_toDigits_le_iff (by decide) some).2 small

theorem sum_le (bytes : Bytes) : (bytes.map UInt8.toNat).sum ≤ 255 * bytes.length := by
  induction bytes with
  | nil => exact Nat.le_refl 0
  | cons byte rest ih =>
    have small := byte.toNat_lt
    rw [List.map_cons, List.sum_cons, List.length_cons]
    omega

variable {file : Packed}

theorem fit_laterRows : RowsFit laterRows := by
  unfold RowsFit
  decide

theorem Packed.IsShort.fit_earlierRows (short : file.IsShort) : RowsFit file.earlierRows := by
  have none (width : Nat) : (Text.encodeUtf8 ("" : String).toList).length ≤ width := Nat.zero_le width
  intro row member
  simp only [Packed.earlierRows, List.mem_cons, List.not_mem_nil, or_false] at member
  rcases member with rfl | rfl | rfl | rfl | rfl | rfl
  · exact short.name
  · exact fits_digits (Nat.succ_pos _) short.mode
  · exact none 8
  · exact none 8
  · exact fits_digits (Nat.succ_pos _) short.size
  · exact none 12

theorem Packed.IsShort.sum_lt (short : file.IsShort) : file.sum < 8 ^ 8 := by
  have bound := sum_le (fields file.earlierRows ++ List.replicate 8 0x20 ++ fields laterRows)
  have front : (file.earlierRows.map Prod.fst).sum = 148 := rfl
  have after : (laterRows.map Prod.fst).sum = 356 := rfl
  rw [List.length_append, List.length_append, length_fields short.fit_earlierRows, length_fields fit_laterRows, front, after,
    List.length_replicate] at bound
  rw [Packed.sum]
  omega

theorem Packed.IsShort.fit (short : file.IsShort) : RowsFit file.rows := by
  intro row member
  rcases List.mem_append.1 member with early | late
  · exact short.fit_earlierRows row early
  · rcases List.mem_cons.1 late with rfl | late
    · exact fits_digits (Nat.succ_pos _) short.sum_lt
    · exact fit_laterRows row late

/-- The fields of a header stand where they are looked for. -/
theorem Packed.IsShort.field_block (short : file.IsShort) {index place width : Nat} {text : String}
    (row : file.rows[index]? = some (width, text)) (start : ((file.rows.take index).map Prod.fst).sum = place) :
    field file.block place width = padded width text := by
  rw [← start]
  exact field_fields short.fit row

theorem Packed.IsShort.sum_covered (short : file.IsShort) : ((covered file.block).map UInt8.toNat).sum = file.sum := by
  -- the sum is taken with blanks in its own place
  have whole : file.block = fields file.earlierRows ++ (padded 8 (Text.digits 8 file.sum) ++ fields laterRows) := by
    rw [Packed.block, fields, Packed.rows, List.flatMap_append, List.flatMap_cons]
    rfl
  have front : (fields file.earlierRows).length = 148 := length_fields short.fit_earlierRows
  have middle := length_padded (fits_digits (Nat.succ_pos 7) short.sum_lt)
  have before : (fields file.earlierRows ++ padded 8 (Text.digits 8 file.sum)).length = 156 := by
    rw [List.length_append, front, middle]
  rw [covered, whole, List.take_left' front, ← List.append_assoc, List.drop_left' before]
  rfl

theorem Packed.IsShort.isHeader (short : file.IsShort) : IsHeader 0x30 file.bytes.length file.mode 0 file.block where
  length := by
    have front : (file.earlierRows.map Prod.fst).sum = 148 := rfl
    have after : (laterRows.map Prod.fst).sum = 356 := rfl
    rw [Packed.block, length_fields short.fit, Packed.rows, List.map_append, List.map_cons, List.sum_append,
      List.sum_cons, front, after]
    exact (by decide : 148 + (8 + 356) = blockSize)
  byte := by
    have here := @Packed.IsShort.field_block file short 7 156 1 _ rfl rfl
    rw [here]
    rfl
  size := by
    have here := @Packed.IsShort.field_block file short 4 124 12 _ rfl rfl
    rw [here]
    exact writes_padded 12 _
  mode := by
    have here := @Packed.IsShort.field_block file short 1 100 8 _ rfl rfl
    rw [here]
    exact writes_padded 8 _
  seconds := by
    have here := @Packed.IsShort.field_block file short 5 136 12 _ rfl rfl
    rw [here]
    exact writes_zeros 12
  unkept := by
    have zeros {index place : Nat} (row : file.rows[index]? = some (8, ""))
        (start : ((file.rows.take index).map Prod.fst).sum = place) :
        ∃ number, Writes number (field file.block place 8) := by
      rw [short.field_block row start]
      exact ⟨0, writes_zeros 8⟩
    intro place member
    simp only [List.mem_cons, List.not_mem_nil, or_false] at member
    rcases member with rfl | rfl | rfl | rfl
    · exact @zeros 2 108 rfl rfl
    · exact @zeros 3 116 rfl rfl
    · exact @zeros 13 329 rfl rfl
    · exact @zeros 14 337 rfl rfl
  checksum := by
    have here := @Packed.IsShort.field_block file short 6 148 8 _ rfl rfl
    rw [short.sum_covered, here]
    exact writes_padded 8 _

theorem Packed.IsShort.heads (short : file.IsShort) (shared : Fields) :
    Heads file.mode 1 shared shared ⟨some file.name, some file.bytes.length⟩ file.block := by
  have beginning := @Packed.IsShort.field_block file short 15 345 155 _ rfl rfl
  have last := @Packed.IsShort.field_block file short 0 0 100 _ rfl rfl
  have named : ∀ name ∈ some file.name, ∃ beginning last, Shows beginning (field file.block 345 155) ∧
      Shows last (field file.block 0 100) ∧ name = withBeginning beginning last := by
    intro name told
    cases told
    rw [beginning, last]
    exact ⟨"", file.name, shows_padded (by decide) 155, shows_padded short.clean 100, rfl⟩
  refine .file (by decide) short.isHeader (by decide) (fun zero => absurd zero (by decide)) named ?_
  intro length told
  cases told
  rfl

/-- An archive of files with short names: of each its header and its data, and then two blocks of zeros. -/
def tape : List Packed → Bytes
  | [] => List.replicate blockSize 0 ++ List.replicate blockSize 0
  | file :: files =>
    file.block ++ (file.bytes ++
      (List.replicate ((blockSize - file.bytes.length % blockSize) % blockSize) 0 ++ tape files))

theorem follow_tape {files : List Packed} (short : ∀ file ∈ files, file.IsShort) (shared : Fields) :
    Follow shared files (tape files) := by
  -- no header tells anything of the files after it, so the shared fields stay the same
  induction files with
  | nil => exact .zeros _
  | cons file files ih =>
    refine .file ((short file List.mem_cons_self).heads shared) (by decide) ?_
      (ih fun other member => short other (List.mem_cons_of_mem _ member))
    rw [List.length_replicate]
    simp only [wholeBlocks, blockSize]
    omega

theorem isReel_tape {files : List Packed} (short : ∀ file ∈ files, file.IsShort)
    (few : (tape files).length < Listing.positionLimit) : IsReel files (tape files) where
  follow := follow_tape short []
  some := by
    cases files with
    | nil => exact List.append_ne_nil_of_left_ne_nil (List.cons_ne_nil _ _) _
    | cons file files =>
      have long := (short file List.mem_cons_self).isHeader.length_pos
      exact List.append_ne_nil_of_left_ne_nil (List.ne_nil_of_length_pos long) _
  short := few

end Archive

/-- A compressed archive is read as its files. -/
theorem Archive.ofBytes_of_wraps {files : List Archive.Packed} {tape data : Text.Bytes} (reel : Archive.IsReel files tape)
    (wraps : Compression.Gzip.Wraps tape data) :
    ∃ archive, Archive.ofBytes data = .ok archive ∧ archive.stream.ending = .finished ∧
      List.Forall₂ (Archive.Member.Keeps archive.stream) files archive.members := by
  obtain ⟨segments, read⟩ := Compression.Gzip.read_of_wraps wraps
  have content : (Compression.Gzip.read data).bytes.toList = [] ++ tape := by rw [read, List.nil_append]
  have finished : (Compression.Gzip.read data).ending = .finished := by rw [read]
  have size : (Compression.Gzip.read data).bytes.size = tape.length := by rw [read, List.size_toArray]
  have begins : Archive.Place.start.next = ([] : Text.Bytes).length := rfl
  have enough : tape.length < (Compression.Gzip.read data).bytes.size + 1 := by omega
  obtain ⟨members, cursor, listed, keeps⟩ := Archive.Listing.members_of_follow finished reel.follow
    Archive.Fields.areIdle_nil content (.inr reel.some) (size ▸ reel.short) begins (fun _ => rfl) rfl enough
  exact ⟨⟨_, members, cursor⟩, by rw [ofBytes, list, listed]; rfl, finished, keeps⟩

end Bookbinder
