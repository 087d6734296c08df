import Bookbinder.Compression.ReadAhead
import Bookbinder.Proofs.Compression.Pace

/-!
Files that are cut. Main statement: what can be read of a file of one member that is cut is a beginning of
what the whole file holds; anywhere in it, reading gives the same as in the whole, or comes to the cut.
-/

set_option autoImplicit false

namespace Bookbinder.Compression

open Bookbinder.Text (Bytes)

namespace Gzip

open Reader

variable {missing : Nat}

/-- A text that does not end in data that are cut is all that is left of them. -/
theorem keepsPace_skipText : KeepsPace missing skipText := by
  intro cut whole value after behind read
  cases read
  refine .inr ⟨_, rfl, ?_⟩
  dsimp only
  by_cases all : (cut.rest.takeWhile (· != 0)).length = cut.rest.length
  · have none : (cut.skip ((cut.rest.takeWhile (· != 0)).length + 1)).rest = [] := by
      rw [all, Bits.skip, List.drop_eq_nil_of_le (Nat.le_succ _)]
    refine ⟨rfl, ?_, ?_⟩
    · rw [none]
      exact List.nil_prefix
    · rw [none]
      exact Nat.zero_le _
  · have same : whole.rest.takeWhile (· != 0) = cut.rest.takeWhile (· != 0) := by
      obtain ⟨tail, same⟩ := behind.rest
      rw [← same, List.takeWhile_append, if_neg all]
    rw [same]
    exact behind.skip (Nat.lt_of_le_of_ne (List.takeWhile_prefix _).length_le all)

theorem keepsPace_skipFields (flags : Flags) : KeepsPace missing (skipFields skipText flags) := by
  have comment : KeepsPace missing (if flags.comment then skipText else pure ()) :=
    keepsPace_ite keepsPace_skipText (keepsPace_pure ())
  have name : KeepsPace missing
      (do
        if flags.name then skipText
        if flags.comment then skipText) :=
    keepsPace_ite (keepsPace_skipText.bind fun _ => comment) comment
  exact keepsPace_ite ((keepsPace_littleEndian 2).bind fun _ => (keepsPace_bytes _).bind fun _ => name) name

theorem keepsPace_readHeader : KeepsPace missing readHeader := by
  refine (keepsPace_littleEndian 1).bind fun method => (keepsPace_littleEndian 1).bind fun flags => ?_
  refine (keepsPace_bytes _).bind fun _ => keepsPace_ite (keepsPace_pure false) ?_
  refine (keepsPace_skipFields _).bind fun _ => ?_
  exact keepsPace_ite ((keepsPace_bytes 2).bind fun _ => keepsPace_pure true) (keepsPace_pure true)

/-- A file of one member: after its data there is a trailer, and nothing else. -/
structure IsSingle (data : Bytes) : Prop where
  starts : data.take 2 = magic
  member : ∃ bits trailer, readHeader.run (.start (data.drop 2)) = .ok (true, bits) ∧
    (inflate bits.rest).rest = .ok trailer ∧ trailer.length = 8

/-- A stream that ends before another one does. -/
structure Stream.IsCutOf (cut whole : Stream) : Prop where
  ending : cut.ending = .cut
  undamaged : ∀ damage, whole.ending ≠ .damaged damage
  bytes : cut.bytes.toList <+: whole.bytes.toList

theorem checkTrailer_cases (content : Array UInt8) (given : Nat × Nat) :
    checkTrailer content given = .ok () ∨
      ∃ ending, checkTrailer content given = .error ending ∧ ∀ damage, ending ≠ .damaged damage := by
  unfold checkTrailer
  dsimp only
  split
  · exact .inr ⟨_, rfl, nofun⟩
  · split
    · exact .inr ⟨_, rfl, nofun⟩
    · exact .inl rfl

/-- A trailer with nothing after it may be wrong, but that is no damage. -/
theorem afterTrailer_of_single (content : Array UInt8) {trailer : Bytes} (length : trailer.length = 8) :
    afterTrailer content trailer = .ok [] ∨
      ∃ ending, afterTrailer content trailer = .error ending ∧ ∀ damage, ending ≠ .damaged damage := by
  have fields : (bytes 8).run (.start trailer) = .ok (trailer, ⟨[], [], 8⟩) := by
    have read := run_bytes length [] [] 0
    rw [List.append_nil] at read
    exact read
  rw [afterTrailer, readTrailer, run_bind_of_ok fields]
  change Except.map _ (checkTrailer content _) = _ ∨ ∃ ending, Except.map _ (checkTrailer content _) = _ ∧ _
  rcases checkTrailer_cases content _ with right | ⟨ending, wrong, undamaged⟩
  · rw [right]
    exact .inl rfl
  · rw [wrong]
    exact .inr ⟨ending, rfl, undamaged⟩

theorem afterTrailer_of_short (content : Array UInt8) {trailer : Bytes} (short : trailer.length < 8) :
    afterTrailer content trailer = .error .cut := by
  have fields : (bytes 8).run (.start trailer) = .error .cut := by rw [run_bytes_eq]; exact if_pos short
  rw [afterTrailer, readTrailer, StateT.run_bind, fields]
  rfl

/-- What is left of the first member of a file decides how it goes on. -/
theorem read_of_header {data : Bytes} {bits : Bits} (starts : data.take 2 = magic)
    (header : readHeader.run (.start (data.drop 2)) = .ok (true, bits)) :
    read data =
      match afterData (inflate bits.rest) with
      | .error ending => Stream.extend ⟨#[], [], .finished⟩ (inflate bits.rest) ending
      | .ok rest =>
        readMembers data.length (Stream.extend ⟨#[], [], .finished⟩ (inflate bits.rest) .finished) rest := by
  cases data with
  | nil => cases starts
  | cons byte data =>
    rw [read, readMembers]
    · refine (if_neg (not_not_intro starts)).trans ?_
      exact header ▸ rfl
    · nofun

theorem read_of_stop {data : Bytes} {stop : Stop} (starts : data.take 2 = magic)
    (header : readHeader.run (.start (data.drop 2)) = .error stop) :
    read data = ⟨#[], [], .ofStop stop⟩ := by
  cases data with
  | nil => cases starts
  | cons byte data =>
    rw [read, readMembers]
    · simp only [starts, ne_eq, not_true_eq_false, if_false, header]
    · nofun

theorem bytes_extend (inflated : Inflated) (ending : Ending) :
    (Stream.extend ⟨#[], [], .finished⟩ inflated ending).bytes = inflated.output := by
  rw [Stream.extend, Array.empty_append]

/-- A file of one member holds what its data hold, and no damage. -/
theorem read_of_single {data : Bytes} {bits : Bits} {trailer : Bytes} (starts : data.take 2 = magic)
    (header : readHeader.run (.start (data.drop 2)) = .ok (true, bits))
    (ends : (inflate bits.rest).rest = .ok trailer) (length : trailer.length = 8) :
    (read data).bytes = (inflate bits.rest).output ∧ ∀ damage, (read data).ending ≠ .damaged damage := by
  rw [read_of_header starts header, afterData, ends]
  dsimp only
  rcases afterTrailer_of_single (inflate bits.rest).output length with whole | ⟨ending, wrong, undamaged⟩
  · rw [whole]
    dsimp only
    cases data with
    | nil => cases starts
    | cons byte data =>
      refine ⟨bytes_extend _ _, fun damage damaged => ?_⟩
      cases damaged
  · rw [wrong]
    exact ⟨bytes_extend _ _, undamaged⟩

theorem Stream.isCutOf_extend {cut whole : Inflated} {stream : Stream}
    (starts : cut.output.toList <+: whole.output.toList) (bytes : stream.bytes = whole.output)
    (undamaged : ∀ damage, stream.ending ≠ .damaged damage) :
    (Stream.extend ⟨#[], [], .finished⟩ cut .cut).IsCutOf stream := by
  refine ⟨rfl, undamaged, ?_⟩
  rw [bytes_extend, bytes]
  exact starts

/-- What can be read of a file of one member that is cut. -/
theorem read_cut {cut whole : Bytes} (single : IsSingle whole) (starts : cut <+: whole) (short : cut ≠ whole)
    (some : 2 ≤ cut.length) : (read cut).IsCutOf (read whole) := by
  obtain ⟨magical, bits, trailer, header, ends, eight⟩ := single
  obtain ⟨bytes, undamaged⟩ := read_of_single magical header ends eight
  have less : cut.length < whole.length :=
    Nat.lt_of_le_of_ne starts.length_le fun same => short (starts.eq_of_length same)
  obtain ⟨tail, rfl⟩ := starts
  have first : cut.take 2 = magic := by rw [← magical, List.take_append_of_le_length some]
  have behind : (Bits.start (cut.drop 2)).Behind tail.length (.start ((cut ++ tail).drop 2)) := by
    rw [List.drop_append_of_le_length some]
    refine ⟨rfl, List.prefix_append _ _, ?_⟩
    simp only [Bits.start, List.length_append, Nat.add_sub_cancel, Nat.le_refl]
  have missed : 0 < tail.length := by
    rw [List.length_append] at less
    omega
  rcases keepsPace_readHeader _ _ _ _ behind header with stopped | ⟨before, read, behind⟩
  · -- nothing is there of the data
    rw [read_of_stop first stopped]
    exact ⟨rfl, undamaged, List.nil_prefix⟩
  · rw [read_of_header first read]
    rcases inflate_cut behind.rest behind.fewer ends with
      ⟨stopped, output⟩ | ⟨left, here, within, fewer, output⟩
    · rw [afterData, stopped]
      exact Stream.isCutOf_extend output bytes undamaged
    -- all data are there, so it is the trailer that is cut
    · have short : left.length < 8 := by omega
      rw [afterData, here]
      dsimp only
      rw [afterTrailer_of_short _ short]
      exact Stream.isCutOf_extend (output ▸ List.prefix_refl _) bytes undamaged

/-! ### Reading at any place -/

namespace Stream.IsCutOf

variable {cut whole : Stream}

theorem size_le (isCut : cut.IsCutOf whole) : cut.bytes.size ≤ whole.bytes.size :=
  isCut.bytes.length_le

theorem extract_eq (isCut : cut.IsCutOf whole) (position : Nat) {stop : Nat}
    (within : stop ≤ cut.bytes.size) :
    whole.bytes.extract position stop = cut.bytes.extract position stop := by
  obtain ⟨tail, same⟩ := isCut.bytes
  have appended : whole.bytes = cut.bytes ++ tail.toArray := by
    rw [← Array.toList_inj, Array.toList_append, same]
  rw [appended, Array.extract_append, Nat.sub_eq_zero_of_le within, Array.extract_zero, Array.append_empty]

theorem read_of_le (isCut : cut.IsCutOf whole) (cursor : Cursor) {count : Nat}
    (within : cursor.position + count ≤ cut.bytes.size) :
    cut.read cursor count =
        .ok ((cut.bytes.extract cursor.position (cursor.position + count)).toList,
          { cursor with position := cursor.position + count }) ∧
      whole.read cursor count = cut.read cursor count := by
  have read {stream : Stream} (undamaged : ∀ damage, stream.ending ≠ .damaged damage)
      (inside : cursor.position + count ≤ stream.bytes.size) :
      stream.read cursor count =
        .ok ((stream.bytes.extract cursor.position (cursor.position + count)).toList,
          { cursor with position := cursor.position + count }) := by
    have length : (stream.bytes.extract cursor.position (cursor.position + count)).toList.length = count := by
      rw [Array.length_toList, Array.size_extract]
      omega
    rw [Stream.read]
    split
    · next damage damaged => exact absurd damaged (undamaged damage)
    · rw [Stream.slice_of_le stream _ _ inside]
      simp only [bind, Except.bind, pure, Except.pure, length]
  have undamaged : ∀ damage, cut.ending ≠ .damaged damage := by
    intro damage damaged
    rw [isCut.ending] at damaged
    cases damaged
  rw [read undamaged within, read isCut.undamaged (Nat.le_trans within isCut.size_le),
    isCut.extract_eq _ within]
  exact ⟨rfl, rfl⟩

theorem read_of_lt (isCut : cut.IsCutOf whole) (cursor : Cursor) {count : Nat} (some : count ≠ 0)
    (beyond : cut.bytes.size < cursor.position + count) : cut.read cursor count = .error .cut := by
  have fewer : ¬ ((cut.bytes.extract cursor.position (cursor.position + count)).toList.length = count ∨
      cut.ending = .finished) := by
    rw [isCut.ending, Array.length_toList, Array.size_extract]
    rintro (all | finished)
    · omega
    · cases finished
  have slice : cut.slice cursor.position count = .error .cut := by
    rw [Stream.slice, if_neg fewer, isCut.ending]
  rw [Stream.read, isCut.ending]
  dsimp only
  rw [slice]
  rfl

theorem of_read (isCut : cut.IsCutOf whole) {cursor after : Cursor} {count : Nat} {bytes : Bytes}
    (ended : cut.read cursor count = .ok (bytes, after)) :
    bytes = (cut.bytes.extract cursor.position (cursor.position + count)).toList ∧
      after = { cursor with position := cursor.position + count } := by
  rw [Stream.read, isCut.ending] at ended
  dsimp only at ended
  rw [Stream.slice, isCut.ending] at ended
  by_cases all : (cut.bytes.extract cursor.position (cursor.position + count)).toList.length = count
  · simp only [all, true_or, if_true, bind, Except.bind, pure, Except.pure] at ended
    cases ended
    exact ⟨rfl, rfl⟩
  · simp only [all, reduceCtorEq, or_self, if_false, bind, Except.bind] at ended

theorem seek_of_le (isCut : cut.IsCutOf whole) (cursor : Cursor) {target : Nat}
    (within : target ≤ cut.bytes.size) :
    cut.seek cursor target = .ok { cursor with position := target } ∧
      whole.seek cursor target = .ok { cursor with position := target } := by
  have inside := Nat.le_trans within isCut.size_le
  constructor
  · rw [Stream.seek, isCut.ending]
    exact if_pos within
  · rw [Stream.seek]
    split
    · next damage damaged => exact absurd damaged (isCut.undamaged damage)
    · rw [Nat.min_eq_left inside]
    · exact if_pos inside

theorem seek_of_lt (isCut : cut.IsCutOf whole) (cursor : Cursor) {target : Nat}
    (beyond : cut.bytes.size < target) : cut.seek cursor target = .error .cut := by
  rw [Stream.seek, isCut.ending]
  exact if_neg (Nat.not_le.2 beyond)

end Stream.IsCutOf

/-! ### Stored files that are cut -/

/-- What is there of a file that stores so many bytes, of which only the first are left. -/
def storedCut (length : Nat) (front : Bytes) : Bytes :=
  magic ++ (plainHeader ++ 1 :: (lowestFirst 2 length ++ (lowestFirst 2 (mostStored - length) ++ front)))

theorem storedCut_prefix (front rest : Bytes) :
    storedCut (front ++ rest).length front <+: stored (front ++ rest) := by
  let trailer := lowestFirst 4 (redundancy (front ++ rest)).toNat ++ lowestFirst 4 (front ++ rest).length
  refine ⟨rest ++ trailer, ?_⟩
  simp only [trailer, storedCut, stored, storedBlock, List.append_assoc, List.cons_append]

theorem isSingle_stored {content : Bytes} (short : content.length ≤ mostStored) :
    IsSingle (stored content) where
  starts := rfl
  member := by
    let trailer := lowestFirst 4 (redundancy content).toNat ++ lowestFirst 4 content.length
    refine ⟨_, trailer, run_readHeader_plain _, ?_, ?_⟩
    · exact congrArg Inflated.rest (inflate_storedBlock short trailer)
    · rw [List.length_append, length_lowestFirst, length_lowestFirst]

theorem inflate_storedCut {length : Nat} {front : Bytes} (short : length ≤ mostStored)
    (fewer : front.length < length) :
    inflate (1 :: (lowestFirst 2 length ++ (lowestFirst 2 (mostStored - length) ++ front))) =
      ⟨front.toArray, #[⟨front.length, front.length + 5, true⟩], .error .cut⟩ := by
  have stored := run_readStoredLength short (List.replicate 5 false) front 1
  have all : front.take length = front := List.take_of_length_le (Nat.le_of_lt fewer)
  rw [inflate, readBlocks, run_readBlockHeader_stored]
  simp only [readBlock, readStored, stored, if_true, all, List.size_toArray, Nat.ne_of_lt fewer, if_false]
  simp [Written.extend, Except.map, Nat.add_comm]

theorem read_storedCut {length : Nat} {front : Bytes} (short : length ≤ mostStored)
    (fewer : front.length < length) :
    read (storedCut length front) =
      ⟨front.toArray, [⟨0, front.length, #[⟨front.length, front.length + 5, true⟩], none⟩], .cut⟩ := by
  rw [read_of_header rfl (run_readHeader_plain _), inflate_storedCut short fewer]
  simp [afterData, Stream.extend, damageOf, Ending.ofStop]

theorem storedCut_ne {front rest : Bytes} (short : (front ++ rest).length ≤ mostStored) (some : rest ≠ []) :
    storedCut (front ++ rest).length front ≠ stored (front ++ rest) := by
  intro same
  have fewer : front.length < (front ++ rest).length := by
    rw [List.length_append]
    exact Nat.lt_add_of_pos_right (List.length_pos_iff.2 some)
  have endings := congrArg (fun data => (read data).ending) same
  simp only [read_storedCut short fewer, read_stored short] at endings
  cases endings

end Gzip

end Bookbinder.Compression
