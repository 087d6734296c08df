import Bookbinder.Proofs.Compression.Deflation

/-!
What it means that a file is data in compressed members. Main statement: whichever fields the headers have, and
however the data were deflated, reading the file gives the data, and it is finished.
-/

set_option autoImplicit false

namespace Bookbinder.Compression

open Bookbinder.Text (Bytes)

/-- Whole bytes are read as a value, and what comes after them is left. -/
def Takes {α : Type} (reader : Reader α) (taken : Bytes) (value : α) : Prop :=
  ∀ (rest : Bytes) (passed : Nat),
    reader.run ⟨[], taken ++ rest, passed⟩ = .ok (value, ⟨[], rest, passed + taken.length⟩)

namespace Takes

variable {α β : Type}

theorem pure (value : α) : Takes (Pure.pure value : Reader α) [] value := fun _ _ => rfl

theorem bind {first : Reader α} {next : α → Reader β} {taken more : Bytes} {value : α} {result : β}
    (begins : Takes first taken value) (goesOn : Takes (next value) more result) :
    Takes (first >>= next) (taken ++ more) result := by
  intro rest passed
  rw [List.append_assoc, StateT.run_bind, begins]
  refine (goesOn rest _).trans ?_
  rw [List.length_append, Nat.add_assoc]

theorem bytes {count : Nat} {taken : Bytes} (length : taken.length = count) :
    Takes (Reader.bytes count) taken taken := by
  intro rest passed
  rw [Reader.run_bytes length, length]

theorem littleEndian {count number : Nat} (fits : number < 256 ^ count) :
    Takes (Reader.littleEndian count) (lowestFirst count number) number := by
  intro rest passed
  rw [Reader.run_littleEndian fits, length_lowestFirst]

/-- What is read only where a field is present. -/
theorem ifSome {field : Option Bytes} {present absent : Reader α} {written : Bytes → Bytes} {more : Bytes} {value : α}
    (reads : ∀ content, field = some content → Takes present (written content ++ more) value)
    (skips : Takes absent more value) :
    Takes (if field.isSome then present else absent) ((field.map written).getD [] ++ more) value := by
  cases field with
  | none => exact skips
  | some content => exact reads content rfl

/-- A text that ends with its zero is passed over. -/
theorem skipText {text : Bytes} (some : 0 ∉ text) : Takes Gzip.skipText (text ++ [0]) () := by
  intro rest passed
  have ends : (text ++ [0] ++ rest).takeWhile (· != 0) = text := by
    rw [List.append_assoc, List.takeWhile_append_of_pos fun byte member => by
      simpa using fun zero : byte = 0 => some (zero ▸ member)]
    simp
  have length : text.length + 1 = (text ++ [0]).length := by simp
  show Except.ok ((), Bits.skip _ _) = _
  rw [ends, length, Bits.skip, List.drop_left]

end Takes

namespace Gzip

/-! ### Members -/

/-- The fields of a header that its flags say it has. The checksum of a header is not looked at. -/
structure Fields where
  extra : Option Bytes
  name : Option Bytes
  comment : Option Bytes
  checksum : Option Bytes

/-- The fields that are passed over: some content after its length, and texts with their zero. -/
def Fields.skipped (fields : Fields) : Bytes :=
  (fields.extra.map fun extra => lowestFirst 2 extra.length ++ extra).getD [] ++
    ((fields.name.map (· ++ [0])).getD [] ++ ((fields.comment.map (· ++ [0])).getD [] ++ []))

/-- A header after its magic bytes. -/
def header (flags : Nat) (unread : Bytes) (fields : Fields) : Bytes :=
  lowestFirst 1 deflateMethod ++ (lowestFirst 1 flags ++ (unread ++
    (fields.skipped ++ ((fields.checksum.map id).getD [] ++ []))))

/-- Fields that can be written, and the flags that say which of them there are. -/
structure Fields.Fit (fields : Fields) (flags : Nat) : Prop where
  extra : ∀ extra, fields.extra = some extra → extra.length < 256 ^ 2
  name : ∀ text, fields.name = some text → 0 ∉ text
  comment : ∀ text, fields.comment = some text → 0 ∉ text
  checksum : ∀ checksum, fields.checksum = some checksum → checksum.length = 2
  byte : flags < 256
  present : Flags.ofNat flags = ⟨fields.checksum.isSome, fields.extra.isSome, fields.name.isSome,
    fields.comment.isSome, false⟩

/-- The checksum and the length of some data. -/
def trailer (data : Bytes) : Bytes :=
  lowestFirst 4 (redundancy data).toNat ++ lowestFirst 4 (data.length % lengthLimit)

/-- A member: a header, data in deflated form, and a trailer. -/
inductive IsMember (data : Bytes) : Bytes → Prop
  | intro {flags : Nat} {unread deflated : Bytes} {fields : Fields} (fixed : unread.length = unreadFields)
    (fit : fields.Fit flags) (deflates : Deflates data deflated) :
    IsMember data (magic ++ (header flags unread fields ++ (deflated ++ trailer data)))

/-- Members one after the other, with zeros after each of them. -/
inductive Wraps : Bytes → Bytes → Prop
  | nothing : Wraps [] []
  | member {data member more rest : Bytes} (zeros : Nat) (first : IsMember data member) (others : Wraps more rest) :
    Wraps (data ++ more) (member ++ (List.replicate zeros 0 ++ rest))

/-! ### Reading them -/

theorem takes_skipFields {fields : Fields} {flags : Nat} (fit : fields.Fit flags) :
    Takes (skipFields skipText (Flags.ofNat flags)) fields.skipped () := by
  obtain ⟨extra, name, comment, _, _, present⟩ := fit
  have comments : Takes (if fields.comment.isSome then skipText else pure ())
      ((fields.comment.map (· ++ [0])).getD [] ++ []) () := by
    refine .ifSome (fun content is => ?_) (.pure ())
    rw [List.append_nil]
    exact .skipText (comment content is)
  have names : Takes (if fields.name.isSome then skipText >>= fun _ =>
        if fields.comment.isSome then skipText else pure () else
        if fields.comment.isSome then skipText else pure ())
      ((fields.name.map (· ++ [0])).getD [] ++ ((fields.comment.map (· ++ [0])).getD [] ++ [])) () :=
    .ifSome (fun content is => (Takes.skipText (name content is)).bind comments) comments
  rw [present, skipFields]
  refine .ifSome (fun content is => ?_) names
  rw [List.append_assoc]
  exact (Takes.littleEndian (extra content is)).bind ((Takes.bytes rfl).bind names)

theorem takes_readHeader {fields : Fields} {flags : Nat} {unread : Bytes} (fit : fields.Fit flags)
    (fixed : unread.length = unreadFields) : Takes readHeader (header flags unread fields) true := by
  have checksums : Takes (if fields.checksum.isSome then Reader.bytes 2 >>= fun _ => pure true else pure true)
      ((fields.checksum.map id).getD [] ++ []) true :=
    .ifSome (fun content is => (Takes.bytes (fit.checksum content is)).bind (.pure true)) (.pure true)
  have skipped := takes_skipFields fit
  have flag : (Flags.ofNat flags).headerChecksum = fields.checksum.isSome := by rw [fit.present]
  have byte : flags < 256 ^ 1 := fit.byte
  refine (Takes.littleEndian (show deflateMethod < 256 ^ 1 by decide)).bind
    ((Takes.littleEndian byte).bind ((Takes.bytes fixed).bind ?_))
  rw [if_neg (by decide)]
  refine skipped.bind ?_
  rw [flag]
  exact checksums

theorem takes_readTrailer {checksum length : Nat} (checksumFits : checksum < 256 ^ 4) (lengthFits : length < 256 ^ 4) :
    Takes readTrailer (lowestFirst 4 checksum ++ lowestFirst 4 length) (checksum, length) := by
  rw [← List.append_nil (_ ++ _)]
  refine (Takes.bytes (by simp)).bind ?_
  have front : (lowestFirst 4 checksum ++ lowestFirst 4 length).take 4 = lowestFirst 4 checksum :=
    List.take_left' (length_lowestFirst 4 checksum)
  have back : (lowestFirst 4 checksum ++ lowestFirst 4 length).drop 4 = lowestFirst 4 length :=
    List.drop_left' (length_lowestFirst 4 checksum)
  simp only [front, back, foldr_lowestFirst checksumFits, foldr_lowestFirst lengthFits]
  exact .pure _

/-- Zeros after a member are passed over, up to the next one. -/
theorem afterTrailer_trailer (data : Bytes) (zeros : Nat) {rest : Bytes} (next : rest.head? ≠ some 0) :
    afterTrailer data.toArray (trailer data ++ (List.replicate zeros 0 ++ rest)) = .ok rest := by
  have checksum : (redundancy data).toNat < 256 ^ 4 := (redundancy data).toNat_lt
  have length : data.length % lengthLimit < 256 ^ 4 := Nat.mod_lt _ (by decide)
  have read := takes_readTrailer checksum length (List.replicate zeros 0 ++ rest) 0
  have left : (List.replicate zeros 0 ++ rest).dropWhile (· == 0) = rest := by
    rw [List.dropWhile_append_of_pos (by simp)]
    cases rest with
    | nil => rfl
    | cons byte others =>
      have some : byte ≠ 0 := fun zero => next (congrArg some zero)
      simp [some]
  rw [afterTrailer, trailer, Bits.start, read]
  simp [checkTrailer, Except.map, left]

theorem IsMember.head {data member : Bytes} (first : IsMember data member) (rest : Bytes) :
    (member ++ rest).head? ≠ some 0 := by
  cases first
  simp [magic]

theorem Wraps.head {data file : Bytes} (wraps : Wraps data file) : file.head? ≠ some 0 := by
  cases wraps with
  | nothing => simp
  | member zeros first others => exact first.head _

/-- One member is read, whatever comes after it. -/
theorem readMembers_member {data member rest : Bytes} (first : IsMember data member) (zeros : Nat)
    (next : rest.head? ≠ some 0) (fuel : Nat) (bytes : Array UInt8) (segments : List Segment) :
    ∃ more, readMembers (fuel + 1) ⟨bytes, segments, .finished⟩ (member ++ (List.replicate zeros 0 ++ rest)) =
      readMembers fuel ⟨bytes ++ data.toArray, more, .finished⟩ rest := by
  obtain @⟨flags, unread, deflated, fields, fixed, fit, deflates⟩ := first
  have header := takes_readHeader fit fixed
    (deflated ++ (trailer data ++ (List.replicate zeros 0 ++ rest))) 0
  obtain ⟨output, after⟩ := inflate_of_deflates deflates (trailer data ++ (List.replicate zeros 0 ++ rest))
  rw [readMembers.eq_def]
  simp only [magic, List.cons_append, List.nil_append, List.append_assoc, List.take_succ_cons, List.take_zero,
    List.drop_succ_cons, List.drop_zero, ne_eq, not_true_eq_false, if_false, Bits.start, header, afterData, after,
    output, afterTrailer_trailer data zeros next, Stream.extend]
  exact ⟨_, rfl⟩

/-- The induction is on the members; each of them takes a byte at least. -/
theorem readMembers_of_wraps {data file : Bytes} (wraps : Wraps data file) {fuel : Nat}
    (enough : file.length < fuel) (bytes : Array UInt8) (segments : List Segment) :
    ∃ more, readMembers fuel ⟨bytes, segments, .finished⟩ file = ⟨bytes ++ data.toArray, more, .finished⟩ := by
  induction wraps generalizing fuel bytes segments with
  | nothing =>
    obtain ⟨fuel, rfl⟩ : ∃ fewer, fuel = fewer + 1 := ⟨fuel - 1, by omega⟩
    exact ⟨segments, by simp [readMembers]⟩
  | @member data member more rest zeros first others ih =>
    obtain ⟨fuel, rfl⟩ : ∃ fewer, fuel = fewer + 1 := ⟨fuel - 1, by omega⟩
    obtain ⟨between, read⟩ := readMembers_member first zeros others.head fuel bytes segments
    have some : 0 < member.length := by
      cases first
      simp [magic]
    simp only [List.length_append] at enough
    obtain ⟨all, rests⟩ := ih (show rest.length < fuel by omega) (bytes ++ data.toArray) between
    refine ⟨all, read.trans (rests.trans ?_)⟩
    simp [Array.append_assoc]

/-- Data in members are given back, and the file is finished after them. -/
theorem read_of_wraps {data file : Bytes} (wraps : Wraps data file) :
    ∃ segments, read file = ⟨data.toArray, segments, .finished⟩ := by
  obtain ⟨segments, read⟩ := readMembers_of_wraps wraps (Nat.lt_succ_self _) #[] []
  exact ⟨segments, by rw [Gzip.read, read, Array.empty_append]⟩

/-- A file that stores some data holds them. -/
theorem wraps_stored {data : Bytes} (short : data.length ≤ mostStored) : Wraps data (stored data) := by
  have fit : Fields.Fit ⟨none, none, none, none⟩ 0 := ⟨nofun, nofun, nofun, nofun, by decide, rfl⟩
  have member : IsMember data (magic ++ (header 0 (List.replicate unreadFields 0) ⟨none, none, none, none⟩ ++
      (storedBlock data ++ trailer data))) :=
    .intro List.length_replicate fit (deflates_storedBlock short)
  have whole := Wraps.member 0 member .nothing
  have length : data.length % lengthLimit = data.length := by
    refine Nat.mod_eq_of_lt (Nat.lt_of_le_of_lt short ?_)
    decide
  rw [List.replicate_zero, List.append_nil, List.append_nil, List.append_nil, trailer, length] at whole
  exact whole

end Gzip

end Bookbinder.Compression
