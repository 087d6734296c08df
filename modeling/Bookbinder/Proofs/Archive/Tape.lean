import Bookbinder.Proofs.Archive.Cut
import Bookbinder.Proofs.Archive.Spelled
import Bookbinder.Proofs.FileSystem.SpotText

/-!
What it means that bytes are an archive of files: for each of them its headers, and then its data in whole
blocks. What a header has no room for is told by headers before it. Main statement: such an archive is read as
members with the names, permission bits and data of the files.
-/

set_option autoImplicit false

namespace Bookbinder.Archive

open Bookbinder.Text (Bytes encodeUtf8)
open Bookbinder.Compression (Gzip.Stream Gzip.Cursor)

/-! ### Fields of a file -/

/-- The fields that tell of a file what its own header tells too, or that its data are only runs. -/
def tellingKeywords : List String :=
  ["path", "size", "GNU.sparse.name", "GNU.sparse.size", "GNU.sparse.realsize", "GNU.sparse.map", "GNU.sparse.major"]

/-- A field that changes neither the name nor the data of a file. A time has to be one that can be set. -/
structure IsIdle (record : String × String) : Prop where
  silent : record.1 ∉ tellingKeywords
  settable : record.1 = "mtime" → ((Time.ofText? record.2).getD (.whole 0)).fault? = none

/-- A field of the headers of a single file. -/
def IsOwn (record : String × String) : Prop := record.1 = "path" ∨ record.1 = "size" ∨ IsIdle record

/-- Fields that have different keywords. -/
def Fields.Distinct (fields : Fields) : Prop := (fields.map Prod.fst).Nodup

theorem Fields.Distinct.put {fields : Fields} (distinct : fields.Distinct) (keyword value : String) :
    Fields.Distinct (Pairs.put fields keyword value) := by
  have keys : (Pairs.put fields keyword value).map Prod.fst =
      if keyword ∈ fields.map Prod.fst then fields.map Prod.fst else fields.map Prod.fst ++ [keyword] := by
    induction fields with
    | nil => rfl
    | cons pair rest ih =>
      have others := ih (List.nodup_cons.1 distinct).2
      by_cases same : pair.1 = keyword
      · simp [Pairs.put, same]
      · by_cases among : keyword ∈ rest.map Prod.fst <;> simp_all [Pairs.put, Ne.symm same]
  unfold Distinct at distinct ⊢
  rw [keys]
  split
  · exact distinct
  · next absent =>
    refine List.nodup_append.2 ⟨distinct, by simp, fun other member last lone same => ?_⟩
    rw [← List.eq_of_mem_singleton lone, ← same] at absent
    exact absent member

/-- What fields leave of a header, and what they give it. -/
structure Amends (fields : Fields) (header amended : Header) : Prop where
  kind : amended.kind = header.kind
  mode : amended.mode = header.mode
  runs : amended.runs = header.runs
  time : header.time.fault? = none → amended.time.fault? = none
  name : amended.name = ((Pairs.get? fields "path").map PathText.withoutFinalSlashes).getD header.name
  size : amended.size = ((Pairs.get? fields "size").map wholeOrZero).getD header.size

theorem assign_of_own {record : String × String} (own : IsOwn record) (header : Header) :
    ∃ amended, header.assign record.1 record.2 = .ok amended ∧ Amends [record] header amended := by
  obtain ⟨keyword, value⟩ := record
  have silent (telling : keyword ∈ tellingKeywords) (noPath : keyword ≠ "path") (noSize : keyword ≠ "size") : False := by
    rcases own with path | size | idle
    · exact noPath path
    · exact noSize size
    · exact idle.silent telling
  unfold Header.assign
  dsimp only
  split
  · exact ⟨_, rfl, rfl, rfl, rfl, id, rfl, rfl⟩
  · exact (silent (by decide) (by decide) (by decide)).elim
  · exact ⟨_, rfl, rfl, rfl, rfl, id, rfl, rfl⟩
  · exact ⟨_, rfl, rfl, rfl, rfl, id, rfl, rfl⟩
  · exact (silent (by decide) (by decide) (by decide)).elim
  · exact (silent (by decide) (by decide) (by decide)).elim
  · exact ⟨_, rfl, rfl, rfl, rfl, id, rfl, rfl⟩
  · exact ⟨_, rfl, rfl, rfl, rfl, id, rfl, rfl⟩
  · refine ⟨_, rfl, rfl, rfl, rfl, fun _ => ?_, rfl, rfl⟩
    rcases own with path | size | idle
    · exact absurd (show "mtime" = "path" from path) (by decide)
    · exact absurd (show "mtime" = "size" from size) (by decide)
    · exact idle.settable rfl
  · next noPath _ _ noSize _ _ _ _ _ =>
    refine ⟨_, rfl, rfl, rfl, rfl, id, ?_, ?_⟩
    · rw [Pairs.get?, if_neg noPath]
      rfl
    · rw [Pairs.get?, if_neg noSize]
      rfl

theorem get?_eq_none_of_ne {fields : Fields} {keyword : String} (absent : ∀ record ∈ fields, record.1 ≠ keyword) :
    Pairs.get? fields keyword = none := by
  induction fields with
  | nil => rfl
  | cons record rest ih =>
    rw [Pairs.get?, if_neg (absent record List.mem_cons_self)]
    exact ih fun other member => absent other (List.mem_cons_of_mem _ member)

/-- One field after the other gives a header the name and the size that are among them. -/
theorem amend_of_own {fields : Fields} (distinct : fields.Distinct) (own : ∀ record ∈ fields, IsOwn record)
    (header : Header) : ∃ amended, header.amend fields = .ok amended ∧ Amends fields header amended := by
  induction fields generalizing header with
  | nil => exact ⟨header, rfl, rfl, rfl, rfl, id, rfl, rfl⟩
  | cons record rest ih =>
    obtain ⟨alone, others⟩ := List.nodup_cons.1 distinct
    obtain ⟨first, assigned, begins⟩ := assign_of_own (own record List.mem_cons_self) header
    obtain ⟨amended, goes, ends⟩ := ih others (fun other member => own other (List.mem_cons_of_mem _ member)) first
    have single (keyword : String) : Pairs.get? (record :: rest) keyword =
        (Pairs.get? rest keyword).or (Pairs.get? [record] keyword) := by
      by_cases same : record.1 = keyword
      · have none : Pairs.get? rest keyword = none := get?_eq_none_of_ne fun other member is =>
          alone (same ▸ is ▸ List.mem_map_of_mem member)
        rw [none, Pairs.get?, if_pos same, Pairs.get?, if_pos same]
        rfl
      · rw [Pairs.get?, if_neg same, Pairs.get?, if_neg same]
        exact (Option.or_none).symm
    have chain {α : Type} (later earlier : Option α) (given : α) :
        later.getD (earlier.getD given) = (later.or earlier).getD given := by
      cases later <;> rfl
    refine ⟨amended, ?_, ends.kind.trans begins.kind, ends.mode.trans begins.mode, ends.runs.trans begins.runs,
      fun settable => ends.time (begins.time settable), ?_, ?_⟩
    · rw [Header.amend, List.foldlM_cons, assigned]
      exact goes
    · rw [ends.name, begins.name, chain, single, Option.map_or]
    · rw [ends.size, begins.size, chain, single, Option.map_or]

/-- Fields that all members can have, since they tell nothing of a single one. -/
structure Fields.AreIdle (fields : Fields) : Prop where
  idle : ∀ record ∈ fields, IsIdle record
  distinct : fields.Distinct

theorem mem_of_mem_put {fields : Fields} {keyword value : String} {record : String × String}
    (member : record ∈ Pairs.put fields keyword value) : record ∈ fields ∨ record = (keyword, value) := by
  induction fields with
  | nil => exact .inr (List.eq_of_mem_singleton member)
  | cons first rest ih =>
    rw [Pairs.put] at member
    split at member
    · rcases List.mem_cons.1 member with is | later
      · exact .inr is
      · exact .inl (List.mem_cons_of_mem _ later)
    · rcases List.mem_cons.1 member with is | later
      · exact .inl (is ▸ List.mem_cons_self)
      · exact (ih later).imp_left (List.mem_cons_of_mem _)

theorem Fields.Distinct.putAll {fields : Fields} (distinct : fields.Distinct) (records : Fields) :
    (fields.putAll records).Distinct := by
  induction records generalizing fields with
  | nil => exact distinct
  | cons record rest ih => exact ih (distinct.put _ _)

theorem mem_of_mem_putAll {fields records : Fields} {record : String × String}
    (member : record ∈ fields.putAll records) : record ∈ fields ∨ record ∈ records := by
  induction records generalizing fields with
  | nil => exact .inl member
  | cons first rest ih =>
    rcases ih member with among | later
    · rcases mem_of_mem_put among with among | is
      · exact .inl among
      · exact .inr (is ▸ List.mem_cons_self)
    · exact .inr (List.mem_cons_of_mem _ later)

/-- What fields give a keyword is what the last of those put gives it, or else what was there. -/
theorem get?_putAll (fields records : Fields) (keyword : String) :
    Pairs.get? (fields.putAll records) keyword =
      (Pairs.get? (Fields.putAll [] records) keyword).or (Pairs.get? fields keyword) := by
  induction records generalizing fields with
  | nil => rfl
  | cons record rest ih =>
    have first (fields : Fields) : Pairs.get? (fields.putAll (record :: rest)) keyword =
        (Pairs.get? (Fields.putAll [] rest) keyword).or (Pairs.get? (Pairs.put fields record.1 record.2) keyword) := ih _
    rw [first, first, Pairs.get?_put, Pairs.get?_put, Option.or_assoc]
    split <;> rfl

theorem Fields.AreIdle.putAll {fields records : Fields} (are : fields.AreIdle) (idle : ∀ record ∈ records, IsIdle record) :
    (fields.putAll records).AreIdle :=
  ⟨fun record member => (mem_of_mem_putAll member).elim (are.idle record) (idle record), are.distinct.putAll records⟩

theorem Fields.AreIdle.silent {fields : Fields} (are : fields.AreIdle) {keyword : String}
    (telling : keyword ∈ tellingKeywords) : Pairs.get? fields keyword = none :=
  get?_eq_none_of_ne fun record member same => (are.idle record member).silent (same ▸ telling)

/-! ### Blocks with a header -/

/-- A block with the fields that every header has. Those that are not kept are numbers all the same. -/
structure IsHeader (byte : UInt8) (size mode : Nat) (seconds : Int) (block : Bytes) : Prop where
  length : block.length = blockSize
  byte : field block 156 1 = [byte]
  size : Writes size (field block 124 12)
  mode : Writes mode (field block 100 8)
  seconds : Writes seconds (field block 136 12)
  unkept : ∀ place ∈ [108, 116, 329, 337], ∃ number, Writes number (field block place 8)
  checksum : Writes ((covered block).map UInt8.toNat).sum (field block 148 8)

theorem numberField_of_writes {block : Bytes} {start length : Nat} {number : Int}
    (writes : Writes number (field block start length)) : numberField block start length = .ok number := by
  rw [numberField, number?_of_writes writes]

theorem sum_mem_checksums (block : Bytes) :
    (checksums block).contains (((covered block).map UInt8.toNat).sum : Int) = true := by
  have sum (bytes : Bytes) (start : Nat) : bytes.foldl (fun sum byte => sum + (byte.toNat : Int)) (start : Int) =
      ((start + (bytes.map UInt8.toNat).sum : Nat) : Int) := by
    induction bytes generalizing start with
    | nil => rfl
    | cons byte rest ih =>
      rw [List.foldl_cons, ← Int.natCast_add, ih, List.map_cons, List.sum_cons, Nat.add_assoc]
  have first := sum (covered block) 0
  rw [Nat.zero_add] at first
  rw [checksums, List.contains_iff_mem]
  exact List.mem_cons.2 (.inl first.symm)

/-- A header is not a block of zeros: for its checksum there are blanks in it. -/
theorem IsHeader.some {byte : UInt8} {size mode : Nat} {seconds : Int} {block : Bytes}
    (is : IsHeader byte size mode seconds block) : block.all (· == 0) = false := by
  rw [Bool.eq_false_iff]
  intro zeros
  have all : ∀ byte ∈ block, byte = 0 := fun byte member => eq_of_beq (List.all_eq_true.1 zeros byte member)
  have length : (field block 148 8).length = 8 := by
    rw [field, List.length_take, List.length_drop, is.length]
    rfl
  have empty : field block 148 8 = List.replicate 8 0 :=
    List.eq_replicate_iff.2 ⟨length, fun byte member => all byte (List.mem_of_mem_drop (List.mem_of_mem_take member))⟩
  have none := number?_of_writes is.checksum
  rw [empty, show number? (List.replicate 8 0) = Option.some 0 from rfl, Option.some_inj] at none
  have sum : ((covered block).map UInt8.toNat).sum = 0 := Int.natCast_inj.1 none.symm
  rw [covered, List.map_append, List.map_append, List.sum_append, List.sum_append, List.map_replicate,
    List.sum_replicate_nat] at sum
  have blank : (0x20 : UInt8).toNat = 0x20 := rfl
  omega

/-- What a block says that is the header of no directory, and of no file with holes. -/
theorem read_of_isHeader {byte : UInt8} {size mode : Nat} {seconds : Int} {block : Bytes}
    (is : IsHeader byte size mode seconds block) (solid : byte ≠ holedByte)
    (file : byte = 0 → PathText.endsInSlash (textOf (field block 0 100)) = false)
    (kind : Kind.ofByte byte ≠ .directory) :
    ∃ linkName owner, Header.read block = .ok ⟨.ofByte byte,
      withBeginning (if hasBeginning byte then textOf (field block 345 155) else "") (textOf (field block 0 100)),
      linkName, size, mode, owner, .whole seconds, none⟩ := by
  have filled : block.isEmpty = false := by
    cases block with
    | nil => exact absurd is.length (by decide)
    | cons first rest => rfl
  obtain ⟨user, userField⟩ := is.unkept 108 (by decide)
  obtain ⟨group, groupField⟩ := is.unkept 116 (by decide)
  obtain ⟨major, majorField⟩ := is.unkept 329 (by decide)
  obtain ⟨minor, minorField⟩ := is.unkept 337 (by decide)
  have kinds : kindOf block byte (textOf (field block 0 100)) = .ok (.ofByte byte) := by
    rw [kindOf, if_neg fun both => by simp [file both.1] at both, if_neg solid]
  have sum := sum_mem_checksums block
  refine ⟨textOf (field block 157 100), ⟨user, group⟩, ?_⟩
  rw [Header.read, filled, if_neg Bool.false_ne_true, if_neg (not_not_intro is.length), is.some, if_neg Bool.false_ne_true, Header.ofBlock,
    numberField_of_writes is.checksum, numberField_of_writes is.mode, numberField_of_writes userField,
    numberField_of_writes groupField, numberField_of_writes is.size, numberField_of_writes is.seconds,
    numberField_of_writes majorField, numberField_of_writes minorField]
  simp only [bind, Except.bind, sum, Bool.not_true, Bool.false_eq_true, if_false, is.byte, List.headD_cons, kinds, kind]
  rfl

/-! ### Headers of a file -/

/-- What headers tell of a file. What a header before them tells in their place need not be told. -/
structure Told where
  name : Option String
  size : Option Nat

/-- The bytes of a file in its own header: `0`, which was a zero byte once, and `7`. -/
def fileBytes : List UInt8 := [0x30, 0x00, 0x37]

/-- The bytes of headers that are about others: `L`, `x` and `g`. -/
def longNameByte : UInt8 := UInt8.ofNat 'L'.toNat
def ownFieldsByte : UInt8 := UInt8.ofNat 'x'.toNat
def sharedFieldsByte : UInt8 := UInt8.ofNat 'g'.toNat

/-- A header and data about the headers after it, filled up with zeros. -/
inductive Announces (byte : UInt8) (content : Bytes) : Bytes → Prop
  | intro {block : Bytes} {mode zeros : Nat} {seconds : Int} (header : IsHeader byte content.length mode seconds block)
    (fills : ((content.length + zeros : Nat) : Int) = wholeBlocks content.length)
    (room : wholeBlocks content.length < memoryLimit) :
    Announces byte content (block ++ (content ++ List.replicate zeros 0))

/-- The headers of a file, so many of them, and what they tell of it. They start with the fields that all members
have, and change these. -/
inductive Heads (mode : Nat) : Nat → Fields → Fields → Told → Bytes → Prop
  /-- Its own header. A name may be divided among two of its fields. -/
  | file {shared : Fields} {told : Told} {block : Bytes} {byte : UInt8} {size : Nat} {seconds : Int}
    (known : byte ∈ fileBytes) (header : IsHeader byte size mode seconds block)
    (settable : -Time.limit ≤ seconds ∧ seconds < Time.limit)
    (file : byte = 0 → PathText.endsInSlash (textOf (field block 0 100)) = false)
    (named : ∀ name ∈ told.name, ∃ beginning last, Shows beginning (field block 345 155) ∧
      Shows last (field block 0 100) ∧ name = withBeginning beginning last)
    (sized : ∀ length ∈ told.size, length = size) : Heads mode 1 shared shared told block
  /-- A name by itself. -/
  | longName {count : Nat} {shared after : Fields} {told : Told} {name : String} {content header others : Bytes}
    (shown : Shows name content) (announces : Announces longNameByte content header)
    (next : Heads mode count shared after told others) :
    Heads mode (count + 1) shared after { told with name := some name } (header ++ others)
  /-- Fields for the file, its name and its size among them or not. The last of the same keyword counts. -/
  | ownFields {count : Nat} {shared after records : Fields} {told : Told} {size : Option Nat}
    {content header others : Bytes} (own : ∀ record ∈ records, IsOwn record)
    (path : ∀ path ∈ Pairs.get? (Fields.putAll [] records) "path", PathText.endsInSlash path = false)
    (sized : Pairs.get? (Fields.putAll [] records) "size" = size.map (Text.digits 10))
    (fits : ∀ length ∈ size, length < 10 ^ Text.longestDecimal)
    (are : AreRecords records content) (announces : Announces ownFieldsByte content header)
    (next : Heads mode count shared after told others) :
    Heads mode (count + 1) shared after
      ⟨(Pairs.get? (Fields.putAll [] records) "path").or told.name, size.or told.size⟩ (header ++ others)
  /-- Fields for all members to come. -/
  | sharedFields {count : Nat} {shared after records : Fields} {told : Told} {content header others : Bytes}
    (idle : ∀ record ∈ records, IsIdle record) (are : AreRecords records content)
    (announces : Announces sharedFieldsByte content header)
    (next : Heads mode count (shared.putAll records) after told others) :
    Heads mode (count + 1) shared after told (header ++ others)

/-! ### Reading them -/

/-- A member as its headers tell it. -/
structure Member.IsAs (member : Member) (mode : Nat) (told : Told) (dataStart : Nat) : Prop where
  kind : member.header.kind = .file
  runs : member.header.runs = none
  mode : member.header.mode = mode
  time : member.header.time.fault? = none
  name : ∀ name ∈ told.name, member.header.name = name
  size : ∀ size ∈ told.size, member.header.size = (size : Nat)
  dataStart : member.dataStart = dataStart

theorem wholeOrZero_digits {n : Nat} (small : n < 10 ^ Text.longestDecimal) : wholeOrZero (Text.digits 10 n) = n := by
  rw [wholeOrZero, Text.digits, String.toList_ofList, Text.readInteger_toDigits small]
  rfl

/-- What fields tell of a file stands in place of what the headers after them tell. -/
theorem Member.IsAs.amended {found : Member} {mode : Nat} {told : Told} {dataStart : Nat}
    (is : found.IsAs mode told dataStart) {fields : Fields} {amended : Header} (amends : Amends fields found.header amended)
    {name : Option String} {size : Option Nat} (named : Pairs.get? fields "path" = name)
    (sized : Pairs.get? fields "size" = size.map (Text.digits 10))
    (plain : ∀ path ∈ name, PathText.endsInSlash path = false)
    (fits : ∀ length ∈ size, length < 10 ^ Text.longestDecimal) (start : Nat) :
    Member.IsAs { found with start := start, header := amended } mode ⟨name.or told.name, size.or told.size⟩ dataStart := by
  have isName := amends.name
  have isSize := amends.size
  rw [named] at isName
  rw [sized] at isSize
  refine ⟨amends.kind.trans is.kind, amends.runs.trans is.runs, amends.mode.trans is.mode, amends.time is.time,
    fun told isTold => ?_, fun told isTold => ?_, is.dataStart⟩
  · cases name with
    | none => exact isName.trans (is.name told isTold)
    | some name =>
      cases isTold
      exact isName.trans (FileSystem.withoutFinalSlashes_of_not_endsInSlash (plain _ rfl))
  · cases size with
    | none => exact isSize.trans (is.size told isTold)
    | some size =>
      cases isTold
      exact isSize.trans (wholeOrZero_digits (fits _ rfl))

namespace Listing

variable {stream : Gzip.Stream}

/-- Bytes are read where they stand. -/
theorem run_bytes_here {place : Place} (finished : stream.ending = .finished) {front piece rest : Bytes} {length : Int}
    (content : stream.bytes.toList = front ++ (piece ++ rest)) (here : place.cursor.position = front.length)
    (is : (piece.length : Int) = length) (room : length < memoryLimit) :
    (bytes stream length).run place =
      (.ok piece, { place with cursor := { place.cursor with position := front.length + piece.length } }) := by
  have count : readCount length = .ok piece.length := by
    simp only [memoryLimit] at room
    rw [readCount, if_neg (by omega), if_neg (by simp only [readLimit]; omega), if_neg (by simp only [memoryLimit]; omega),
      ← is, Int.toNat_natCast]
  rw [run_bytes_eq, count]
  dsimp only
  rw [read_here finished content here]

theorem run_liftHeader (header : Header) (place : Place) : (liftHeader (.ok header)).run place = (.ok header, place) := rfl

theorem run_liftFault {α : Type} (value : α) (place : Place) : (liftFault (.ok value)).run place = (.ok value, place) := rfl

theorem run_liftTrouble {α : Type} (value : α) (place : Place) :
    (liftTrouble (.ok value)).run place = (.ok value, place) := rfl

theorem run_get (place : Place) : (get : Listing Place).run place = (.ok place, place) := rfl

/-- The header of an announcement, and its data with the zeros after them. -/
theorem run_announces {byte : UInt8} {data announced : Bytes} (announces : Announces byte data announced)
    (solid : byte ≠ holedByte) (some : byte ≠ 0) (kind : Kind.ofByte byte ≠ .directory) {place : Place}
    (finished : stream.ending = .finished) {front rest : Bytes}
    (content : stream.bytes.toList = front ++ (announced ++ rest)) (here : place.cursor.position = front.length) :
    data.length < placeLimit ∧ ∃ block header zeros later, (bytes stream blockSize).run place = (.ok block, later) ∧
      Header.read block = .ok header ∧ header.kind = .ofByte byte ∧
      (bytes stream (wholeBlocks header.size)).run later = (.ok (data ++ List.replicate zeros 0),
        { place with cursor := { place.cursor with position := front.length + announced.length } }) := by
  obtain @⟨block, mode, zeros, seconds, is, fills, room⟩ := announces
  obtain ⟨linkName, owner, read⟩ := read_of_isHeader is solid (fun zero => absurd zero some) kind
  simp only [List.append_assoc] at content
  have first := run_bytes_here finished content here (show (block.length : Int) = blockSize by rw [is.length]) (by decide)
  have after : stream.bytes.toList = (front ++ block) ++ ((data ++ List.replicate zeros 0) ++ rest) := by
    rw [content]
    simp
  have short : data.length < placeLimit := by
    have least := le_wholeBlocks data.length
    simp only [memoryLimit] at room
    simp only [placeLimit]
    omega
  refine ⟨short, block, _, zeros, _, first, read, rfl, ?_⟩
  have whole : ((data ++ List.replicate zeros 0).length : Int) = wholeBlocks data.length := by
    rw [List.length_append, List.length_replicate, fills]
  rw [run_bytes_here finished after (by rw [List.length_append]) whole room]
  simp only [List.length_append, Nat.add_assoc]

/-- The member of a header that is a file's own. -/
theorem run_plainMember_of_file {header : Header} {place : Place} (file : header.kind = .file) (solid : header.runs = none)
    (settable : header.time.fault? = none) (are : place.shared.AreIdle) (start : Nat) :
    ∃ member, (plainMember header start).run place =
        (.ok member, { place with next := place.cursor.position + wholeBlocks header.size }) ∧
      member.header.kind = .file ∧ member.header.runs = none ∧ member.header.mode = header.mode ∧
      member.header.time.fault? = none ∧ member.header.name = header.name ∧ member.header.size = header.size ∧
      member.dataStart = place.cursor.position := by
  obtain ⟨amended, goes, amends⟩ := amend_of_own are.distinct (fun record member => .inr (.inr (are.idle record member))) header
  have kind : amended.kind = .file := amends.kind.trans file
  have length : dataLength header = wholeBlocks header.size := by rw [dataLength, file]; rfl
  refine ⟨⟨amended, start, place.cursor.position⟩, ?_, kind, amends.runs.trans solid, amends.mode, amends.time settable, ?_,
    ?_, rfl⟩
  · rw [plainMember, run_bind_of_ok (run_position _), length]
    have expected : (expectAfter place.cursor.position (wholeBlocks header.size)).run place =
        (.ok (), { place with next := place.cursor.position + wholeBlocks header.size }) := rfl
    have notDirectory : amended.kind ≠ .directory := by rw [kind]; simp
    rw [run_bind_of_ok expected, run_bind_of_ok (run_get _), goes, run_bind_of_ok (run_liftFault _ _)]
    simp only [notDirectory, if_false]
    rfl
  · rw [amends.name, are.silent (by decide)]
    rfl
  · rw [amends.size, are.silent (by decide)]
    rfl

/-- A listing comes to a member as its headers tell it, to the place of its data, and to where the next header is
expected. -/
def Finds (stream : Gzip.Stream) (depth : Nat) (place : Place) (mode : Nat) (told : Told) (dataStart : Nat)
    (after : Fields) : Prop :=
  ∃ found next, (member stream depth).run place =
      (.ok found, ⟨{ place.cursor with position := dataStart }, next, after⟩) ∧ found.IsAs mode told dataStart ∧
    ∀ size ∈ told.size, next = dataStart + wholeBlocks (size : Nat)

theorem run_following_of_ok {α : Type} {listing : Listing α} {place after : Place} {value : α}
    (read : listing.run place = (.ok value, after)) : (following listing).run place = (.ok value, after) := by
  rw [run_following, read]

theorem kind_of_mem_fileBytes : ∀ byte ∈ fileBytes,
    Kind.ofByte byte = .file ∧ hasBeginning byte = true ∧ byte ≠ holedByte := by
  intro byte member
  simp only [fileBytes, List.mem_cons, List.not_mem_nil, or_false] at member
  rcases member with rfl | rfl | rfl <;> decide

theorem finds_file {mode : Nat} {told : Told} {block : Bytes} {byte : UInt8} {size : Nat} {seconds : Int}
    (known : byte ∈ fileBytes) (is : IsHeader byte size mode seconds block)
    (settable : -Time.limit ≤ seconds ∧ seconds < Time.limit)
    (file : byte = 0 → PathText.endsInSlash (textOf (field block 0 100)) = false)
    (named : ∀ name ∈ told.name, ∃ beginning last, Shows beginning (field block 345 155) ∧
      Shows last (field block 0 100) ∧ name = withBeginning beginning last)
    (sized : ∀ length ∈ told.size, length = size) (finished : stream.ending = .finished) {front rest : Bytes}
    (content : stream.bytes.toList = front ++ (block ++ rest)) {place : Place} (here : place.cursor.position = front.length)
    (are : place.shared.AreIdle) (depth : Nat) :
    Finds stream (depth + 1) place mode told (front.length + block.length) place.shared := by
  obtain ⟨kind, beginning, solid⟩ := kind_of_mem_fileBytes byte known
  obtain ⟨linkName, owner, read⟩ := read_of_isHeader is solid file (by rw [kind]; simp)
  have first := run_bytes_here finished content here (show (block.length : Int) = blockSize by rw [is.length]) (by decide)
  rw [beginning, if_pos rfl, kind] at read
  have time : (Time.whole seconds).fault? = none := (Time.fault?_whole_eq_none_iff _).2 settable
  have plain := @run_plainMember_of_file
    ⟨.file, withBeginning (textOf (field block 345 155)) (textOf (field block 0 100)), linkName, size, mode, owner,
      .whole seconds, none⟩
    { place with cursor := { place.cursor with position := front.length + block.length } }
    rfl rfl time are front.length
  obtain ⟨found, plain, isFile, runs, isMode, isTime, isName, isSize, dataStart⟩ := plain
  refine ⟨found, (front.length + block.length : Nat) + wholeBlocks size, ?_, ⟨isFile, runs, isMode, isTime, fun name isTold => ?_, fun length isTold => ?_, dataStart⟩, ?_⟩
  · rw [member, run_bind_of_ok (run_position place), run_bind_of_ok first, read,
      run_bind_of_ok (run_liftHeader _ _), here]
    exact plain
  · obtain ⟨front, last, begins, ends, rfl⟩ := named name isTold
    rw [isName, textOf_of_shows begins, textOf_of_shows ends]
  · rw [isSize, sized length isTold]
  · intro length isTold
    rw [sized length isTold]

theorem finds_longName {mode count : Nat} {after : Fields} {told : Told} {name : String} {data announced : Bytes}
    (shown : Shows name data) (announces : Announces longNameByte data announced) (finished : stream.ending = .finished)
    {front rest : Bytes} (content : stream.bytes.toList = front ++ (announced ++ rest)) {place : Place}
    (here : place.cursor.position = front.length) {dataStart : Nat}
    (next : Finds stream count { place with cursor := { place.cursor with position := front.length + announced.length } }
      mode told dataStart after) :
    Finds stream (count + 1) place mode { told with name := some name } dataStart after := by
  obtain ⟨_, block, header, zeros, later, first, read, kind, records⟩ :=
    run_announces announces (by decide) (by decide) (by decide) finished content here
  obtain ⟨found, expected, goes, is, sized⟩ := next
  have plain (named : Header) (file : named.kind = .file) : withoutSlash named = named :=
    if_neg fun both => by rw [file] at both; exact absurd both.1 (by simp)
  have text : textOf (data ++ List.replicate zeros 0) = name := textOf_of_shows (shown.append_zeros zeros)
  refine ⟨{ found with start := front.length, header := { found.header with name := name } }, expected, ?_,
    ⟨is.kind, is.runs, is.mode, is.time, fun other told => ?_, is.size, is.dataStart⟩, sized⟩
  · rw [member, run_bind_of_ok (run_position place), run_bind_of_ok first, read, run_bind_of_ok (run_liftHeader _ _), kind,
      here]
    show ((bytes stream _ >>= _ : Listing Member)).run later = _
    rw [run_bind_of_ok records]
    dsimp only
    rw [run_bind_of_ok (run_following_of_ok goes), text, plain { found.header with name := name } is.kind]
    rfl
  · exact Option.some_inj.1 told

/-- A member whose fields say nothing of runs has none. -/
theorem withRuns_of_silent {fields : Fields} (found : Member) (records : Bytes)
    (noMap : Pairs.get? fields "GNU.sparse.map" = none) (noSize : Pairs.get? fields "GNU.sparse.size" = none)
    (noMajor : Pairs.get? fields "GNU.sparse.major" = none) : withRuns stream found fields records = pure found := by
  rw [withRuns, noMap, noSize, noMajor]
  rfl

theorem finds_sharedFields {mode count : Nat} {after records : Fields} {told : Told} {data announced : Bytes}
    (given : AreRecords records data) (announces : Announces sharedFieldsByte data announced) (finished : stream.ending = .finished)
    {front rest : Bytes} (content : stream.bytes.toList = front ++ (announced ++ rest)) {place : Place}
    (here : place.cursor.position = front.length) {dataStart : Nat}
    (next : Finds stream count ⟨{ place.cursor with position := front.length + announced.length }, place.next,
      place.shared.putAll records⟩ mode told dataStart after) (are : after.AreIdle) :
    Finds stream (count + 1) place mode told dataStart after := by
  obtain ⟨short, block, header, zeros, later, first, read, kind, taken⟩ :=
    run_announces announces (by decide) (by decide) (by decide) finished content here
  obtain ⟨found, expected, goes, is, sized⟩ := next
  have fields := extend_of_areRecords given zeros short place.shared
  refine ⟨found, expected, ?_, is, sized⟩
  rw [member, run_bind_of_ok (run_position place), run_bind_of_ok first, read, run_bind_of_ok (run_liftHeader _ _), kind,
    here]
  show ((bytes stream _ >>= _ : Listing Member)).run later = _
  rw [run_bind_of_ok taken, run_bind_of_ok (run_get _), fields, run_bind_of_ok (run_liftTrouble _ _)]
  have put (fields : Fields) (place : Place) : (modify fun place => { place with shared := fields } : Listing Unit).run
      place = (.ok (), { place with shared := fields }) := rfl
  rw [run_bind_of_ok (put _ _), run_bind_of_ok (run_following_of_ok goes), run_bind_of_ok (run_get _),
    withRuns_of_silent found _ (are.silent (by decide)) (are.silent (by decide)) (are.silent (by decide))]
  rfl

/-- The fields of a single member in place of those that it has by its header. -/
theorem run_withFields {found : Member} {fields : Fields} {amended : Header} (goes : found.header.amend fields = .ok amended)
    (file : amended.kind = .file) (place : Place) :
    (withFields found fields).run place = (.ok { found with header := amended }, { place with
      next := if (Pairs.get? fields "size").isSome then found.dataStart + wholeBlocks amended.size else place.next }) := by
  have length : dataLength amended = wholeBlocks amended.size := by rw [dataLength, file]; rfl
  rw [withFields, goes, run_bind_of_ok (run_liftFault _ _)]
  split
  · have expected : (expectAfter found.dataStart (dataLength amended)).run place =
        (.ok (), { place with next := found.dataStart + dataLength amended }) := rfl
    rw [run_bind_of_ok expected, length]
    rfl
  · rfl

theorem finds_ownFields {mode count : Nat} {after records : Fields} {told : Told} {size : Option Nat}
    {data announced : Bytes} (own : ∀ record ∈ records, IsOwn record)
    (path : ∀ path ∈ Pairs.get? (Fields.putAll [] records) "path", PathText.endsInSlash path = false)
    (sized : Pairs.get? (Fields.putAll [] records) "size" = size.map (Text.digits 10))
    (fits : ∀ length ∈ size, length < 10 ^ Text.longestDecimal)
    (given : AreRecords records data) (announces : Announces ownFieldsByte data announced)
    (finished : stream.ending = .finished) {front rest : Bytes}
    (content : stream.bytes.toList = front ++ (announced ++ rest)) {place : Place}
    (here : place.cursor.position = front.length) (are : place.shared.AreIdle) {dataStart : Nat}
    (next : Finds stream count { place with cursor := { place.cursor with position := front.length + announced.length } }
      mode told dataStart after) :
    Finds stream (count + 1) place mode ⟨(Pairs.get? (Fields.putAll [] records) "path").or told.name, size.or told.size⟩
      dataStart after := by
  obtain ⟨short, block, header, zeros, later, first, read, kind, taken⟩ :=
    run_announces announces (by decide) (by decide) (by decide) finished content here
  obtain ⟨found, expected, goes, is, isNext⟩ := next
  have extended := extend_of_areRecords given zeros short place.shared
  have silent {keyword : String} (telling : keyword ∈ tellingKeywords) :
      Pairs.get? (place.shared.putAll records) keyword = Pairs.get? (Fields.putAll [] records) keyword := by
    rw [get?_putAll, are.silent telling, Option.or_none]
  have noRuns {keyword : String} (telling : keyword ∈ tellingKeywords) (noPath : keyword ≠ "path")
      (noSize : keyword ≠ "size") : Pairs.get? (place.shared.putAll records) keyword = none := by
    refine get?_eq_none_of_ne fun record member same => ?_
    rcases mem_of_mem_putAll member with among | among
    · exact (are.idle record among).silent (same ▸ telling)
    · rcases own record among with is | is | idle
      · exact noPath (same.symm.trans is)
      · exact noSize (same.symm.trans is)
      · exact idle.silent (same ▸ telling)
  have allOwn : ∀ record ∈ place.shared.putAll records, IsOwn record := fun record member =>
    (mem_of_mem_putAll member).elim (fun among => .inr (.inr (are.idle record among))) (own record)
  obtain ⟨amended, amend, amends⟩ := amend_of_own (are.distinct.putAll records) allOwn found.header
  have file : amended.kind = .file := amends.kind.trans is.kind
  have amendedIs := is.amended amends (silent (by decide)) ((silent (by decide)).trans sized) path fits front.length
  refine ⟨{ found with start := front.length, header := amended },
    if (Pairs.get? (place.shared.putAll records) "size").isSome then found.dataStart + wholeBlocks amended.size else expected,
    ?_, amendedIs, fun length isTold => ?_⟩
  · rw [member, run_bind_of_ok (run_position place), run_bind_of_ok first, read, run_bind_of_ok (run_liftHeader _ _), kind,
      here]
    show ((bytes stream _ >>= _ : Listing Member)).run later = _
    rw [run_bind_of_ok taken, run_bind_of_ok (run_get _), extended, run_bind_of_ok (run_liftTrouble _ _),
      run_bind_of_ok (run_following_of_ok goes), withRuns_of_silent found _ (noRuns (by decide) (by decide) (by decide))
        (noRuns (by decide) (by decide) (by decide)) (noRuns (by decide) (by decide) (by decide)), pure_bind,
      run_bind_of_ok (run_withFields amend file _)]
    rfl
  · rw [silent (by decide), sized, amendedIs.size length isTold, is.dataStart]
    cases size with
    | none => exact isNext length isTold
    | some size => rfl

/-- The induction is on the headers. Those before others do not read beyond their own data. -/
theorem finds_of_heads {mode count : Nat} {shared after : Fields} {told : Told} {head : Bytes}
    (heads : Heads mode count shared after told head) (are : shared.AreIdle) (finished : stream.ending = .finished)
    {front rest : Bytes} (content : stream.bytes.toList = front ++ (head ++ rest)) {place : Place}
    (here : place.cursor.position = front.length) (known : place.shared = shared) {depth : Nat} (enough : count ≤ depth) :
    Finds stream depth place mode told (front.length + head.length) after ∧ after.AreIdle := by
  -- Where the headers after an announcement stand.
  have later {front announced others : Bytes}
      (content : stream.bytes.toList = front ++ ((announced ++ others) ++ rest)) :
      stream.bytes.toList = front ++ (announced ++ (others ++ rest)) ∧
        stream.bytes.toList = (front ++ announced) ++ (others ++ rest) ∧
        front.length + announced.length = (front ++ announced).length ∧
        front.length + (announced ++ others).length = (front ++ announced).length + others.length := by
    refine ⟨?_, ?_, ?_, ?_⟩ <;> simp [content, Nat.add_assoc]
  induction heads generalizing front place depth with
  | file kind is settable file named sized =>
    obtain ⟨depth, rfl⟩ : ∃ fewer, depth = fewer + 1 := ⟨depth - 1, by omega⟩
    subst known
    exact ⟨finds_file kind is settable file named sized finished content here are depth, are⟩
  | longName shown announces next ih =>
    obtain ⟨depth, rfl⟩ : ∃ fewer, depth = fewer + 1 := ⟨depth - 1, by omega⟩
    obtain ⟨first, others, passed, whole⟩ := later content
    obtain ⟨finds, areAfter⟩ := ih are others
      (show ({ place with cursor := { place.cursor with position := _ } } : Place).cursor.position = _ from passed) known
      (Nat.le_of_succ_le_succ enough)
    exact ⟨whole ▸ finds_longName shown announces finished first here finds, areAfter⟩
  | ownFields own path sized fits given announces next ih =>
    obtain ⟨depth, rfl⟩ : ∃ fewer, depth = fewer + 1 := ⟨depth - 1, by omega⟩
    obtain ⟨first, others, passed, whole⟩ := later content
    obtain ⟨finds, areAfter⟩ := ih are others
      (show ({ place with cursor := { place.cursor with position := _ } } : Place).cursor.position = _ from passed) known
      (Nat.le_of_succ_le_succ enough)
    subst known
    exact ⟨whole ▸ finds_ownFields own path sized fits given announces finished first here are finds, areAfter⟩
  | sharedFields idle given announces next ih =>
    obtain ⟨depth, rfl⟩ : ∃ fewer, depth = fewer + 1 := ⟨depth - 1, by omega⟩
    obtain ⟨first, others, passed, whole⟩ := later content
    subst known
    obtain ⟨finds, areAfter⟩ := ih (are.putAll idle) others
      (show (Place.mk { place.cursor with position := _ } place.next (place.shared.putAll _)).cursor.position = _ from passed)
      rfl (Nat.le_of_succ_le_succ enough)
    exact ⟨whole ▸ finds_sharedFields given announces finished first here finds areAfter, areAfter⟩

end Listing

end Bookbinder.Archive
