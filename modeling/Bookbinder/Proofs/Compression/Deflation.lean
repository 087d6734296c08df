import Bookbinder.Compression.Inflate
import Bookbinder.Proofs.Compression.Codes
import Bookbinder.Proofs.Compression.Pace

/-!
What it means that bits are deflated data: blocks that are stored, or written in codes that are fixed or
given. Main statement: whatever way of writing was chosen, inflating gives the data back and leaves what comes
after them.
-/

set_option autoImplicit false

namespace Bookbinder.Compression

open Bookbinder.Text (Bytes)

/-! ### Pieces of a block -/

/-- The bytes from a place on are those that stand so far back, one after the other. -/
structure Repeats (data : Bytes) (place length distance : Nat) : Prop where
  back : distance ≤ place
  within : place + length ≤ data.length
  same : ∀ more < length, data[place + more]? = data[place + more - distance]?

/-- A number by the symbol of the least one of its kind, and bits that are added to that. Symbols are
counted from some symbol on. -/
inductive Measures (lengths : List Nat) (first : Nat) (table : List (Nat × Nat)) : Nat → List Bool → Prop
  | intro {symbol least extra more : Nat} (row : table[symbol]? = some (least, extra))
    (fits : more < 2 ^ extra) (has : HasCode lengths (first + symbol)) :
    Measures lengths first table (least + more) (codeOf lengths (first + symbol) ++ lowestBits extra more)

/-- The symbol for the end of a block. -/
def endSymbol : Nat := 256

/-- Bits that write the data from one place to another in codes for bytes and repetitions. -/
inductive Spells (literals distances : List Nat) (data : Bytes) : Nat → Nat → List Bool → Prop
  | endOfBlock {place : Nat} (has : HasCode literals endSymbol) :
    Spells literals distances data place place (codeOf literals endSymbol)
  | byte {place stop : Nat} {bits : List Bool} {value : UInt8} (here : data[place]? = some value)
    (has : HasCode literals value.toNat) (others : Spells literals distances data (place + 1) stop bits) :
    Spells literals distances data place stop (codeOf literals value.toNat ++ bits)
  | repetition {place stop length distance : Nat} {lengthBits distanceBits bits : List Bool}
    (long : Measures literals (endSymbol + 1) repetitionLengths length lengthBits)
    (far : Measures distances 0 repetitionDistances distance distanceBits)
    (repeats : Repeats data place length distance)
    (others : Spells literals distances data (place + length) stop bits) :
    Spells literals distances data place stop (lengthBits ++ (distanceBits ++ bits))

/-- Codes for bytes and lengths. -/
def AreLiterals (lengths : List Nat) : Prop := IsComplete lengths ∨ IsLone lengths

/-- Codes for distances, of which there may be none. -/
def AreDistances (lengths : List Nat) : Prop := IsComplete lengths ∨ IsLone lengths ∨ ∀ length ∈ lengths, length = 0

/-! ### Codes that are given -/

/-- Bits that tell the lengths of codes that come after some others. Their own codes are those of the numbers
below 16, and of three ways to repeat. -/
inductive Tells (codes : List Nat) : List Nat → List Nat → List Bool → Prop
  | nothing {before : List Nat} : Tells codes before [] []
  | length {before rest : List Nat} {bits : List Bool} {length : Nat} (small : length < 16)
    (has : HasCode codes length) (others : Tells codes (before ++ [length]) rest bits) :
    Tells codes before (length :: rest) (codeOf codes length ++ bits)
  | again {before rest : List Nat} {bits : List Bool} {length more : Nat} (last : before.getLast? = some length)
    (fits : more < 2 ^ 2) (has : HasCode codes 16)
    (others : Tells codes (before ++ List.replicate (3 + more) length) rest bits) :
    Tells codes before (List.replicate (3 + more) length ++ rest) (codeOf codes 16 ++ (lowestBits 2 more ++ bits))
  | fewZeros {before rest : List Nat} {bits : List Bool} {more : Nat}
    (fits : more < 2 ^ 3) (has : HasCode codes 17)
    (others : Tells codes (before ++ List.replicate (3 + more) 0) rest bits) :
    Tells codes before (List.replicate (3 + more) 0 ++ rest) (codeOf codes 17 ++ (lowestBits 3 more ++ bits))
  | manyZeros {before rest : List Nat} {bits : List Bool} {more : Nat}
    (fits : more < 2 ^ 7) (has : HasCode codes 18)
    (others : Tells codes (before ++ List.replicate (11 + more) 0) rest bits) :
    Tells codes before (List.replicate (11 + more) 0 ++ rest) (codeOf codes 18 ++ (lowestBits 7 more ++ bits))

/-- Bits that give the codes of a block: how many there are, the lengths of the codes for lengths, and in these
the lengths of all the others. -/
inductive Gives (literals distances : List Nat) : List Bool → Prop
  | intro {count : Nat} {codes : List Nat} {bits : List Bool}
    (someLiterals : 257 ≤ literals.length) (fewLiterals : literals.length ≤ 286)
    (someDistances : 1 ≤ distances.length) (fewDistances : distances.length ≤ 30)
    (most : 4 ≤ count) (least : count ≤ lengthOrder.length)
    (all : codes.length = lengthOrder.length) (small : ∀ length ∈ codes, length < 2 ^ 3)
    (others : ∀ symbol ∈ lengthOrder.drop count, codes.getD symbol 0 = 0)
    (complete : IsComplete codes) (tells : Tells codes [] (literals ++ distances) bits) :
    Gives literals distances
      (lowestBits 5 (literals.length - 257) ++ (lowestBits 5 (distances.length - 1) ++
        (lowestBits 4 (count - 4) ++
          ((lengthOrder.take count).flatMap (fun symbol => lowestBits 3 (codes.getD symbol 0)) ++ bits))))

/-! ### Blocks -/

/-- The lengths of the codes that need not be given. -/
def fixedLiterals : List Nat :=
  List.replicate 144 8 ++ List.replicate 112 9 ++ List.replicate 24 7 ++ List.replicate 8 8

def fixedDistances : List Nat := List.replicate 32 5

/-- Bits of a block after its kind, which write the data from one place to another, with others after them.
What is stored starts with a whole byte. -/
inductive IsBlock (data : Bytes) : Nat → Nat → Nat → List Bool → List Bool → Prop
  | stored {place : Nat} {filler later : List Bool} {content : Bytes} (short : filler.length < 8)
    (whole : 8 ∣ later.length) (fits : content.length ≤ mostStored)
    (here : (data.drop place).take content.length = content) :
    IsBlock data 0 place (place + content.length)
      (filler ++ (lowestFirst 2 content.length ++ lowestFirst 2 (mostStored - content.length) ++
        content).flatMap byteBits) later
  | fixed {place stop : Nat} {bits later : List Bool}
    (spells : Spells fixedLiterals fixedDistances data place stop bits) : IsBlock data 1 place stop bits later
  | given {place stop : Nat} {literals distances : List Nat} {table bits later : List Bool}
    (gives : Gives literals distances table) (areLiterals : AreLiterals literals)
    (areDistances : AreDistances distances) (spells : Spells literals distances data place stop bits) :
    IsBlock data 2 place stop (table ++ bits) later

/-- Bits that write the data from a place on, block after block. The last byte may be filled up. -/
inductive Blocks (data : Bytes) : Nat → List Bool → Prop
  | last {kind place : Nat} {bits filler : List Bool} (block : IsBlock data kind place data.length bits filler)
    (short : filler.length < 8) : Blocks data place (true :: (lowestBits 2 kind ++ (bits ++ filler)))
  | more {kind place stop : Nat} {bits later : List Bool} (block : IsBlock data kind place stop bits later)
    (others : Blocks data stop later) : Blocks data place (false :: (lowestBits 2 kind ++ (bits ++ later)))

/-- Bytes that are data in deflated form. -/
def Deflates (data deflated : Bytes) : Prop := Blocks data 0 (deflated.flatMap byteBits)

/-! ### Reading pieces -/

theorem AreLiterals.isCode {lengths : List Nat} (literals : AreLiterals lengths) : IsCode lengths :=
  literals.elim IsComplete.isCode IsLone.isCode

theorem AreDistances.isCode {lengths : List Nat} (distances : AreDistances lengths) : IsCode lengths :=
  distances.elim IsComplete.isCode fun others => others.elim IsLone.isCode isCode_of_zero

variable {literals distances : List Nat} {data : Bytes}

theorem reads_readMeasure {lengths : List Nat} (code : IsCode lengths) {first number : Nat}
    {table : List (Nat × Nat)} {bits : List Bool} (measures : Measures lengths first table number bits)
    (damage other : Damage) :
    ∃ symbol more, bits = codeOf lengths symbol ++ more ∧ first ≤ symbol ∧
      Reads ((PrefixCode.ofLengths lengths).read damage) (codeOf lengths symbol) symbol ∧
      Reads (readMeasure table (symbol - first) other) more number := by
  obtain ⟨row, fits, has⟩ := measures
  rename_i symbol least extra more
  refine ⟨first + symbol, lowestBits extra more, rfl, Nat.le_add_right _ _, PrefixCode.reads_read damage code has, ?_⟩
  rw [Nat.add_sub_cancel_left, readMeasure, row]
  exact (Reads.number fits).map (least + ·)

/-- The codes of a block by their lengths. -/
def codesOf (literals distances : List Nat) : Codes := ⟨.ofLengths literals, .ofLengths distances⟩

theorem reads_readPiece_byte (code : IsCode literals) {value : UInt8} (has : HasCode literals value.toNat)
    (written : Nat) :
    Reads (readPiece (codesOf literals distances) written) (codeOf literals value.toNat) (.byte value) := by
  rw [readPiece, ← List.append_nil (codeOf literals value.toNat)]
  refine Reads.bind (PrefixCode.reads_read _ code has) ?_
  rw [if_pos value.toNat_lt, UInt8.ofNat_toNat]
  exact Reads.pure _

theorem reads_readPiece_end (code : IsCode literals) (has : HasCode literals endSymbol) (written : Nat) :
    Reads (readPiece (codesOf literals distances) written) (codeOf literals endSymbol) .endOfBlock := by
  rw [readPiece, ← List.append_nil (codeOf literals endSymbol)]
  refine Reads.bind (PrefixCode.reads_read _ code has) ?_
  rw [if_neg (by decide), if_pos (show endSymbol = 256 from rfl)]
  exact Reads.pure _

theorem reads_readPiece_repetition (code : IsCode literals) (codeOfDistances : IsCode distances)
    {length distance written : Nat} {lengthBits distanceBits : List Bool}
    (long : Measures literals (endSymbol + 1) repetitionLengths length lengthBits)
    (far : Measures distances 0 repetitionDistances distance distanceBits) (back : distance ≤ written) :
    Reads (readPiece (codesOf literals distances) written) (lengthBits ++ distanceBits)
      (.repetition length distance) := by
  obtain ⟨symbol, more, rfl, least, read, measure⟩ := reads_readMeasure code long .literalCode .literalCode
  obtain ⟨place, extra, rfl, _, readPlace, measurePlace⟩ :=
    reads_readMeasure codeOfDistances far .distanceCode .distanceCode
  simp only [endSymbol] at least
  rw [readPiece, List.append_assoc]
  refine Reads.bind read ?_
  rw [if_neg (by omega), if_neg (by omega)]
  refine Reads.bind measure (Reads.bind readPlace ?_)
  rw [← List.append_nil extra]
  refine Reads.bind measurePlace ?_
  rw [if_neg (by omega)]
  exact Reads.pure _

/-- Bytes are repeated one after the other, as they stand in the data. -/
theorem toList_copyBack {place distance length : Nat} (repeats : Repeats data place length distance)
    (some : 0 < distance) {output : Array UInt8} (here : output.toList = data.take place) :
    (copyBack distance length output).toList = data.take (place + length) := by
  induction length generalizing place output with
  | zero => exact here
  | succ length ih =>
    obtain ⟨back, within, same⟩ := repeats
    have size : output.size = place := by
      rw [← Array.length_toList, here, List.length_take]
      omega
    have first : data[place]? = data[place - distance]? := same 0 (Nat.succ_pos length)
    have bound : place < data.length := by omega
    have next : output.getD (output.size - distance) 0 = data[place] := by
      have inside : output.size - distance < output.size := by omega
      rw [Array.getD_eq_getD_getElem?, ← Array.getElem?_toList, here, size, List.getElem?_take,
        if_pos (by omega), ← first, List.getElem?_eq_getElem bound]
      rfl
    have rest : Repeats data (place + 1) length distance :=
      ⟨by omega, by omega, fun more less => by
        have one := same (more + 1) (Nat.succ_lt_succ less)
        rwa [← Nat.add_assoc, Nat.add_right_comm place more 1] at one⟩
    rw [copyBack, ih rest, Nat.add_assoc, Nat.add_comm 1 length]
    rw [Array.toList_push, here, next, List.take_append_getElem bound]

theorem pos_of_measures {lengths : List Nat} {distance : Nat} {bits : List Bool}
    (far : Measures lengths 0 repetitionDistances distance bits) : 0 < distance := by
  obtain ⟨row, fits, has⟩ := far
  have all : ∀ row ∈ repetitionDistances, 0 < row.1 := by decide
  exact Nat.add_pos_left (all _ (List.mem_of_getElem? row)) _

/-- Reading has come to its end, with some output, where some bits are ahead. -/
structure Progress.Comes (progress : Progress) (start : Bits) (output : Bytes) (later : List Bool) : Prop where
  output : progress.written.output.toList = output
  place : ∃ after, progress.place = .ok after ∧ after.ahead = later ∧ after.IsAfter start

theorem Progress.Comes.from {progress : Progress} {first start : Bits} {output : Bytes} {later : List Bool}
    (comes : progress.Comes start output later) (further : start.IsAfter first) :
    progress.Comes first output later := by
  obtain ⟨output, after, place, ahead, behind⟩ := comes
  exact ⟨output, after, place, ahead, behind.trans further⟩

theorem Spells.some {place stop : Nat} {bits : List Bool} (spells : Spells literals distances data place stop bits) :
    HasCode literals endSymbol ∧ 0 < bits.length := by
  induction spells with
  | endOfBlock has => exact ⟨has, by rwa [length_codeOf]⟩
  | byte here has others ih => exact ⟨ih.1, by rw [List.length_append]; omega⟩
  | repetition long far repeats others ih => exact ⟨ih.1, by simp only [List.length_append]; omega⟩

/-- The induction is on the pieces; each of them takes a bit at least. -/
theorem comes_readPieces (code : IsCode literals) (codeOfDistances : IsCode distances) {place stop : Nat}
    {bits : List Bool} (spells : Spells literals distances data place stop bits) {start : Bits}
    (short : start.current.length < 8) {later : List Bool} (ahead : start.ahead = bits ++ later)
    {written : Written} (output : written.output.toList = data.take place) (within : place ≤ data.length)
    {fuel : Nat} (enough : bits.length ≤ fuel) :
    (readPieces (codesOf literals distances) fuel start written).Comes start (data.take stop) later := by
  induction spells generalizing start written fuel with
  | endOfBlock has =>
    rw [length_codeOf] at enough
    obtain ⟨fuel, rfl⟩ : ∃ fewer, fuel = fewer + 1 := ⟨fuel - 1, by unfold HasCode at has; omega⟩
    obtain ⟨after, read, left, behind⟩ := reads_readPiece_end code has written.output.size start later short ahead
    rw [readPieces, read]
    exact ⟨output, after, rfl, left, behind⟩
  | @byte place stop bits value here has others ih =>
    rw [List.length_append, length_codeOf] at enough
    obtain ⟨fuel, rfl⟩ : ∃ fewer, fuel = fewer + 1 := ⟨fuel - 1, by unfold HasCode at has; omega⟩
    rw [List.append_assoc] at ahead
    obtain ⟨after, read, left, behind⟩ :=
      reads_readPiece_byte code has written.output.size start _ short ahead
    obtain ⟨bound, is⟩ := List.getElem?_eq_some_iff.1 here
    rw [readPieces, read]
    refine Progress.Comes.from (ih behind.short left ?_ bound (by unfold HasCode at has; omega)) behind
    rw [Written.output_extend, Array.toList_push, output, ← is, List.take_append_getElem bound]
  | @repetition place stop length distance lengthBits distanceBits bits long far repeats others ih =>
    have some : 0 < (lengthBits ++ distanceBits).length := by
      obtain ⟨row, fits, has⟩ := long
      simp only [List.length_append, length_codeOf]
      unfold HasCode at has
      omega
    rw [← List.append_assoc, List.length_append] at enough
    obtain ⟨fuel, rfl⟩ : ∃ fewer, fuel = fewer + 1 := ⟨fuel - 1, by omega⟩
    have size : written.output.size = place := by
      rw [← Array.length_toList, output, List.length_take]
      omega
    rw [← List.append_assoc, List.append_assoc _ bits] at ahead
    obtain ⟨after, read, left, behind⟩ := reads_readPiece_repetition code codeOfDistances long far
      (size.symm ▸ repeats.back) start _ short ahead
    rw [readPieces, read]
    refine Progress.Comes.from (ih behind.short left ?_ repeats.within (by omega)) behind
    rw [Written.output_extend]
    exact toList_copyBack repeats (pos_of_measures far) output

/-! ### Reading codes that are given -/

theorem reads_readLengthSymbol {codes : List Nat} (complete : IsComplete codes) {symbol : Nat}
    (has : HasCode codes symbol) :
    Reads (readLengthSymbol (.ofLengths codes)) (codeOf codes symbol) symbol := by
  have read := PrefixCode.reads_read .codeLengths complete.isCode has
  have fit := PrefixCode.fit_of_isComplete complete
  rw [readLengthSymbol, if_neg fun empty => ?_]
  · exact read
  · rw [PrefixCode.fit, List.isEmpty_iff.1 empty] at fit
    cases fit

/-- A way to repeat: which length, and how often, read after its symbol. -/
theorem reads_readRepeat {last : Option Nat} {symbol length least extra more : Nat} (fits : more < 2 ^ extra)
    (kind : readRepeat last symbol = do return (length, least + (← Reader.number extra))) :
    Reads (readRepeat last symbol) (lowestBits extra more) (length, least + more) := by
  rw [kind]
  exact (Reads.number fits).map fun more => (length, least + more)

/-- The induction is on what is told; each of it gives a length at least. -/
theorem reads_readLengths {codes before rest : List Nat} {bits : List Bool} (complete : IsComplete codes)
    (tells : Tells codes before rest bits) {fuel : Nat} (enough : rest.length ≤ fuel) :
    Reads (readLengths (.ofLengths codes) (before ++ rest).length fuel before) bits (before ++ rest) := by
  -- each of the three ways to repeat is read in the same way
  have repeated {before rest : List Nat} {bits : List Bool} {symbol length least extra more fuel : Nat}
      (large : ¬ symbol < 16) (has : HasCode codes symbol) (fits : more < 2 ^ extra) (some : 0 < least)
      (kind : readRepeat before.getLast? symbol = do return (length, least + (← Reader.number extra)))
      (enough : (List.replicate (least + more) length ++ rest).length ≤ fuel)
      (onward : ∀ {fuel : Nat}, rest.length ≤ fuel →
        Reads (readLengths (.ofLengths codes) (before ++ List.replicate (least + more) length ++ rest).length fuel
          (before ++ List.replicate (least + more) length)) bits
          (before ++ List.replicate (least + more) length ++ rest)) :
      Reads (readLengths (.ofLengths codes) (before ++ (List.replicate (least + more) length ++ rest)).length fuel
        before) (codeOf codes symbol ++ (lowestBits extra more ++ bits))
        (before ++ (List.replicate (least + more) length ++ rest)) := by
    simp only [List.length_append, List.length_replicate] at enough onward ⊢
    obtain ⟨fuel, rfl⟩ : ∃ fewer, fuel = fewer + 1 := ⟨fuel - 1, by omega⟩
    rw [readLengths, if_neg (by omega)]
    refine Reads.bind (reads_readLengthSymbol complete has) ?_
    rw [if_neg large]
    refine Reads.bind (reads_readRepeat fits kind) ?_
    dsimp only
    rw [if_neg (by omega), ← List.append_assoc, ← Nat.add_assoc]
    exact onward (by omega)
  induction tells generalizing fuel with
  | nothing =>
    rw [List.append_nil]
    cases fuel with
    | zero => exact Reads.pure _
    | succ fuel =>
      rw [readLengths, if_pos (Nat.le_refl _)]
      exact Reads.pure _
  | @length before rest bits length small has others ih =>
    rw [List.length_cons] at enough
    obtain ⟨fuel, rfl⟩ : ∃ fewer, fuel = fewer + 1 := ⟨fuel - 1, by omega⟩
    have onward := ih (show rest.length ≤ fuel by omega)
    rw [List.append_assoc, List.singleton_append] at onward
    rw [readLengths, if_neg (by simp)]
    refine Reads.bind (reads_readLengthSymbol complete has) ?_
    rw [if_pos small]
    exact onward
  | again last fits has others ih =>
    refine repeated (by decide) has fits (by decide) ?_ enough ih
    rw [last]
    rfl
  | fewZeros fits has others ih => exact repeated (by decide) has fits (by decide) rfl enough ih
  | manyZeros fits has others ih => exact repeated (by decide) has fits (by decide) rfl enough ih

theorem reads_mapM_number {count : Nat} {values : List Nat} (fits : ∀ value ∈ values, value < 2 ^ count)
    {items : List Nat} (same : items.length = values.length) :
    Reads (items.mapM fun _ => Reader.number count) (values.flatMap (lowestBits count)) values := by
  induction values generalizing items with
  | nil =>
    rw [List.length_eq_zero_iff.1 same]
    exact Reads.pure _
  | cons value rest ih =>
    cases items with
    | nil => cases same
    | cons item others =>
      have onward := ih (fun other member => fits other (List.mem_cons_of_mem _ member)) (Nat.succ.inj same)
      rw [List.mapM_cons, List.flatMap_cons]
      exact (Reads.number (fits value List.mem_cons_self)).bind (onward.map (value :: ·))

theorem lookup_zip_map (symbols : List Nat) (value : Nat → Nat) (symbol : Nat) :
    (symbols.zip (symbols.map value)).lookup symbol = if symbol ∈ symbols then some (value symbol) else none := by
  induction symbols with
  | nil => rfl
  | cons first rest ih =>
    rw [List.map_cons, List.zip_cons_cons, List.lookup_cons, ih]
    by_cases same : symbol = first
    · simp [same]
    · simp [same, beq_eq_false_iff_ne.2 same]

/-- The lengths are put back in the order of their symbols; those that are not given are zero. -/
theorem ordered_eq {codes : List Nat} {count : Nat} (all : codes.length = lengthOrder.length)
    (others : ∀ symbol ∈ lengthOrder.drop count, codes.getD symbol 0 = 0) :
    (List.range 19).map (fun symbol =>
      (((lengthOrder.take count).zip ((lengthOrder.take count).map (codes.getD · 0))).lookup symbol).getD 0) =
      codes := by
  have size : codes.length = 19 := all
  have every : ∀ symbol < 19, symbol ∈ lengthOrder := by decide
  refine List.ext_getElem (by simp [size]) fun symbol inside within => ?_
  have less : symbol < 19 := size ▸ within
  have given : codes.getD symbol 0 = codes[symbol] := by
    rw [List.getD, List.getElem?_eq_getElem within]
    rfl
  rw [List.getElem_map, List.getElem_range, lookup_zip_map]
  split
  · exact given
  · next absent =>
    have place := every symbol less
    rw [← List.take_append_drop count lengthOrder, List.mem_append] at place
    rw [← given, others symbol (place.resolve_left absent)]
    rfl

theorem reads_readCodes {table : List Bool} (gives : Gives literals distances table)
    (areLiterals : AreLiterals literals) (areDistances : AreDistances distances)
    (has : HasCode literals endSymbol) : Reads readCodes table (codesOf literals distances) := by
  obtain ⟨someLiterals, fewLiterals, someDistances, fewDistances, most, least, all, small, others, complete,
    tells⟩ := gives
  rename_i count codes bits
  have orders : lengthOrder.length = 19 := rfl
  have length : 257 + (literals.length - 257) = literals.length := by omega
  have size : 1 + (distances.length - 1) = distances.length := by omega
  have order : 4 + (count - 4) = count := by omega
  have given : (lengthOrder.take count).flatMap (fun symbol => lowestBits 3 (codes.getD symbol 0)) =
      ((lengthOrder.take count).map (codes.getD · 0)).flatMap (lowestBits 3) := by
    rw [List.flatMap_map]
  have fits : ∀ value ∈ (lengthOrder.take count).map (codes.getD · 0), value < 2 ^ 3 := by
    intro value member
    obtain ⟨symbol, _, rfl⟩ := List.mem_map.1 member
    rw [List.getD]
    cases found : codes[symbol]? with
    | none => decide
    | some length => exact small length (List.mem_of_getElem? found)
  have end_ : ¬ (literals ++ distances).getD 256 0 = 0 := by
    have positive : 0 < literals.getD 256 0 := has
    rw [List.getD, List.getElem?_append_left (by omega), ← List.getD]
    omega
  have literalsFit : (PrefixCode.ofLengths literals).fit = .complete ∨
      (PrefixCode.ofLengths literals).fit = .single :=
    areLiterals.imp PrefixCode.fit_of_isComplete PrefixCode.fit_of_isLone
  have distancesFit : (PrefixCode.ofLengths distances).fit = .complete ∨
      (PrefixCode.ofLengths distances).fit = .single ∨ (PrefixCode.ofLengths distances).fit = .empty :=
    areDistances.imp PrefixCode.fit_of_isComplete (Or.imp PrefixCode.fit_of_isLone PrefixCode.fit_of_zero)
  rw [readCodes, given]
  refine Reads.bind (Reads.number (show literals.length - 257 < 2 ^ 5 by omega)) ?_
  refine Reads.bind (Reads.number (show distances.length - 1 < 2 ^ 5 by omega)) ?_
  refine Reads.bind (Reads.number (show count - 4 < 2 ^ 4 by omega)) ?_
  dsimp only
  rw [length, size, order, if_neg (by simp; omega)]
  refine Reads.bind (reads_mapM_number fits (by simp; omega)) ?_
  rw [ordered_eq all others, if_neg (by simp [PrefixCode.fit_of_isComplete complete])]
  rw [← List.append_nil bits]
  have lengths := reads_readLengths complete tells
    (show (literals ++ distances).length ≤ literals.length + distances.length by simp)
  rw [List.nil_append, List.length_append] at lengths
  refine Reads.bind lengths ?_
  rw [if_neg end_, List.take_left, List.drop_left, if_neg (by simpa using literalsFit.resolve_left),
    if_neg (by rcases distancesFit with fit | fit | fit <;> simp [fit])]
  exact Reads.pure _

/-! ### Reading blocks -/

/-- Bytes are told by their bits. -/
theorem eq_append_of_flatMap {all bytes : Bytes} {later : List Bool}
    (same : all.flatMap byteBits = bytes.flatMap byteBits ++ later) :
    ∃ rest, all = bytes ++ rest ∧ rest.flatMap byteBits = later := by
  induction bytes generalizing all with
  | nil => exact ⟨all, rfl, same⟩
  | cons byte others ih =>
    cases all with
    | nil =>
      have lengths := congrArg List.length same
      simp only [List.flatMap_nil, List.flatMap_cons, List.length_append, length_byteBits, List.length_nil] at lengths
      omega
    | cons first more =>
      rw [List.flatMap_cons, List.flatMap_cons, List.append_assoc] at same
      obtain ⟨here, onward⟩ := List.append_inj same (by rw [length_byteBits, length_byteBits])
      obtain ⟨rest, rfl, left⟩ := ih onward
      exact ⟨rest, by rw [byteBits_inj here, List.cons_append], left⟩

/-- What fills up a byte is what is left of it. -/
theorem Bits.rest_of_filler {start : Bits} (short : start.current.length < 8) {filler later : List Bool}
    {bytes : Bytes} (less : filler.length < 8) (whole : 8 ∣ later.length)
    (ahead : start.ahead = filler ++ (bytes.flatMap byteBits ++ later)) :
    ∃ rest, start.rest = bytes ++ rest ∧ rest.flatMap byteBits = later := by
  have lengths := congrArg List.length ahead
  obtain ⟨count, length⟩ := whole
  rw [Bits.length_ahead, List.length_append, List.length_append, length_flatMap_byteBits, length] at lengths
  exact eq_append_of_flatMap (List.append_inj ahead (by omega)).2

theorem comes_readStored {place : Nat} {filler later : List Bool} {content : Bytes} (less : filler.length < 8)
    (whole : 8 ∣ later.length) (fits : content.length ≤ mostStored)
    (here : (data.drop place).take content.length = content) {start : Bits} (short : start.current.length < 8)
    (ahead : start.ahead = filler ++ ((lowestFirst 2 content.length ++
      lowestFirst 2 (mostStored - content.length) ++ content).flatMap byteBits ++ later))
    {written : Written} (output : written.output.toList = data.take place) :
    (readStored start written).Comes start (data.take (place + content.length)) later := by
  obtain ⟨rest, data, left⟩ := Bits.rest_of_filler short less whole ahead
  obtain ⟨current, bytes, passed⟩ := start
  simp only [List.append_assoc] at data
  subst data
  have length := run_readStoredLength fits current (content ++ rest) passed
  have taken : (content ++ rest).take content.length = content := List.take_left
  have dropped : (content ++ rest).drop content.length = rest := List.drop_left
  rw [readStored, length]
  simp only [taken, List.size_toArray, if_true, Bits.skip, dropped]
  refine ⟨?_, ⟨[], rest, _⟩, rfl, left, ⟨?_, by simp⟩⟩
  · rw [Written.output_extend, Array.toList_append, output, List.take_add, here]
  · exact ⟨lowestFirst 2 content.length ++ (lowestFirst 2 (mostStored - content.length) ++ content),
      by simp only [List.append_assoc]⟩

theorem Spells.le {place stop : Nat} {bits : List Bool} (spells : Spells literals distances data place stop bits)
    (within : place ≤ data.length) : stop ≤ data.length := by
  induction spells with
  | endOfBlock has => exact within
  | byte here has others ih => exact ih (List.getElem?_eq_some_iff.1 here).1
  | repetition long far repeats others ih => exact ih repeats.within

namespace IsBlock

variable {kind place stop : Nat} {bits later : List Bool}

theorem le (block : IsBlock data kind place stop bits later) (within : place ≤ data.length) :
    stop ≤ data.length := by
  cases block with
  | stored short whole fits here =>
    have length := congrArg List.length here
    rw [List.length_take, List.length_drop] at length
    omega
  | fixed spells => exact spells.le within
  | given gives areLiterals areDistances spells => exact spells.le within

theorem kind_le (block : IsBlock data kind place stop bits later) : kind ≤ 2 := by
  cases block <;> decide

/-- It is a block before whole bytes more as well. -/
theorem append (block : IsBlock data kind place stop bits later) {more : List Bool} (whole : 8 ∣ more.length) :
    IsBlock data kind place stop bits (later ++ more) := by
  cases block with
  | stored short fills fits here =>
    exact .stored short (by rw [List.length_append]; exact Nat.dvd_add fills whole) fits here
  | fixed spells => exact .fixed spells
  | given gives areLiterals areDistances spells => exact .given gives areLiterals areDistances spells

/-- The codes that need not be given leave no row of bits without a meaning. -/
theorem isCode_fixed : IsCode fixedLiterals ∧ IsCode fixedDistances := by
  have literals : IsComplete fixedLiterals := by
    constructor
    · simp only [fixedLiterals, List.mem_append, List.mem_replicate, PrefixCode.mostBits]
      omega
    · simp only [taken, fixedLiterals, List.map_append, List.map_replicate, List.sum_append, List.sum_replicate_nat]
      decide
  have distances : IsComplete fixedDistances := by
    constructor
    · simp only [fixedDistances, List.mem_replicate, PrefixCode.mostBits]
      omega
    · simp only [taken, fixedDistances, List.map_replicate, List.sum_replicate_nat]
      decide
  exact ⟨literals.isCode, distances.isCode⟩

theorem comes (block : IsBlock data kind place stop bits later) {start : Bits}
    (short : start.current.length < 8) (ahead : start.ahead = bits ++ later) {written : Written}
    (output : written.output.toList = data.take place) (within : place ≤ data.length) :
    (readBlock kind start written).Comes start (data.take stop) later := by
  have enough {bits later : List Bool} {start : Bits} (ahead : start.ahead = bits ++ later) :
      bits.length ≤ start.count + 1 := by
    have lengths := congrArg List.length ahead
    rw [Bits.length_ahead, List.length_append] at lengths
    rw [Bits.count]
    omega
  cases block with
  | stored less whole fits here =>
    rw [List.append_assoc] at ahead
    exact comes_readStored less whole fits here short ahead output
  | fixed spells =>
    obtain ⟨code, codeOfDistances⟩ := isCode_fixed
    exact comes_readPieces code codeOfDistances spells short ahead output within (enough ahead)
  | given gives areLiterals areDistances spells =>
    rw [List.append_assoc] at ahead
    obtain ⟨after, read, left, behind⟩ :=
      reads_readCodes gives areLiterals areDistances spells.some.1 start _ short ahead
    rw [readBlock, if_neg (by decide), if_neg (by decide), read]
    exact (comes_readPieces areLiterals.isCode areDistances.isCode spells behind.short left output within
      (enough left)).from behind

end IsBlock

theorem reads_readBlockHeader {kind : Nat} (known : kind ≤ 2) (last : Bool) :
    Reads readBlockHeader (last :: lowestBits 2 kind) (last, kind) := by
  rw [readBlockHeader, ← List.append_nil (lowestBits 2 kind)]
  refine (Reads.bit last).bind (Reads.bind (Reads.number (show kind < 2 ^ 2 by omega)) ?_)
  rw [if_neg (by omega)]
  exact Reads.pure _

/-- The induction is on the blocks; each of them takes a bit at least. -/
theorem comes_readBlocks {place : Nat} {bits : List Bool} (blocks : Blocks data place bits)
    (within : place ≤ data.length) (rest : Bytes) {start : Bits} (short : start.current.length < 8)
    (ahead : start.ahead = bits ++ rest.flatMap byteBits) {written : Written}
    (output : written.output.toList = data.take place) {fuel : Nat} (enough : bits.length ≤ fuel) :
    ∃ filler, filler.length < 8 ∧
      (readBlocks fuel start written).Comes start data (filler ++ rest.flatMap byteBits) := by
  have whole : 8 ∣ (rest.flatMap byteBits).length := ⟨rest.length, length_flatMap_byteBits rest⟩
  induction blocks generalizing start written fuel with
  | @last kind place bits filler block less =>
    obtain ⟨fuel, rfl⟩ : ∃ fewer, fuel = fewer + 1 := ⟨fuel - 1, by rw [List.length_cons] at enough; omega⟩
    rw [← List.cons_append, List.append_assoc, List.append_assoc] at ahead
    obtain ⟨after, read, left, behind⟩ := reads_readBlockHeader block.kind_le true start _ short ahead
    have comes := ((block.append whole).comes behind.short left output within).from behind
    rw [List.take_length] at comes
    refine ⟨filler, less, ?_⟩
    rw [readBlocks_of_header read]
    obtain ⟨_, place, _⟩ := comes.place
    rw [place]
    exact comes
  | @more kind place stop bits later block others ih =>
    obtain ⟨fuel, rfl⟩ : ∃ fewer, fuel = fewer + 1 := ⟨fuel - 1, by rw [List.length_cons] at enough; omega⟩
    rw [← List.cons_append, List.append_assoc, List.append_assoc] at ahead
    obtain ⟨after, read, left, behind⟩ := reads_readBlockHeader block.kind_le false start _ short ahead
    obtain ⟨output, further, place, onward, beyond⟩ := (block.append whole).comes behind.short left output within
    simp only [List.length_cons, List.length_append] at enough
    obtain ⟨filler, less, comes⟩ := ih (block.le within) beyond.short onward output
      (show later.length ≤ fuel by omega)
    refine ⟨filler, less, ?_⟩
    rw [readBlocks_of_header read, place]
    exact comes.from (beyond.trans behind)

/-- Data in deflated form are given back, whatever comes after them. -/
theorem inflate_of_deflates {deflated : Bytes} (deflates : Deflates data deflated) (rest : Bytes) :
    (inflate (deflated ++ rest)).output = data.toArray ∧ (inflate (deflated ++ rest)).rest = .ok rest := by
  have ahead : (Bits.start (deflated ++ rest)).ahead = deflated.flatMap byteBits ++ rest.flatMap byteBits :=
    List.flatMap_append
  have enough : (deflated.flatMap byteBits).length ≤ 8 * (deflated ++ rest).length + 1 := by
    rw [length_flatMap_byteBits, List.length_append]
    omega
  have short : (Bits.start (deflated ++ rest)).current.length < 8 := Nat.succ_pos 7
  obtain ⟨filler, less, output, after, place, left, behind⟩ :=
    comes_readBlocks deflates (Nat.zero_le _) rest short ahead
      (show ({} : Written).output.toList = data.take 0 from rfl) enough
  have lengths := congrArg List.length left
  have middle := behind.short
  rw [Bits.length_ahead, List.length_append, length_flatMap_byteBits] at lengths
  have same : after.rest = rest :=
    (List.suffix_of_suffix_length_le behind.rest (List.suffix_append _ _) (by omega)).eq_of_length (by omega)
  refine ⟨Array.toList_inj.1 output, ?_⟩
  rw [inflate, place]
  exact congrArg Except.ok same

/-- One stored block is one way to deflate data that fit into it. -/
theorem deflates_storedBlock {data : Bytes} (short : data.length ≤ mostStored) : Deflates data (storedBlock data) := by
  have block : IsBlock data 0 0 (0 + data.length)
      (List.replicate 5 false ++ (lowestFirst 2 data.length ++ lowestFirst 2 (mostStored - data.length) ++
        data).flatMap byteBits) [] :=
    .stored (by decide) (Nat.dvd_zero 8) short (by rw [List.drop_zero, List.take_length])
  rw [Nat.zero_add] at block
  have blocks := Blocks.last block (by decide)
  rw [List.append_nil] at blocks
  exact blocks

end Bookbinder.Compression
