import Mathlib.Data.List.DropRight
import Mathlib.Tactic.Ring
import Mathlib.Order.Nat
import Bookbinder.Compression.PrefixCode

/-!
Reading bits, and codes of bits. The codes of symbols are told by their lengths alone: the first code of a
length follows the last one of the length before, with one bit more. Main statement: after the bits of the
code of a symbol, that symbol has been read, and nothing else.
-/

set_option autoImplicit false

namespace Bookbinder.Compression

open Bookbinder.Text (Bytes)

/-! ### Bits that are ahead -/

/-- The bits from a place on. -/
def Bits.ahead (bits : Bits) : List Bool := bits.current ++ bits.rest.flatMap byteBits

/-- A number in so many bits, the lowest first. -/
def lowestBits : Nat → Nat → List Bool
  | 0, _ => []
  | count + 1, number => number.testBit 0 :: lowestBits count (number / 2)

/-- A number in so many bits, the highest first. -/
def highestBits : Nat → Nat → List Bool
  | 0, _ => []
  | count + 1, number => number.testBit count :: highestBits count number

@[simp] theorem length_lowestBits (count number : Nat) : (lowestBits count number).length = count := by
  induction count generalizing number with
  | zero => rfl
  | succ count ih => rw [lowestBits, List.length_cons, ih]

@[simp] theorem length_highestBits (count number : Nat) : (highestBits count number).length = count := by
  induction count with
  | zero => rfl
  | succ count ih => rw [highestBits, List.length_cons, ih]

@[simp] theorem length_byteBits (byte : UInt8) : (byteBits byte).length = 8 := by simp [byteBits]

theorem length_flatMap_byteBits (bytes : Bytes) : (bytes.flatMap byteBits).length = 8 * bytes.length := by
  induction bytes with
  | nil => rfl
  | cons byte rest ih => simp only [List.flatMap_cons, List.length_append, length_byteBits, ih]; simp; omega

theorem byteBits_inj {byte other : UInt8} (same : byteBits byte = byteBits other) : byte = other := by
  rw [← UInt8.toNat_inj, ← ofBits_byteBits, same, ofBits_byteBits]

theorem Bits.length_ahead (bits : Bits) : bits.ahead.length = bits.current.length + 8 * bits.rest.length := by
  rw [ahead, List.length_append, length_flatMap_byteBits]

/-- A place after another one in the same data, in the middle of a byte at most. -/
structure Bits.IsAfter (after before : Bits) : Prop where
  rest : after.rest <:+ before.rest
  short : after.current.length < 8

theorem Bits.IsAfter.trans {first second third : Bits} (later : third.IsAfter second)
    (earlier : second.IsAfter first) : third.IsAfter first :=
  ⟨later.rest.trans earlier.rest, later.short⟩

/-- Where bits are ahead, they are read as a value, and what comes after them is left. -/
def Reads {α : Type} (reader : Reader α) (read : List Bool) (value : α) : Prop :=
  ∀ (bits : Bits) (later : List Bool), bits.current.length < 8 → bits.ahead = read ++ later →
    ∃ after, reader.run bits = .ok (value, after) ∧ after.ahead = later ∧ after.IsAfter bits

namespace Reads

variable {α β : Type}

theorem pure (value : α) : Reads (Pure.pure value : Reader α) [] value :=
  fun bits _ short ahead => ⟨bits, rfl, ahead, List.suffix_rfl, short⟩

theorem bind {first : Reader α} {next : α → Reader β} {read more : List Bool} {value : α} {result : β}
    (begins : Reads first read value) (goesOn : Reads (next value) more result) :
    Reads (first >>= next) (read ++ more) result := by
  intro bits later short ahead
  rw [List.append_assoc] at ahead
  obtain ⟨middle, run, left, behind⟩ := begins bits _ short ahead
  obtain ⟨after, onward, rest, further⟩ := goesOn middle later behind.short left
  refine ⟨after, ?_, rest, further.trans behind⟩
  rw [StateT.run_bind, run]
  exact onward

theorem map {first : Reader α} {read : List Bool} {value : α} (begins : Reads first read value)
    (change : α → β) : Reads (first >>= fun value => Pure.pure (change value)) read (change value) := by
  have both : Reads (first >>= fun value => Pure.pure (change value)) (read ++ []) (change value) :=
    begins.bind (Reads.pure (change value))
  rwa [List.append_nil] at both

theorem bit (first : Bool) : Reads Reader.bit [first] first := by
  rintro ⟨current, rest, passed⟩ later short ahead
  cases current with
  | cons next others =>
    obtain ⟨rfl, left⟩ := List.cons.inj ahead
    exact ⟨⟨others, rest, passed⟩, rfl, left, List.suffix_rfl, Nat.lt_of_succ_lt short⟩
  | nil =>
    cases rest with
    | nil => cases ahead
    | cons byte rest =>
      have filled := length_byteBits byte
      cases bits : byteBits byte with
      | nil => rw [bits] at filled; cases filled
      | cons next others =>
        rw [bits, List.length_cons] at filled
        simp only [Bits.ahead, List.flatMap_cons, bits] at ahead
        obtain ⟨rfl, left⟩ := List.cons.inj ahead
        refine ⟨⟨others, rest, passed + 1⟩, ?_, left, List.suffix_cons byte rest, ?_⟩
        · show Reader.bit _ = _
          simp only [Reader.bit, bits]
        · show others.length < 8
          omega

theorem number {count value : Nat} (fits : value < 2 ^ count) :
    Reads (Reader.number count) (lowestBits count value) value := by
  induction count generalizing value with
  | zero =>
    obtain rfl : value = 0 := by simpa using fits
    exact Reads.pure 0
  | succ count ih =>
    have less : value / 2 < 2 ^ count := by
      rw [Nat.pow_succ] at fits
      omega
    have whole : (value.testBit 0).toNat + 2 * (value / 2) = value := by
      rw [Nat.toNat_testBit, Nat.pow_zero, Nat.div_one]
      omega
    have read : Reads (Reader.number (count + 1)) ([value.testBit 0] ++ lowestBits count (value / 2))
        ((value.testBit 0).toNat + 2 * (value / 2)) :=
      (Reads.bit (value.testBit 0)).bind ((ih less).map fun others => (value.testBit 0).toNat + 2 * others)
    rwa [whole] at read

end Reads

/-! ### Codes by their lengths -/

/-- The first code of a length: one bit more than the code after the last one of the length before. -/
def firstCode (lengths : List Nat) : Nat → Nat
  | 0 => 0
  | length + 1 => 2 * (firstCode lengths length + if length = 0 then 0 else lengths.count length)

/-- The code of a symbol. Codes of one length are numbered in the order of their symbols. -/
def codeOf (lengths : List Nat) (symbol : Nat) : List Bool :=
  let length := lengths.getD symbol 0
  highestBits length (firstCode lengths length + (lengths.take symbol).count length)

/-- A symbol that has a code; of the others, the length is zero. -/
def HasCode (lengths : List Nat) (symbol : Nat) : Prop := 0 < lengths.getD symbol 0

/-- How many rows of so many bits begin with a code of some length. -/
def share (width length : Nat) : Nat := if 0 < length ∧ length ≤ width then 2 ^ (width - length) else 0

/-- How many rows of so many bits begin with a code. -/
def taken (lengths : List Nat) (width : Nat) : Nat := (lengths.map (share width)).sum

/-- Codes that leave no row of bits without a meaning. -/
structure IsComplete (lengths : List Nat) : Prop where
  short : ∀ length ∈ lengths, length ≤ PrefixCode.mostBits
  whole : taken lengths PrefixCode.mostBits = 2 ^ PrefixCode.mostBits

/-- A single code, of one bit. -/
structure IsLone (lengths : List Nat) : Prop where
  only : ∀ length ∈ lengths, length ≤ 1
  one : lengths.count 1 = 1

/-- Codes that can be told apart. -/
structure IsCode (lengths : List Nat) : Prop where
  short : ∀ length ∈ lengths, length ≤ PrefixCode.mostBits
  fits : taken lengths PrefixCode.mostBits ≤ 2 ^ PrefixCode.mostBits

theorem share_succ (width length : Nat) :
    share (width + 1) length = 2 * share width length + if length = width + 1 then 1 else 0 := by
  by_cases none : length = 0
  · simp [share, none]
  by_cases within : length ≤ width
  · have more : width + 1 - length = (width - length) + 1 := by omega
    simp only [share, Nat.pos_of_ne_zero none, within, show length ≤ width + 1 by omega,
      show length ≠ width + 1 by omega, and_self, if_true, if_false, more, Nat.pow_succ]
    omega
  by_cases next : length = width + 1
  · rw [share, share, if_pos (by omega), if_neg (by omega), if_pos next, next, Nat.sub_self, Nat.pow_zero]
  · rw [share, share, if_neg (by omega), if_neg (by omega), if_neg next]

theorem taken_zero (lengths : List Nat) : taken lengths 0 = 0 := by
  induction lengths with
  | nil => rfl
  | cons length rest ih =>
    have none : share 0 length = 0 := if_neg (by omega)
    rw [taken, List.map_cons, List.sum_cons, none, Nat.zero_add]
    exact ih

theorem taken_succ (lengths : List Nat) (width : Nat) :
    taken lengths (width + 1) = 2 * taken lengths width + lengths.count (width + 1) := by
  induction lengths with
  | nil => rfl
  | cons length rest ih =>
    simp only [taken, List.map_cons, List.sum_cons, List.count_cons, beq_iff_eq] at ih ⊢
    rw [ih, share_succ]
    split <;> omega

/-- The codes up to some length are numbered without a gap. -/
theorem firstCode_eq (lengths : List Nat) (width : Nat) :
    firstCode lengths (width + 1) = 2 * taken lengths width := by
  induction width with
  | zero => rw [taken_zero]; rfl
  | succ width ih =>
    rw [firstCode, if_neg (Nat.succ_ne_zero width), ih, taken_succ]

theorem taken_mono {lengths : List Nat} {width limit : Nat} (within : width ≤ limit) :
    taken lengths width * 2 ^ (limit - width) ≤ taken lengths limit := by
  induction limit, within using Nat.le_induction with
  | base => simp
  | succ limit within ih =>
    rw [taken_succ, show limit + 1 - width = (limit - width) + 1 by omega, Nat.pow_succ, ← Nat.mul_assoc]
    omega

/-- Codes are not more than there are rows of bits. -/
theorem taken_le {lengths : List Nat} {limit width : Nat} (fits : taken lengths limit ≤ 2 ^ limit)
    (within : width ≤ limit) : taken lengths width ≤ 2 ^ width := by
  have scaled := (taken_mono within).trans fits
  have power : 2 ^ limit = 2 ^ width * 2 ^ (limit - width) := by
    rw [← Nat.pow_add, Nat.add_sub_cancel' within]
  rw [power] at scaled
  exact Nat.le_of_mul_le_mul_right scaled (Nat.two_pow_pos _)

theorem IsComplete.isCode {lengths : List Nat} (complete : IsComplete lengths) : IsCode lengths :=
  ⟨complete.short, Nat.le_of_eq complete.whole⟩

/-- Without codes of more than one bit, only the number of these codes counts. -/
theorem taken_of_le_one {lengths : List Nat} (only : ∀ length ∈ lengths, length ≤ 1) (width : Nat) :
    taken lengths (width + 1) = lengths.count 1 * 2 ^ width := by
  induction width with
  | zero => rw [taken_succ, taken_zero, Nat.pow_zero, Nat.mul_one, Nat.mul_zero, Nat.zero_add]
  | succ width ih =>
    have none : width + 1 + 1 ∉ lengths := fun member => absurd (only _ member) (by omega)
    rw [taken_succ, ih, List.count_eq_zero.2 none, Nat.pow_succ]
    ring

theorem IsLone.isCode {lengths : List Nat} (lone : IsLone lengths) : IsCode lengths := by
  refine ⟨fun length member => (lone.only length member).trans (by decide), ?_⟩
  rw [PrefixCode.mostBits, taken_of_le_one lone.only, lone.one]
  decide

theorem isCode_of_zero {lengths : List Nat} (none : ∀ length ∈ lengths, length = 0) : IsCode lengths := by
  refine ⟨fun length member => none length member ▸ Nat.zero_le _, ?_⟩
  rw [PrefixCode.mostBits, taken_of_le_one fun length member => none length member ▸ Nat.zero_le _,
    List.count_eq_zero.2 fun member => nomatch none 1 member, Nat.zero_mul]
  exact Nat.zero_le _

theorem length_codeOf (lengths : List Nat) (symbol : Nat) :
    (codeOf lengths symbol).length = lengths.getD symbol 0 := length_highestBits _ _

/-! ### Reading a code -/

namespace PrefixCode

/-- The symbols of a length, numbered from some place on. -/
theorem symbols_from (lengths : List Nat) (length start : Nat) :
    (((lengths.zipIdx start).filter fun pair => pair.1 == length).map Prod.snd).length =
        lengths.count length ∧
      ∀ symbol, lengths[symbol]? = some length →
        (((lengths.zipIdx start).filter fun pair => pair.1 == length).map Prod.snd)[
          (lengths.take symbol).count length]? = some (start + symbol) := by
  induction lengths generalizing start with
  | nil => exact ⟨rfl, nofun⟩
  | cons first rest ih =>
    obtain ⟨size, place⟩ := ih (start + 1)
    rw [List.zipIdx_cons]
    refine ⟨?_, fun symbol here => ?_⟩
    · by_cases same : first = length
      · simpa [same] using size
      · simpa [same] using size
    · cases symbol with
      | zero =>
        obtain rfl : first = length := by simpa using here
        simp
      | succ symbol =>
        have later := place symbol (by simpa using here)
        rw [Nat.add_right_comm] at later
        by_cases same : first = length <;> simpa [same, List.take_succ_cons, Nat.add_assoc] using later

theorem length_symbolsOfLength (lengths : List Nat) (length : Nat) :
    (symbolsOfLength lengths length).length = lengths.count length :=
  (symbols_from lengths length 0).1

/-- A symbol comes after those of its length that are before it. -/
theorem getElem?_symbolsOfLength {lengths : List Nat} {symbol length : Nat}
    (here : lengths[symbol]? = some length) :
    (symbolsOfLength lengths length)[(lengths.take symbol).count length]? = some symbol := by
  have place := (symbols_from lengths length 0).2 symbol here
  rwa [Nat.zero_add] at place

theorem trimmed_eq (levels : List (List Nat)) : trimmed levels = levels.rdropWhile List.isEmpty := rfl

/-- No level with a symbol, and none before it, is left out. -/
theorem getElem?_trimmed {levels : List (List Nat)} {place : Nat} {symbols : List Nat}
    (here : levels[place]? = some symbols) (some : symbols ≠ []) {before : Nat} (le : before ≤ place) :
    (trimmed levels)[before]? = levels[before]? := by
  have whole : trimmed levels ++ levels.rtakeWhile List.isEmpty = levels := List.rdropWhile_append_rtakeWhile
  have within : place < (trimmed levels).length := by
    by_contra beyond
    rw [← whole, List.getElem?_append_right (by omega)] at here
    exact some (List.isEmpty_iff.1 (List.mem_rtakeWhile_imp (List.mem_of_getElem? here)))
  have first : (trimmed levels ++ levels.rtakeWhile List.isEmpty)[before]? = (trimmed levels)[before]? :=
    List.getElem?_append_left (by omega)
  rwa [whole, eq_comm] at first

/-- The levels up to that of a symbol are those of its length and of shorter ones. -/
theorem getElem?_levels {lengths : List Nat} {symbol length : Nat} (here : lengths[symbol]? = some length)
    (fits : length ≤ mostBits) {done : Nat} (before : done < length) :
    (ofLengths lengths).levels[done]? = some (symbolsOfLength lengths (done + 1)) := by
  have level {place : Nat} (short : place < mostBits) :
      ((List.range mostBits).map fun place => symbolsOfLength lengths (place + 1))[place]? =
        some (symbolsOfLength lengths (place + 1)) := by
    rw [List.getElem?_map, List.getElem?_range short]
    rfl
  have last : length - 1 + 1 = length := by omega
  have filled : symbolsOfLength lengths (length - 1 + 1) ≠ [] := by
    intro none
    rw [last] at none
    have place := getElem?_symbolsOfLength here
    rw [none] at place
    cases place
  rw [ofLengths, getElem?_trimmed (level (by omega)) filled (by omega), level (by omega)]

variable {lengths : List Nat} {levels : List (List Nat)} {symbol length rank : Nat}

/-- The codes of so many bits end before the beginnings of longer ones. -/
theorem taken_le_code {done left : Nat} (whole : done + (left + 1) = length) :
    taken lengths done ≤ (firstCode lengths length + rank) / 2 ^ (left + 1) := by
  have scaled : taken lengths done * 2 ^ (done + left - done) ≤ taken lengths (done + left) :=
    taken_mono (Nat.le_add_right done left)
  rw [Nat.add_sub_cancel_left] at scaled
  subst whole
  rw [Nat.le_div_iff_mul_le (Nat.two_pow_pos _), ← Nat.add_assoc, firstCode_eq, Nat.pow_succ, ← Nat.mul_assoc]
  omega

/-- The value of a code after one bit more, less the codes of fewer bits. -/
theorem value_eq {done left : Nat} (whole : done + (left + 1) = length) :
    2 * ((firstCode lengths length + rank) / 2 ^ (left + 1) - taken lengths done) +
        ((firstCode lengths length + rank).testBit left).toNat =
      (firstCode lengths length + rank) / 2 ^ left - firstCode lengths (done + 1) := by
  have bound : taken lengths done ≤ (firstCode lengths length + rank) / 2 ^ (left + 1) := taken_le_code whole
  rw [Nat.pow_succ, ← Nat.div_div_eq_div_mul] at bound ⊢
  rw [Nat.toNat_testBit, firstCode_eq]
  omega

/-- What has been read of a code, and what is left of it. The induction is on the bits that are left; none
before the last one is taken for the end of a shorter code. -/
theorem reads_readFrom (damage : Damage)
    (known : ∀ done < length, levels[done]? = some (symbolsOfLength lengths (done + 1)))
    (place : (symbolsOfLength lengths length)[rank]? = some symbol) {done left : Nat}
    (whole : done + (left + 1) = length) :
    Reads
      (readFrom damage ((firstCode lengths length + rank) / 2 ^ (left + 1) - taken lengths done)
        (levels.drop done))
      (highestBits (left + 1) (firstCode lengths length + rank)) symbol := by
  induction left generalizing done with
  | zero =>
    obtain ⟨within, level⟩ := List.getElem?_eq_some_iff.1 (known done (by omega))
    rw [List.drop_eq_getElem_cons within, level, readFrom]
    refine Reads.bind (Reads.bit _) ?_
    dsimp only
    rw [value_eq whole, Nat.pow_zero, Nat.div_one, whole, Nat.add_sub_cancel_left, place]
    exact Reads.pure symbol
  | succ left ih =>
    obtain ⟨within, level⟩ := List.getElem?_eq_some_iff.1 (known done (by omega))
    have goesOn : done + 1 + (left + 1) = length := by omega
    have bound : taken lengths (done + 1) ≤ (firstCode lengths length + rank) / 2 ^ (left + 1) :=
      taken_le_code goesOn
    rw [taken_succ, ← firstCode_eq, ← length_symbolsOfLength] at bound
    have none : (symbolsOfLength lengths (done + 1))[
        (firstCode lengths length + rank) / 2 ^ (left + 1) - firstCode lengths (done + 1)]? = none :=
      List.getElem?_eq_none (by omega)
    have rest := ih goesOn
    rw [taken_succ, ← firstCode_eq, ← length_symbolsOfLength, ← Nat.sub_sub] at rest
    rw [List.drop_eq_getElem_cons within, level, readFrom]
    refine Reads.bind (Reads.bit _) ?_
    dsimp only
    rw [value_eq whole, none]
    exact rest

/-- The code of a symbol is read as that symbol. -/
theorem reads_read (damage : Damage) (code : IsCode lengths) (has : HasCode lengths symbol) :
    Reads ((ofLengths lengths).read damage) (codeOf lengths symbol) symbol := by
  obtain ⟨length, here⟩ : ∃ length, lengths[symbol]? = some length := by
    cases found : lengths[symbol]? with
    | none => simp [HasCode, List.getD, found] at has
    | some length => exact ⟨length, rfl⟩
  have given : lengths.getD symbol 0 = length := by rw [List.getD, here]; rfl
  have positive : 0 < length := given ▸ has
  have most : length ≤ mostBits := code.short length (List.mem_of_getElem? here)
  have known : ∀ done < length, (ofLengths lengths).levels[done]? = some (symbolsOfLength lengths (done + 1)) :=
    fun done before => getElem?_levels here most before
  have some : (ofLengths lengths).levels.isEmpty = false := by
    cases levels : (ofLengths lengths).levels with
    | nil =>
      have first := known 0 positive
      rw [levels] at first
      cases first
    | cons => rfl
  have place := getElem?_symbolsOfLength here
  have rank := (List.getElem?_eq_some_iff.1 place).1
  rw [length_symbolsOfLength] at rank
  -- the code fits in its bits, so nothing is read before them
  have less : firstCode lengths length + (lengths.take symbol).count length < 2 ^ length := by
    have bound := taken_le code.fits most
    obtain ⟨before, rfl⟩ : ∃ before, length = before + 1 := ⟨length - 1, by omega⟩
    rw [taken_succ, ← firstCode_eq] at bound
    omega
  have read := reads_readFrom damage known place (show 0 + (length - 1 + 1) = length by omega)
  rw [show length - 1 + 1 = length by omega, Nat.div_eq_of_lt less, Nat.zero_sub, List.drop_zero] at read
  rw [PrefixCode.read, some, codeOf, given]
  exact read

/-! ### How a code uses its bits -/

theorem free_append (left : Nat) (levels others : List (List Nat)) :
    free left (levels ++ others) = (free left levels).bind fun left => free left others := by
  induction levels generalizing left with
  | nil => rfl
  | cons symbols rest ih =>
    rw [List.cons_append, free, free]
    split
    · exact ih _
    · rfl

/-- Levels without symbols leave everything free. -/
theorem free_of_isEmpty (left : Nat) {levels : List (List Nat)} (empty : ∀ symbols ∈ levels, symbols.isEmpty) :
    free left levels = some (left * 2 ^ levels.length) := by
  induction levels generalizing left with
  | nil => simp [free]
  | cons symbols rest ih =>
    have none : symbols = [] := List.isEmpty_iff.1 (empty symbols List.mem_cons_self)
    rw [none, free, List.length_nil, if_pos (Nat.zero_le _), Nat.sub_zero,
      ih _ fun other member => empty other (List.mem_cons_of_mem _ member), List.length_cons, Nat.pow_succ]
    congr 1
    ring

/-- All rows of bits are free that do not begin with a code. -/
theorem free_levels {lengths : List Nat} {width : Nat} (fits : taken lengths width ≤ 2 ^ width) :
    free 1 ((List.range width).map fun place => symbolsOfLength lengths (place + 1)) =
      some (2 ^ width - taken lengths width) := by
  induction width with
  | zero => simp [free, taken_zero]
  | succ width ih =>
    have less : taken lengths width ≤ 2 ^ width := taken_le fits (Nat.le_succ width)
    rw [taken_succ, Nat.pow_succ] at fits
    have enough : lengths.count (width + 1) ≤ 2 * (2 ^ width - taken lengths width) := by omega
    rw [List.range_succ, List.map_append, free_append, ih less, Option.bind_some, List.map_singleton, free,
      length_symbolsOfLength, if_pos enough, free, taken_succ, Nat.pow_succ]
    congr 1
    omega

theorem symbolsOfLength_eq_nil {lengths : List Nat} {length : Nat} (none : length ∉ lengths) :
    symbolsOfLength lengths length = [] := by
  rw [← List.length_eq_zero_iff, length_symbolsOfLength, List.count_eq_zero]
  exact none

theorem fit_of_isComplete {lengths : List Nat} (complete : IsComplete lengths) :
    (ofLengths lengths).fit = .complete := by
  have whole : (ofLengths lengths).levels ++ _ = _ := List.rdropWhile_append_rtakeWhile
  have free := free_levels (Nat.le_of_eq complete.whole)
  rw [complete.whole, Nat.sub_self, ← whole, free_append] at free
  obtain ⟨left, taken, rest⟩ := Option.bind_eq_some_iff.1 free
  rw [free_of_isEmpty left fun symbols member => List.mem_rtakeWhile_imp member, Option.some_inj] at rest
  obtain rfl : left = 0 := by simpa using rest
  rw [fit, taken]
  cases levels : (ofLengths lengths).levels with
  | nil =>
    rw [levels] at taken
    cases taken
  | cons => rfl

/-- A single symbol, which has a code of one bit. -/
theorem levels_of_isLone {lengths : List Nat} (lone : IsLone lengths) :
    ∃ symbol, (ofLengths lengths).levels = [[symbol]] := by
  have one : (symbolsOfLength lengths 1).length = 1 := (length_symbolsOfLength lengths 1).trans lone.one
  obtain ⟨symbol, first⟩ := List.length_eq_one_iff.1 one
  have others (place : Nat) : symbolsOfLength lengths (place + 1 + 1) = [] :=
    symbolsOfLength_eq_nil fun member => absurd (lone.only _ member) (by omega)
  refine ⟨symbol, ?_⟩
  rw [ofLengths, mostBits, List.range_succ_eq_map, List.map_cons, List.map_map, first]
  have rest : (List.range 14).map ((fun place => symbolsOfLength lengths (place + 1)) ∘ Nat.succ) =
      List.replicate 14 [] :=
    List.eq_replicate_iff.2 ⟨by simp, by simpa using fun place _ => others place⟩
  rw [rest]
  rfl

theorem fit_of_isLone {lengths : List Nat} (lone : IsLone lengths) : (ofLengths lengths).fit = .single := by
  obtain ⟨symbol, levels⟩ := levels_of_isLone lone
  rw [fit, levels]
  rfl

theorem fit_of_zero {lengths : List Nat} (none : ∀ length ∈ lengths, length = 0) :
    (ofLengths lengths).fit = .empty := by
  have each (place : Nat) : symbolsOfLength lengths (place + 1) = [] :=
    symbolsOfLength_eq_nil fun member => absurd (none _ member) (Nat.succ_ne_zero place)
  have all : (List.range mostBits).map (fun place => symbolsOfLength lengths (place + 1)) =
      List.replicate mostBits [] :=
    List.eq_replicate_iff.2 ⟨by simp, by simpa using fun place _ => each place⟩
  rw [fit, ofLengths, all]
  rfl

end PrefixCode

end Bookbinder.Compression
