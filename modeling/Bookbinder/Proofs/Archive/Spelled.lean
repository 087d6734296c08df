import Mathlib.Algebra.Ring.Int.Defs
import Mathlib.Algebra.Ring.Nat
import Mathlib.Data.List.Basic
import Mathlib.Data.List.TakeWhile
import Bookbinder.Archive.Listing
import Bookbinder.Proofs.Text.Encoding

/-!
How numbers, texts and records are written in headers, apart from how they are read. Main statements: what was
written in one of these ways is read as what it stands for.
-/

set_option autoImplicit false

namespace Bookbinder

open Bookbinder.Text (Bytes encodeUtf8)

/-! ### Digits -/

namespace Text

/-- The ordinary digits of a base. -/
def AreDigits (base : Nat) (text : List Char) : Prop := ∀ c ∈ text, c.isDigit = true ∧ c.toNat < 48 + base

theorem bounds_of_isDigit {c : Char} (digit : c.isDigit = true) : 48 ≤ c.toNat ∧ c.toNat ≤ 57 :=
  Char.isDigit_iff_toNat.1 digit

theorem areDigits_toDigits {base : Nat} (some : 1 < base) (few : base ≤ 10) (n : Nat) :
    AreDigits base (Nat.toDigits base n) := by
  have digit : ∀ m < 10, m.digitChar.isDigit = true ∧ m.digitChar.toNat = 48 + m := by decide
  have small {m : Nat} (less : m < base) : m.digitChar.isDigit = true ∧ m.digitChar.toNat < 48 + base := by
    obtain ⟨is, value⟩ := digit m (Nat.lt_of_lt_of_le less few)
    exact ⟨is, value ▸ Nat.add_lt_add_left less 48⟩
  -- The induction is on the number: the digits before the last one are those of a smaller number.
  induction n using Nat.strongRecOn with
  | ind n ih =>
    rw [Nat.toDigits_eq_if some]
    split
    · next less =>
      intro c member
      rw [List.mem_singleton.1 member]
      exact small less
    · next large =>
      intro c member
      rcases List.mem_append.1 member with early | last
      · exact ih (n / base) (Nat.div_lt_self (by omega) some) c early
      · rw [List.mem_singleton.1 last]
        exact small (Nat.mod_lt _ (by omega))

variable {base : Nat} {text : List Char}

theorem digitOf?_of_isDigit {c : Char} (digit : c.isDigit = true) (small : c.toNat < 48 + base) :
    digitOf? base c = some (c.toNat - 48) := by
  obtain ⟨least, most⟩ := bounds_of_isDigit digit
  have value : decimalDigit? c = some (c.toNat - 48) := by
    rw [decimalDigit?, decimalZeros, List.find?_cons_of_pos (by simp; omega)]
    rfl
  rw [digitOf?, value]
  simp
  omega

theorem ne_of_isDigit {c other : Char} (digit : c.isDigit = true) (differs : other.isDigit = false) : c ≠ other :=
  fun same => by rw [← same, digit] at differs; cases differs

theorem withoutBaseMark_of_areDigits (digits : AreDigits base text) : withoutBaseMark base text = text := by
  have mark {c : Char} (member : c ∈ text) : ¬ (c = 'o' ∨ c = 'O') := by
    rintro (rfl | rfl) <;> exact absurd (digits _ member).1 (by decide)
  unfold withoutBaseMark
  split
  · rw [if_neg (mark (by simp))]
  · rw [if_neg (mark (by simp))]
  · rfl

theorem wellJoined_of_areDigits (digits : AreDigits base text) (inside : Bool) (some : inside = true ∨ text ≠ []) :
    wellJoined inside text = true := by
  induction text generalizing inside with
  | nil => simpa [wellJoined] using some
  | cons c rest ih =>
    have differs : c ≠ '_' := ne_of_isDigit (digits c List.mem_cons_self).1 (by decide)
    rw [wellJoined, if_neg differs]
    exact ih (fun other member => digits other (List.mem_cons_of_mem _ member)) true (.inl rfl)

theorem readNatural_of_areDigits (digits : AreDigits base text) (some : text ≠ [])
    (short : base = 10 → text.length ≤ longestDecimal) : readNatural base text = .ok (Nat.ofDigitChars base text 0) := by
  have each (c : Char) (member : c ∈ text) : digitOf? base c = .some (c.toNat - 48) :=
    digitOf?_of_isDigit (digits c member).1 (digits c member).2
  have run : (text.takeWhile fun c => (digitOf? base c).isSome || c = '_') = text :=
    List.takeWhile_eq_self_iff.2 fun c member => by simp [each c member]
  have values : text.filterMap (digitOf? base) = text.map fun c => c.toNat - 48 := by
    rw [← List.filterMap_eq_map]
    exact List.filterMap_congr each
  have whole := wellJoined_of_areDigits digits false (.inr some)
  rw [readNatural, withoutBaseMark_of_areDigits digits]
  have few : ¬ (base = 10 ∧ text.length > longestDecimal) := fun ⟨decimal, many⟩ => absurd many (short decimal).not_gt
  simp only [run, values, whole, Bool.not_true, Bool.false_eq_true, if_false, List.length_map, Nat.lt_irrefl, few,
    List.foldl_map]
  congr 2
  funext value c
  rw [Nat.mul_comm]
  rfl

/-- What drops only what stands around a text leaves it. -/
theorem trimBy_around {drops : Char → Bool} {front back : List Char} (before : ∀ c ∈ front, drops c = true)
    (after : ∀ c ∈ back, drops c = true) (keeps : ∀ c ∈ text, drops c = false) :
    trimBy drops (front ++ (text ++ back)) = text := by
  have kept {row : List Char} (keeps : ∀ c ∈ row, drops c = false) {rest : List Char} (some : row ≠ []) :
      (row ++ rest).dropWhile drops = row ++ rest := by
    cases row with
    | nil => exact absurd rfl some
    | cons c others => simp [keeps c List.mem_cons_self]
  rw [trimBy, List.dropWhile_append_of_pos before]
  by_cases some : text = []
  · subst some
    simp [List.dropWhile_eq_nil_iff.2 after]
  · have reversed : ∀ c ∈ text.reverse, drops c = false := fun c member => keeps c (List.mem_reverse.1 member)
    have others := @kept _ reversed [] (mt List.reverse_eq_nil_iff.1 some)
    simp only [List.append_nil] at others
    rw [kept keeps some, List.reverse_append,
      List.dropWhile_append_of_pos fun c member => after c (List.mem_reverse.1 member), others, List.reverse_reverse]

theorem blank_of_isDigit {c : Char} (digit : c.isDigit = true) : blank c = false := by
  have bounds := bounds_of_isDigit digit
  simp only [blank, inRanges, blankRanges, List.any_cons, List.any_nil, Bool.or_false, Bool.or_eq_false_iff,
    Bool.and_eq_false_iff, decide_eq_false_iff_not]
  omega

/-- Digits are read as the number that they denote. -/
theorem readInteger_of_areDigits (digits : AreDigits base text) (some : text ≠ [])
    (short : base = 10 → text.length ≤ longestDecimal) : readInteger base text = .ok (Nat.ofDigitChars base text 0 : Nat) := by
  have trimmed : trimBy numberBlank text = text := by
    have around := @trimBy_around text numberBlank [] [] (by simp) (by simp)
      fun c member => by rw [numberBlank, blank_of_isDigit (digits c member).1]; rfl
    simpa using around
  have sign {c : Char} (digit : c.isDigit = false) (rest : List Char) : text ≠ c :: rest := by
    rintro rfl
    exact absurd (digits c List.mem_cons_self).1 (by rw [digit]; decide)
  rw [readInteger, trimmed]
  split
  · exact absurd rfl (sign (by decide) _)
  · exact absurd rfl (sign (by decide) _)
  · rw [readNatural_of_areDigits digits some short]
    rfl

/-- A number in its decimal digits is read again. -/
theorem readInteger_toDigits {n : Nat} (small : n < 10 ^ longestDecimal) :
    readInteger 10 (Nat.toDigits 10 n) = .ok (n : Int) := by
  rw [readInteger_of_areDigits (areDigits_toDigits (by decide) (by decide) n) Nat.toDigits_ne_nil
    (fun _ => (Nat.length_toDigits_le_iff (by decide) (by decide)).2 small), Nat.ofDigitChars_ten_toDigits]

end Text

namespace Archive

/-! ### Fields of a header -/

/-- Nothing, or what starts with a zero byte. -/
def EndsField (rest : Bytes) : Prop := ∀ byte ∈ rest.head?, byte = 0

/-- What comes before the end of a field is taken of it. -/
theorem takeWhile_of_endsField {front rest : Bytes} (ends : EndsField rest) (some : ∀ byte ∈ front, byte ≠ 0) :
    (front ++ rest).takeWhile (· != 0) = front := by
  rw [List.takeWhile_append_of_pos fun byte member => bne_iff_ne.2 (some byte member)]
  cases rest with
  | nil => simp
  | cons byte others => simp [ends byte rfl]

/-- A field that shows a text, up to a zero byte or as a whole. -/
inductive Shows (text : String) : Bytes → Prop
  | intro {rest : Bytes} (some : '\x00' ∉ text.toList) (ends : EndsField rest) :
    Shows text (encodeUtf8 text.toList ++ rest)

theorem Shows.append_zeros {text : String} {field : Bytes} (shown : Shows text field) (zeros : Nat) :
    Shows text (field ++ List.replicate zeros 0) := by
  obtain @⟨rest, some, ends⟩ := shown
  rw [List.append_assoc]
  refine .intro some fun byte first => ?_
  rw [List.head?_append, Option.mem_def, Option.or_eq_some_iff] at first
  rcases first with first | ⟨_, first⟩
  · exact ends byte first
  · exact List.eq_of_mem_replicate (List.mem_of_mem_head? first)

theorem textOf_of_shows {text : String} {field : Bytes} (shown : Shows text field) : textOf field = text := by
  obtain ⟨some, ends⟩ := shown
  have nonzero : ∀ byte ∈ encodeUtf8 text.toList, byte ≠ 0 := by
    rintro _ member rfl
    exact some (Text.mem_of_mem_encodeUtf8 (by decide) member)
  rw [textOf, takeWhile_of_endsField ends nonzero, Text.decodeUtf8Lossy_encodeUtf8, String.ofList_toList]

/-- A field that writes a number: in digits with blanks around them, up to a zero byte or to the end, or in bytes
of which the first one is a mark. Only in bytes can a number be below zero. -/
inductive Writes : Int → Bytes → Prop
  | digits {front back : Nat} {digits : List Char} {rest : Bytes} (octal : Text.AreDigits 8 digits) (ends : EndsField rest) :
    Writes (Nat.ofDigitChars 8 digits 0 : Nat)
      (encodeUtf8 (List.replicate front ' ' ++ (digits ++ List.replicate back ' ')) ++ rest)
  | bytes (rest : Bytes) : Writes (bigEndian rest) (0x80 :: rest)
  | complement (rest : Bytes) : Writes ((bigEndian rest : Int) - 256 ^ rest.length) (0xff :: rest)

theorem number?_of_head {bytes : Bytes} (plain : ∀ byte ∈ bytes.head?, byte < 0x80) : number? bytes = octal? bytes := by
  cases bytes with
  | nil => rfl
  | cons byte rest =>
    have small := plain byte rfl
    have mark {other : UInt8} (great : 0x80 ≤ other) {more : Bytes} : byte :: rest ≠ other :: more := by
      intro same
      obtain ⟨rfl, _⟩ := List.cons.inj same
      exact absurd small (UInt8.not_lt.2 great)
    exact number?.eq_3 _ (fun _ => mark (by decide)) fun _ => mark (by decide)

/-- Bytes of single characters, as characters again. -/
theorem map_encodeUtf8 {text : List Char} (small : ∀ c ∈ text, c.toNat < 0x80) :
    (encodeUtf8 text).map (fun byte => Char.ofNat byte.toNat) = text := by
  rw [Text.encodeUtf8_of_small small, List.map_map]
  refine (List.map_congr_left fun c member => ?_).trans (List.map_id text)
  have less := small c member
  rw [Function.comp_apply, Text.toNat_byte (by omega), Char.ofNat_toNat]
  rfl

/-- The bytes of small characters are small. -/
theorem bounds_of_mem_encodeUtf8 {text : List Char} {least : Nat}
    (small : ∀ c ∈ text, least ≤ c.toNat ∧ c.toNat < 0x80) {byte : UInt8} (member : byte ∈ encodeUtf8 text) :
    least ≤ byte.toNat ∧ byte.toNat < 0x80 := by
  rw [Text.encodeUtf8_of_small fun c member => (small c member).2] at member
  obtain ⟨c, among, rfl⟩ := List.mem_map.1 member
  have bounds := small c among
  rwa [Text.toNat_byte (by omega)]

/-- A field of single characters up to its end is read like a text. -/
theorem number?_encodeUtf8 {text : List Char} {rest : Bytes} (ends : EndsField rest)
    (small : ∀ c ∈ text, 1 ≤ c.toNat ∧ c.toNat < 0x80) :
    number? (encodeUtf8 text ++ rest) =
      match Text.trimBlanks text with
      | [] => some 0
      | text => (Text.readInteger 8 text).toOption := by
  have bounds {byte : UInt8} (member : byte ∈ encodeUtf8 text) := bounds_of_mem_encodeUtf8 small member
  have taken : (encodeUtf8 text ++ rest).takeWhile (· != 0) = encodeUtf8 text := by
    refine takeWhile_of_endsField ends fun byte member zero => ?_
    have least := (bounds member).1
    rw [zero] at least
    exact absurd least (by decide)
  have plain : ∀ byte ∈ (encodeUtf8 text ++ rest).head?, byte < 0x80 := by
    intro byte first
    rw [List.head?_append, Option.mem_def, Option.or_eq_some_iff] at first
    rcases first with first | ⟨_, first⟩
    · exact UInt8.lt_iff_toNat_lt.2 (bounds (List.mem_of_mem_head? first)).2
    · rw [ends byte first]
      decide
  have none : (encodeUtf8 text).any (· ≥ 0x80) = false := by
    rw [List.any_eq_false]
    intro byte member
    have less := (bounds member).2
    simpa [UInt8.le_iff_toNat_le] using less
  have chars := map_encodeUtf8 fun c member => (small c member).2
  rw [number?_of_head plain, octal?]
  cases trimmed : Text.trimBlanks text <;>
    simp only [taken, none, Bool.false_eq_true, if_false, chars, trimmed]

theorem number?_of_writes {number : Int} {bytes : Bytes} (writes : Writes number bytes) : number? bytes = some number := by
  cases writes with
  | bytes rest => rfl
  | complement rest =>
    have power : (1 <<< (8 * rest.length) : Nat) = 256 ^ rest.length := by
      rw [Nat.one_shiftLeft, Nat.pow_mul]
    rw [number?, power, Int.natCast_pow]
    rfl
  | @digits front back digits rest octal ends =>
    have blanks (count : Nat) : ∀ c ∈ List.replicate count ' ', c = ' ' := fun c => List.eq_of_mem_replicate
    have small : ∀ c ∈ List.replicate front ' ' ++ (digits ++ List.replicate back ' '), 1 ≤ c.toNat ∧ c.toNat < 0x80 := by
      intro c member
      simp only [List.mem_append] at member
      rcases member with blank | digit | blank
      · rw [blanks front c blank]
        decide
      · have bounds := Text.bounds_of_isDigit (octal c digit).1
        omega
      · rw [blanks back c blank]
        decide
    have blank (count : Nat) : ∀ c ∈ List.replicate count ' ', Text.blank c = true := fun c member =>
      (blanks count c member).symm ▸ (by decide)
    have trimmed : Text.trimBlanks (List.replicate front ' ' ++ (digits ++ List.replicate back ' ')) = digits :=
      Text.trimBy_around (blank front) (blank back) fun c member => Text.blank_of_isDigit (octal c member).1
    rw [number?_encodeUtf8 ends small, trimmed]
    cases digits with
    | nil => rfl
    | cons first others =>
      have read := Text.readInteger_of_areDigits octal (List.cons_ne_nil _ _) fun same => absurd same (by decide)
      simp only [read]
      rfl

/-! ### Records -/

/-- A record: its own length, a keyword, and a value. -/
inductive IsRecord (keyword value : String) : Bytes → Prop
  | intro {record : Bytes} (some : keyword ≠ "") (plain : '=' ∉ keyword.toList)
    (whole : record = encodeUtf8 (Nat.toDigits 10 record.length ++
      (' ' :: (keyword.toList ++ ('=' :: (value.toList ++ ['\n'])))))) : IsRecord keyword value record

/-- Records one after the other. -/
inductive AreRecords : Fields → Bytes → Prop
  | nil : AreRecords [] []
  | cons {keyword value : String} {record more : Bytes} {others : Fields} (first : IsRecord keyword value record)
    (rest : AreRecords others more) : AreRecords ((keyword, value) :: others) (record ++ more)

theorem readWholeBytes_toDigits {n : Nat} (small : n < 10 ^ Text.longestDecimal) :
    readWholeBytes (encodeUtf8 (Nat.toDigits 10 n)) = .ok (n : Int) := by
  have ascii : ∀ c ∈ Nat.toDigits 10 n, c.toNat < 0x80 := fun c member => by
    have bounds := Text.bounds_of_isDigit (Text.areDigits_toDigits (by decide) (by decide) n c member).1
    omega
  have text : asciiText (encodeUtf8 (Nat.toDigits 10 n)) = Nat.toDigits 10 n := by
    refine Eq.trans (List.map_congr_left fun byte member => ?_) (map_encodeUtf8 ascii)
    have less := (bounds_of_mem_encodeUtf8 (fun c member => ⟨Nat.zero_le _, ascii c member⟩) member).2
    exact if_pos (UInt8.lt_iff_toNat_lt.2 less)
  rw [readWholeBytes, text, Text.readInteger_toDigits small]

theorem encodeUtf8_cons (c : Char) (rest : List Char) :
    encodeUtf8 (c :: rest) = String.utf8EncodeChar c ++ encodeUtf8 rest := List.flatMap_cons

theorem encodeUtf8_ne_nil {text : List Char} (some : text ≠ []) : encodeUtf8 text ≠ [] := by
  cases text with
  | nil => exact absurd rfl some
  | cons c rest =>
    rw [encodeUtf8_cons]
    exact List.append_ne_nil_of_left_ne_nil String.utf8EncodeChar_ne_nil _

/-- A number, a blank, a keyword and an equals sign begin a record. -/
theorem readRecord?_of_parts {digits keyword back : Bytes} {length : Nat} (areDigits : ∀ byte ∈ digits, isDigitByte byte)
    (someDigits : digits ≠ []) (plain : 0x3d ∉ keyword) (someKeyword : keyword ≠ [])
    (read : readWholeBytes digits = .ok (length : Int)) (positive : length ≠ 0) :
    readRecord? (digits ++ (0x20 :: (keyword ++ (0x3d :: back)))) =
      .ok (some ⟨length, lossyText keyword, lossyText (((digits ++ (0x20 :: (keyword ++ (0x3d :: back)))).take
        (length - 1)).drop (digits.length + 1 + keyword.length + 1))⟩) := by
  have stop : ∀ byte ∈ keyword, (byte != 0x3d) = true := fun byte member =>
    bne_iff_ne.2 fun same => plain (same ▸ member)
  have number : (digits ++ (0x20 :: (keyword ++ (0x3d :: back)))).takeWhile isDigitByte = digits := by
    rw [List.takeWhile_append_of_pos areDigits, List.takeWhile_cons_of_neg (by decide), List.append_nil]
  have later : (digits ++ (0x20 :: (keyword ++ (0x3d :: back)))).dropWhile isDigitByte =
      0x20 :: (keyword ++ (0x3d :: back)) := by
    rw [List.dropWhile_append_of_pos areDigits, List.dropWhile_cons_of_neg (by decide)]
  have word : (keyword ++ (0x3d :: back)).takeWhile (· != 0x3d) = keyword := by
    rw [List.takeWhile_append_of_pos stop, List.takeWhile_cons_of_neg (by decide), List.append_nil]
  have onward : (keyword ++ (0x3d :: back)).dropWhile (· != 0x3d) = 0x3d :: back := by
    rw [List.dropWhile_append_of_pos stop, List.dropWhile_cons_of_neg (by decide)]
  obtain ⟨digit, others, rfl⟩ := List.exists_cons_of_ne_nil someDigits
  obtain ⟨letter, letters, rfl⟩ := List.exists_cons_of_ne_nil someKeyword
  rw [readRecord?]
  simp only [number, later, word, onward, read, Trouble.ofFault, Int.toNat_natCast, positive, if_false, bind,
    Except.bind]
  rfl

/-- A record is read, whatever comes after it. -/
theorem readRecord?_of_isRecord {keyword value : String} {record : Bytes} (is : IsRecord keyword value record)
    (short : record.length < 10 ^ Text.longestDecimal) (rest : Bytes) :
    readRecord? (record ++ rest) = .ok (some ⟨record.length, keyword, value⟩) := by
  obtain ⟨some, plain, whole⟩ := is
  generalize counted : record.length = length at short whole
  have areDigits : ∀ byte ∈ encodeUtf8 (Nat.toDigits 10 length), isDigitByte byte = true := by
    intro byte member
    have ascii {c : Char} (member : c ∈ Nat.toDigits 10 length) : 0x30 ≤ c.toNat ∧ c.toNat ≤ 0x39 :=
      Text.bounds_of_isDigit (Text.areDigits_toDigits (by decide) (by decide) length c member).1
    rw [Text.encodeUtf8_of_small fun c member => (ascii member).2.trans_lt (by decide)] at member
    obtain ⟨c, among, rfl⟩ := List.mem_map.1 member
    have bounds := ascii among
    simp only [isDigitByte, Bool.and_eq_true, decide_eq_true_eq, UInt8.le_iff_toNat_le,
      Text.toNat_byte (show c.toNat < 256 by omega)]
    exact bounds
  -- The record up to its value, and what comes after it.
  have parts (rest : Bytes) : record ++ rest = encodeUtf8 (Nat.toDigits 10 length) ++ (0x20 ::
      (encodeUtf8 keyword.toList ++ (0x3d :: (encodeUtf8 value.toList ++ (0x0a :: rest))))) := by
    rw [whole]
    simp only [Text.encodeUtf8_append, encodeUtf8_cons, List.append_assoc]
    rfl
  have size := congrArg List.length (parts [])
  simp only [List.length_append, List.length_cons, List.length_nil, counted] at size
  have content : ((record ++ rest).take (length - 1)).drop ((encodeUtf8 (Nat.toDigits 10 length)).length + 1 +
      (encodeUtf8 keyword.toList).length + 1) = encodeUtf8 value.toList := by
    have front : record ++ rest = (encodeUtf8 (Nat.toDigits 10 length) ++ (0x20 ::
        (encodeUtf8 keyword.toList ++ [0x3d]))) ++ (encodeUtf8 value.toList ++ (0x0a :: rest)) := by
      rw [parts]
      simp
    have all : (encodeUtf8 (Nat.toDigits 10 length) ++ (0x20 :: (encodeUtf8 keyword.toList ++ [0x3d]))).length =
        (encodeUtf8 (Nat.toDigits 10 length)).length + 1 + (encodeUtf8 keyword.toList).length + 1 := by
      simp only [List.length_append, List.length_cons, List.length_nil]
      omega
    have last : length - 1 = (encodeUtf8 (Nat.toDigits 10 length) ++ (0x20 :: (encodeUtf8 keyword.toList ++
        [0x3d]))).length + (encodeUtf8 value.toList).length := by
      rw [all]
      omega
    rw [front, last, ← all, List.take_length_add_append, List.drop_left, List.take_left]
  have read := @readRecord?_of_parts _ _ (encodeUtf8 value.toList ++ (0x0a :: rest)) _ areDigits
    (encodeUtf8_ne_nil Nat.toDigits_ne_nil) (fun member => plain (Text.mem_of_mem_encodeUtf8 (by decide) member))
    (encodeUtf8_ne_nil (mt String.toList_eq_nil_iff.1 some)) (readWholeBytes_toDigits short)
    (show length ≠ 0 by omega)
  rw [← parts, content] at read
  rw [read]
  simp only [lossyText, Text.decodeUtf8Lossy_encodeUtf8, String.ofList_toList]

/-- What stands where no record begins. -/
theorem readRecord?_of_endsField {rest : Bytes} (ends : EndsField rest) : readRecord? rest = .ok none := by
  cases rest with
  | nil => rfl
  | cons byte others =>
    rw [ends byte rfl]
    rfl

/-- Fields after others were put in their place. -/
def Fields.putAll (fields records : Fields) : Fields :=
  records.foldl (fun fields record => Pairs.put fields record.1 record.2) fields

/-- The induction is on the records; each of them takes a byte at least. -/
theorem readRecords_of_areRecords {records : Fields} {bytes : Bytes} (are : AreRecords records bytes) {rest : Bytes}
    (ends : EndsField rest) {fuel place : Nat} (enough : bytes.length ≤ fuel) (short : place + bytes.length < placeLimit)
    (fields : Fields) : readRecords fuel place fields (bytes ++ rest) = .ok (fields.putAll records) := by
  induction are generalizing fuel place fields with
  | nil =>
    cases fuel with
    | zero => rfl
    | succ fuel =>
      rw [List.nil_append, readRecords, readRecord?_of_endsField ends]
      rfl
  | @cons keyword value record more others first areMore ih =>
    have positive : 0 < record.length := by
      obtain ⟨_, _, whole⟩ := first
      have some := congrArg List.length whole
      simp only [Text.encodeUtf8_append, List.length_append, encodeUtf8_cons, String.length_utf8EncodeChar] at some
      have sign : ('=' : Char).utf8Size = 1 := rfl
      omega
    rw [List.length_append] at enough short
    obtain ⟨fuel, rfl⟩ : ∃ fewer, fuel = fewer + 1 := ⟨fuel - 1, by omega⟩
    have limit : placeLimit ≤ 10 ^ Text.longestDecimal :=
      (show placeLimit ≤ 10 ^ 19 by decide).trans (Nat.pow_le_pow_right (by decide) (by decide))
    rw [List.append_assoc, readRecords, readRecord?_of_isRecord first (by omega)]
    simp only [bind, Except.bind]
    rw [if_neg (by omega)]
    simp only [List.drop_left]
    exact ih (by omega) (by omega) _

/-- Text is cut at line feeds as its characters are. -/
theorem splitOn_encodeUtf8 (text : List Char) :
    Text.splitOn 0x0a (encodeUtf8 text) = (Text.splitOn '\n' text).map encodeUtf8 := by
  have joined (parts : List (List Char)) :
      encodeUtf8 (Text.joinWith ['\n'] parts) = Text.joinWith [0x0a] (parts.map encodeUtf8) := by
    induction parts with
    | nil => rfl
    | cons part others ih =>
      cases others with
      | nil => rfl
      | cons next more =>
        simp only [Text.joinWith, List.map_cons, Text.encodeUtf8_append] at ih ⊢
        rw [ih]
        rfl
  have same := joined (Text.splitOn '\n' text)
  rw [Text.joinWith_splitOn] at same
  rw [same, Text.splitOn_joinWith (mt List.map_eq_nil_iff.1 (Text.splitOn_ne_nil _ _))]
  intro part member inside
  obtain ⟨chars, among, rfl⟩ := List.mem_map.1 member
  exact Text.separator_notMem_splitOn among (Text.mem_of_mem_encodeUtf8 (by decide) inside)

theorem eq_append_of_afterMark {mark line after : Bytes} (found : afterMark mark line = some after) :
    ∃ front, line = front ++ (mark ++ after) := by
  induction line with
  | nil => cases found
  | cons byte rest ih =>
    rw [afterMark] at found
    split at found
    · next here =>
      cases found
      refine ⟨[byte], ?_⟩
      rw [List.singleton_append, List.prefix_iff_eq_append.1 (List.isPrefixOf_iff_prefix.1 here.2.1)]
    · obtain ⟨front, same⟩ := ih found
      exact ⟨byte :: front, by rw [same, List.cons_append]⟩

/-- In text, the name of a set of characters is text as well. -/
theorem checkCharacterSet_encodeUtf8 (text : List Char) : checkCharacterSet (encodeUtf8 text) = .ok () := by
  rw [checkCharacterSet]
  split
  · rfl
  · next name found =>
    obtain ⟨line, member, after⟩ := List.exists_of_findSome?_eq_some found
    rw [endedLines, splitOn_encodeUtf8] at member
    obtain ⟨chars, _, rfl⟩ := List.mem_map.1 (List.dropLast_subset _ member)
    obtain ⟨front, same⟩ := eq_append_of_afterMark after
    have mark : encodeUtf8 " hdrcharset=".toList = encodeUtf8 " hdrcharset".toList ++ [0x3d] := by decide
    rw [mark, List.append_assoc, ← List.append_assoc front] at same
    obtain ⟨_, others, _, _, rfl⟩ := Text.split_encodeUtf8 (by decide) same
    rw [Text.decodeUtf8_encodeUtf8]

theorem exists_text_of_areRecords {records : Fields} {bytes : Bytes} (are : AreRecords records bytes) :
    ∃ text, bytes = encodeUtf8 text := by
  induction are with
  | nil => exact ⟨[], rfl⟩
  | cons first rest ih =>
    obtain ⟨_, _, whole⟩ := first
    obtain ⟨more, rfl⟩ := ih
    exact ⟨_ ++ more, by rw [Text.encodeUtf8_append, ← whole]⟩

/-- Records before zeros are read as the fields that they give. -/
theorem extend_of_areRecords {records : Fields} {bytes : Bytes} (are : AreRecords records bytes) (zeros : Nat)
    (short : bytes.length < placeLimit) (fields : Fields) :
    fields.extend (bytes ++ List.replicate zeros 0) = .ok (fields.putAll records) := by
  obtain ⟨text, same⟩ := exists_text_of_areRecords are
  have nuls : List.replicate zeros 0 = encodeUtf8 (List.replicate zeros '\x00') := by
    rw [Text.encodeUtf8_of_small fun c member => by rw [List.eq_of_mem_replicate member]; decide, List.map_replicate]
    rfl
  have checked : checkCharacterSet (bytes ++ List.replicate zeros 0) = .ok () := by
    rw [same, nuls, ← Text.encodeUtf8_append, checkCharacterSet_encodeUtf8]
  have ends : EndsField (List.replicate zeros 0) := fun byte first =>
    List.eq_of_mem_replicate (List.mem_of_mem_head? first)
  have enough : bytes.length ≤ (bytes ++ List.replicate zeros 0).length := by
    rw [List.length_append]
    exact Nat.le_add_right _ _
  rw [Fields.extend, checked]
  exact readRecords_of_areRecords are ends enough (by rwa [Nat.zero_add]) fields

end Archive

end Bookbinder
