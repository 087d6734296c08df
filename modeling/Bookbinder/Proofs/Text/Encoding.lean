import Bookbinder.Text.Utf8

/-!
Text as bytes and back. The decoder learns from the first byte of a character which ranges its other
bytes lie in; the proof goes along these ranges, one size of character at a time. Main statement:
decoding what was encoded gives the text back.
-/

set_option autoImplicit false

namespace Bookbinder.Text

theorem toNat_byte {value : Nat} (small : value < 256) : (UInt8.ofNat value).toNat = value := by
  simp [UInt8.toNat_ofNat', Nat.mod_eq_of_lt small]

/-- One more byte of a character adds six bits to its code. -/
theorem readTail_more {code value whole : Nat} {low high : Nat} {ranges : List (Nat × Nat)}
    {rest : Bytes} (fits : low ≤ value + 0x80 ∧ value + 0x80 ≤ high) (small : value < 64)
    (after : readTail (code * 64 + value) ranges rest = .whole whole) :
    readTail code ((low, high) :: ranges) (UInt8.ofNat (value + 0x80) :: rest) = .whole whole := by
  have same := toNat_byte (show value + 0x80 < 256 by omega)
  simp only [readTail, same, fits, and_self, if_true, Nat.add_sub_cancel, after]

/-- The first byte of a character announces what its other bytes hold. -/
theorem decodeUtf8From_first {byte code whole : Nat} {ranges : List (Nat × Nat)} {rest : Bytes}
    (tail : Bytes) (position : Nat) (read : List Char) (small : byte < 256)
    (lead : leadByte byte = some (code, ranges)) (length : tail.length = ranges.length)
    (after : readTail code ranges (tail ++ rest) = .whole whole) :
    decodeUtf8From position read (UInt8.ofNat byte :: (tail ++ rest)) =
      decodeUtf8From (position + (tail.length + 1)) (Char.ofNat whole :: read) rest := by
  rw [decodeUtf8From]
  simp only [toNat_byte small, lead, after, ← length, List.drop_left, Nat.add_assoc,
    Nat.add_comm 1]

/-- The lead bytes of characters of two, three and four bytes. -/
theorem leadByte_two {share : Nat} (least : 2 ≤ share) (most : share < 0x20) :
    leadByte (share + 0xc0) = some (share, [(0x80, 0xbf)]) := by
  unfold leadByte
  rw [if_neg (by omega), if_neg (by omega), if_pos (by omega), Nat.add_sub_cancel]

theorem leadByte_three {share : Nat} (most : share < 0x10) :
    leadByte (share + 0xe0) =
      some (share, [(if share = 0 then 0xa0 else 0x80, if share = 0xd then 0x9f else 0xbf),
        (0x80, 0xbf)]) := by
  unfold leadByte
  rw [if_neg (by omega), if_neg (by omega), if_neg (by omega)]
  by_cases first : share = 0
  · simp [first]
  by_cases surrogate : share = 0xd
  · simp [surrogate]
  rw [if_neg (by omega), if_neg (by omega), if_pos (by omega), if_neg first, if_neg surrogate,
    Nat.add_sub_cancel]

theorem leadByte_four {share : Nat} (most : share < 5) :
    leadByte (share + 0xf0) =
      some (share, [(if share = 0 then 0x90 else 0x80, if share = 4 then 0x8f else 0xbf),
        (0x80, 0xbf), (0x80, 0xbf)]) := by
  unfold leadByte
  rw [if_neg (by omega), if_neg (by omega), if_neg (by omega), if_neg (by omega), if_neg (by omega),
    if_neg (by omega)]
  by_cases first : share = 0
  · simp [first]
  by_cases last : share = 4
  · simp [last]
  rw [if_neg (by omega), if_pos (by omega), if_neg first, if_neg last, Nat.add_sub_cancel]

theorem decodeUtf8From_encodeChar (position : Nat) (read : List Char) (c : Char) (rest : Bytes) :
    decodeUtf8From position read (String.utf8EncodeChar c ++ rest) =
      decodeUtf8From (position + (String.utf8EncodeChar c).length) (c :: read) rest := by
  have scalar : c.val.toNat < 0xd800 ∨ 0xdfff < c.val.toNat ∧ c.val.toNat < 0x110000 := c.valid
  have self : Char.ofNat c.val.toNat = c := Char.ofNat_toNat c
  have more (value : Nat) (small : value < 64) : 0x80 ≤ value + 0x80 ∧ value + 0x80 ≤ 0xbf := by
    omega
  revert self
  unfold String.utf8EncodeChar
  generalize c.val.toNat = code at scalar
  intro self
  simp only
  by_cases one : code ≤ 0x7f
  · have lead : leadByte code = some (code, []) := by
      unfold leadByte
      rw [if_pos (by omega)]
    rw [if_pos one]
    exact self ▸ decodeUtf8From_first [] position read (by omega) lead rfl rfl
  by_cases two : code ≤ 0x7ff
  · rw [if_neg one, if_pos two]
    refine self ▸ decodeUtf8From_first [_] position read (by omega)
      (leadByte_two (by omega) (by omega)) rfl ?_
    apply readTail_more (more _ (by omega)) (by omega)
    have whole : code / 64 % 0x20 * 64 + code % 0x40 = code := by omega
    rw [whole]
    rfl
  by_cases three : code ≤ 0xffff
  · rw [if_neg one, if_neg two, if_pos three]
    refine self ▸ decodeUtf8From_first [_, _] position read (by omega)
      (leadByte_three (by omega)) rfl ?_
    apply readTail_more (by split <;> split <;> omega) (by omega)
    apply readTail_more (more _ (by omega)) (by omega)
    have whole : (code / 4096 % 0x10 * 64 + code / 64 % 0x40) * 64 + code % 0x40 = code := by omega
    rw [whole]
    rfl
  · rw [if_neg one, if_neg two, if_neg three]
    refine self ▸ decodeUtf8From_first [_, _, _] position read (by omega)
      (leadByte_four (by omega)) rfl ?_
    apply readTail_more (by split <;> split <;> omega) (by omega)
    apply readTail_more (more _ (by omega)) (by omega)
    apply readTail_more (more _ (by omega)) (by omega)
    have whole : ((code / 262144 % 0x08 * 64 + code / 4096 % 0x40) * 64 + code / 64 % 0x40) * 64 +
        code % 0x40 = code := by omega
    rw [whole]
    rfl

theorem decodeUtf8From_encodeUtf8 (position : Nat) (read text : List Char) :
    decodeUtf8From position read (encodeUtf8 text) = .ok (read.reverse ++ text) := by
  induction text generalizing position read with
  | nil => simp [encodeUtf8, decodeUtf8From]
  | cons c others ih =>
    have step := decodeUtf8From_encodeChar position read c (encodeUtf8 others)
    rw [ih] at step
    simpa [encodeUtf8] using step

theorem decodeUtf8_encodeUtf8 (text : List Char) : decodeUtf8 (encodeUtf8 text) = .ok text := by
  rw [decodeUtf8, decodeUtf8From_encodeUtf8]
  rfl

/-- What can be decoded looks the same where it is only shown. -/
theorem decodeUtf8LossyFrom_of_ok {position : Nat} {read text : List Char} {bytes : Bytes}
    (decoded : decodeUtf8From position read bytes = .ok text) : decodeUtf8LossyFrom read bytes = text := by
  induction position, read, bytes using decodeUtf8From.induct with
  | case1 position read =>
    rw [decodeUtf8From] at decoded
    rw [decodeUtf8LossyFrom]
    exact Except.ok.inj decoded
  | case2 position read byte rest lead =>
    rw [decodeUtf8From, lead] at decoded
    cases decoded
  | case3 position read byte rest code ranges lead whole tail ih =>
    rw [decodeUtf8From, lead] at decoded
    rw [decodeUtf8LossyFrom, lead]
    simp only [tail] at decoded ⊢
    exact ih decoded
  | case4 position read byte rest code ranges lead fitting atEnd tail =>
    rw [decodeUtf8From, lead] at decoded
    simp only [tail] at decoded
    cases decoded

theorem decodeUtf8Lossy_encodeUtf8 (text : List Char) : decodeUtf8Lossy (encodeUtf8 text) = text :=
  decodeUtf8LossyFrom_of_ok (decodeUtf8_encodeUtf8 text)

/-! ### Bytes of single characters -/

/-- A character is one byte below 0x80, or no byte of it is. -/
theorem utf8EncodeChar_cases (c : Char) :
    c.toNat < 0x80 ∧ String.utf8EncodeChar c = [UInt8.ofNat c.toNat] ∨
      0x80 ≤ c.toNat ∧ ∀ byte ∈ String.utf8EncodeChar c, 0x80 ≤ byte.toNat := by
  have above (value : Nat) (least : 0x80 ≤ value) (small : value < 256) : 0x80 ≤ (UInt8.ofNat value).toNat :=
    (toNat_byte small).symm ▸ least
  unfold String.utf8EncodeChar Char.toNat
  generalize c.val.toNat = code
  simp only
  by_cases one : code ≤ 0x7f
  · rw [if_pos one]
    exact .inl ⟨by omega, rfl⟩
  refine .inr ⟨by omega, ?_⟩
  rw [if_neg one]
  split
  · simp only [List.forall_mem_cons]
    exact ⟨above _ (by omega) (by omega), above _ (by omega) (by omega), by simp⟩
  split
  · simp only [List.forall_mem_cons]
    exact ⟨above _ (by omega) (by omega), above _ (by omega) (by omega), above _ (by omega) (by omega), by simp⟩
  · simp only [List.forall_mem_cons]
    exact ⟨above _ (by omega) (by omega), above _ (by omega) (by omega), above _ (by omega) (by omega),
      above _ (by omega) (by omega), by simp⟩

/-- A byte below 0x80 is a character of its own, which parts the others. -/
theorem split_encodeUtf8 {text : List Char} {front back : Bytes} {byte : UInt8} (ascii : byte.toNat < 0x80)
    (same : encodeUtf8 text = front ++ byte :: back) :
    ∃ before after, text = before ++ Char.ofNat byte.toNat :: after ∧ front = encodeUtf8 before ∧
      back = encodeUtf8 after := by
  induction text generalizing front with
  | nil => simp [encodeUtf8] at same
  | cons c others ih =>
    have onward {more : Bytes} (here : front = String.utf8EncodeChar c ++ more)
        (rest : encodeUtf8 others = more ++ byte :: back) :
        ∃ before after, c :: others = before ++ Char.ofNat byte.toNat :: after ∧ front = encodeUtf8 before ∧
          back = encodeUtf8 after := by
      obtain ⟨before, after, is, left, right⟩ := ih rest
      exact ⟨c :: before, after, by rw [is, List.cons_append], by rw [here, left]; rfl, right⟩
    have parts : String.utf8EncodeChar c ++ encodeUtf8 others = front ++ byte :: back := same
    rcases List.append_eq_append_iff.1 parts with ⟨more, here, rest⟩ | ⟨more, inside, rest⟩
    · exact onward here rest
    · cases more with
      | nil =>
        rw [List.append_nil] at inside
        exact onward (by rw [List.append_nil, inside]) (show _ = [] ++ _ from rest.symm)
      | cons first more =>
        obtain ⟨rfl, others⟩ := List.cons.inj rest
        rcases utf8EncodeChar_cases c with ⟨small, is⟩ | ⟨_, above⟩
        · have lone : front ++ byte :: more = [UInt8.ofNat c.toNat] := inside.symm.trans is
          obtain ⟨rfl, lone⟩ := List.append_eq_singleton_iff.1 lone |>.resolve_right (by simp)
          obtain ⟨rfl, rfl⟩ := List.cons.inj lone
          refine ⟨[], _, ?_, rfl, others⟩
          rw [toNat_byte (by omega), Char.ofNat_toNat]
          rfl
        · exact absurd (above byte (by simp [inside])) (by omega)

theorem mem_of_mem_encodeUtf8 {text : List Char} {byte : UInt8} (ascii : byte.toNat < 0x80)
    (member : byte ∈ encodeUtf8 text) : Char.ofNat byte.toNat ∈ text := by
  obtain ⟨front, back, same⟩ := List.append_of_mem member
  obtain ⟨before, after, rfl, _⟩ := split_encodeUtf8 ascii same
  simp

theorem encodeUtf8_append (first second : List Char) :
    encodeUtf8 (first ++ second) = encodeUtf8 first ++ encodeUtf8 second := List.flatMap_append

theorem encodeUtf8_of_small {text : List Char} (small : ∀ c ∈ text, c.toNat < 0x80) :
    encodeUtf8 text = text.map fun c => UInt8.ofNat c.toNat := by
  induction text with
  | nil => rfl
  | cons c others ih =>
    have rest := ih fun other member => small other (List.mem_cons_of_mem _ member)
    rcases utf8EncodeChar_cases c with ⟨_, is⟩ | ⟨great, _⟩
    · rw [encodeUtf8, List.flatMap_cons, is, List.map_cons]
      exact congrArg _ rest
    · exact absurd (small c List.mem_cons_self) (by omega)

end Bookbinder.Text
