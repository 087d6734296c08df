import Mathlib.Algebra.Order.Floor.Ring
import Mathlib.Data.Rat.Floor
import Mathlib.Tactic.FieldSimp
import Mathlib.Tactic.Linarith
import Mathlib.Tactic.NormNum
import Bookbinder.Duration

/-!
Durations read back from their texts. Main statements: a text tells its duration to the nearest tenth of a
second below a minute and to the second from there on, and a longer duration is never told as a shorter
one, whatever units the two of them are shown in; less than sixty of a unit are shown where a larger one exists,
but for the durations that are shorter than a minute and nearer to it than to any tenth before it.
-/

set_option autoImplicit false

namespace Bookbinder.Duration

/-- The seconds of a duration that has a number of them, exactly. -/
def seconds? : Duration → Option ℚ
  | .finite negative mantissa exponent =>
    some ((if negative then -1 else 1) * (mantissa * 2 ^ exponent))
  | .infinite _ | .undefined => none

/-! ### Texts read back -/

/-- What a text says: the units that it shows, and the sign. -/
structure Reading where
  isNegative : Bool
  hours : Option Nat
  minutes : Option Nat
  seconds : ℚ

/-- The time that is meant, in seconds. -/
def Reading.value (reading : Reading) : ℚ :=
  (if reading.isNegative then -1 else 1) *
    ((reading.hours.getD 0 : ℚ) * 3600 + (reading.minutes.getD 0 : ℚ) * 60 + reading.seconds)

/-- A unit stays below the next larger one where that is shown. -/
structure Reading.IsCarried (reading : Reading) : Prop where
  minutes : reading.hours.isSome → ∃ minutes, reading.minutes = some minutes ∧ minutes < 60
  seconds : reading.minutes.isSome → reading.seconds < 60

/-- The number at the beginning of a text, and what comes after it. -/
def readCount? (text : List Char) : Option (Nat × List Char) :=
  match text.takeWhile Char.isDigit with
  | [] => none
  | digits => some (Nat.ofDigitChars 10 digits 0, text.dropWhile Char.isDigit)

/-- Whole seconds at the end of a text. -/
def readWholeSeconds? (text : List Char) : Option ℚ :=
  match readCount? text with
  | some (seconds, ['s']) => some seconds
  | _ => none

/-- Hours, minutes and seconds, or minutes and seconds, or seconds with one decimal. -/
def readUnsigned? (text : List Char) : Option (Option Nat × Option Nat × ℚ) :=
  match readCount? text with
  | some (seconds, ['.', tenth, 's']) =>
    if tenth.isDigit then some (none, none, seconds + Nat.ofDigitChars 10 [tenth] 0 / 10) else none
  | some (minutes, 'm' :: ' ' :: rest) =>
    (readWholeSeconds? rest).map fun seconds => (none, some minutes, seconds)
  | some (hours, 'h' :: ' ' :: rest) =>
    match readCount? rest with
    | some (minutes, 'm' :: ' ' :: rest) =>
      (readWholeSeconds? rest).map fun seconds => (some hours, some minutes, seconds)
    | _ => none
  | _ => none

def read? (text : List Char) : Option Reading :=
  match text with
  | '-' :: rest => (readUnsigned? rest).map fun parts => ⟨true, parts.1, parts.2.1, parts.2.2⟩
  | _ => (readUnsigned? text).map fun parts => ⟨false, parts.1, parts.2.1, parts.2.2⟩

/-- What the text of a duration says, if it has one. -/
def shown? (duration : Duration) : Option Reading :=
  duration.text.toOption.bind fun text => read? text.toList

theorem readCount?_digits (n : Nat) {c : Char} (stops : c.isDigit = false) (rest : List Char) :
    readCount? ((Text.digits 10 n).toList ++ c :: rest) = some (n, c :: rest) := by
  have digits : ∀ c ∈ Nat.toDigits 10 n, c.isDigit = true := fun c member =>
    Nat.isDigit_of_mem_toDigits (by decide) (by decide) member
  have taken : (c :: rest).takeWhile Char.isDigit = [] := List.takeWhile_cons_of_neg (by simp [stops])
  have left : (c :: rest).dropWhile Char.isDigit = c :: rest := List.dropWhile_cons_of_neg (by simp [stops])
  rw [Text.digits, String.toList_ofList, readCount?, List.takeWhile_append_of_pos digits, taken,
    List.append_nil, List.dropWhile_append_of_pos digits, left]
  split
  · next none => exact absurd none Nat.toDigits_ne_nil
  · rw [Nat.ofDigitChars_ten_toDigits]

theorem readWholeSeconds?_digits (n : Nat) :
    readWholeSeconds? ((Text.digits 10 n).toList ++ ['s']) = some (n : ℚ) := by
  simp only [readWholeSeconds?, readCount?_digits n (show 's'.isDigit = false by decide)]

/-- A text that starts with a digit has no sign. -/
theorem read?_digits (n : Nat) (rest : List Char) :
    read? ((Text.digits 10 n).toList ++ rest) =
      (readUnsigned? ((Text.digits 10 n).toList ++ rest)).map fun parts =>
        ⟨false, parts.1, parts.2.1, parts.2.2⟩ := by
  rw [Text.digits, String.toList_ofList]
  cases digits : Nat.toDigits 10 n with
  | nil => exact absurd digits Nat.toDigits_ne_nil
  | cons first others =>
    have isDigit : first.isDigit = true :=
      Nat.isDigit_of_mem_toDigits (by decide) (by decide) (digits ▸ List.mem_cons_self)
    rw [List.cons_append, read?]
    rintro _ same
    cases same
    exact absurd isDigit (by decide)

theorem readUnsigned?_tenths (tenths : Nat) :
    readUnsigned? ((Text.digits 10 (tenths / 10)).toList ++
        ('.' :: ((Text.digits 10 (tenths % 10)).toList ++ ['s']))) =
      some (none, none, (tenths : ℚ) / 10) := by
  have small : tenths % 10 < 10 := Nat.mod_lt _ (by decide)
  have last : (Text.digits 10 (tenths % 10)).toList = [Nat.digitChar (tenths % 10)] := by
    rw [Text.digits, String.toList_ofList, Nat.toDigits_of_lt_base small]
  have whole : ((tenths / 10 : Nat) : ℚ) + ((tenths % 10 : Nat) : ℚ) / 10 = (tenths : ℚ) / 10 := by
    have parts : ((10 * (tenths / 10) + tenths % 10 : Nat) : ℚ) = tenths :=
      congrArg Nat.cast (Nat.div_add_mod tenths 10)
    push_cast at parts
    linarith
  rw [last, readUnsigned?, readCount?_digits _ (by decide)]
  simp only [List.cons_append, List.nil_append, Nat.isDigit_digitChar, small, decide_true, if_true,
    Nat.ofDigitChars_cons_digitChar_of_lt_ten small, Nat.ofDigitChars_nil, Nat.mul_zero, Nat.zero_add, whole]

theorem read?_tenthsText (negative : Bool) (tenths : Nat) :
    read? (tenthsText negative tenths).toList = some ⟨negative, none, none, (tenths : ℚ) / 10⟩ := by
  have unsigned := readUnsigned?_tenths tenths
  cases negative with
  | true =>
    simp only [tenthsText, if_true, String.toList_append, List.append_assoc]
    exact congrArg (Option.map _) unsigned
  | false =>
    have text : (tenthsText false tenths).toList = (Text.digits 10 (tenths / 10)).toList ++
        ('.' :: ((Text.digits 10 (tenths % 10)).toList ++ ['s'])) := by
      simp [tenthsText]
    rw [text, read?_digits, unsigned]
    rfl

/-- What the text of whole seconds says. -/
def wholeReading (seconds : Nat) : Reading :=
  if seconds / 60 < 60 then ⟨false, none, some (seconds / 60), (seconds % 60 : Nat)⟩
  else ⟨false, some (seconds / 60 / 60), some (seconds / 60 % 60), (seconds % 60 : Nat)⟩

theorem read?_wholeText (seconds : Nat) :
    read? (wholeText seconds).toList = some (wholeReading seconds) := by
  by_cases short : seconds / 60 < 60
  · have text : (wholeText seconds).toList = (Text.digits 10 (seconds / 60)).toList ++
        ('m' :: ' ' :: ((Text.digits 10 (seconds % 60)).toList ++ ['s'])) := by
      simp [wholeText, short]
    rw [text, read?_digits, readUnsigned?, readCount?_digits _ (by decide), wholeReading, if_pos short]
    simp only [readWholeSeconds?_digits, Option.map_some]
  · have text : (wholeText seconds).toList = (Text.digits 10 (seconds / 60 / 60)).toList ++
        ('h' :: ' ' :: ((Text.digits 10 (seconds / 60 % 60)).toList ++
          ('m' :: ' ' :: ((Text.digits 10 (seconds % 60)).toList ++ ['s'])))) := by
      simp [wholeText, short]
    rw [text, read?_digits, readUnsigned?, readCount?_digits _ (by decide), wholeReading, if_neg short]
    simp only [readCount?_digits _ (show 'm'.isDigit = false by decide), readWholeSeconds?_digits,
      Option.map_some]

theorem wholeReading_minutes (seconds : Nat) :
    ∃ minutes, (wholeReading seconds).minutes = some minutes ∧ minutes < 60 := by
  rw [wholeReading]
  split
  · next short => exact ⟨_, rfl, short⟩
  · exact ⟨_, rfl, Nat.mod_lt _ (by decide)⟩

theorem wholeReading_seconds (seconds : Nat) : (wholeReading seconds).seconds < 60 := by
  have second : ((seconds % 60 : Nat) : ℚ) < 60 := by exact_mod_cast Nat.mod_lt seconds (by decide)
  rw [wholeReading]
  split <;> exact second

theorem wholeReading_value (seconds : Nat) : (wholeReading seconds).value = seconds := by
  have parts : ((60 * (seconds / 60) + seconds % 60 : Nat) : ℚ) = seconds :=
    congrArg Nat.cast (Nat.div_add_mod seconds 60)
  have minutes : ((60 * (seconds / 60 / 60) + seconds / 60 % 60 : Nat) : ℚ) = (seconds / 60 : Nat) :=
    congrArg Nat.cast (Nat.div_add_mod (seconds / 60) 60)
  push_cast at parts minutes
  rw [wholeReading]
  split
  · simp only [Reading.value, Option.getD_none, Option.getD_some, Nat.cast_zero]
    push_cast
    linarith
  · simp only [Reading.value, Option.getD_some]
    push_cast
    linarith

/-- From a minute on, a text shows whole seconds, and smaller units below sixty. -/
theorem wholeReading_isCarried (seconds : Nat) : (wholeReading seconds).IsCarried :=
  ⟨fun _ => wholeReading_minutes seconds, fun _ => wholeReading_seconds seconds⟩

/-! ### The nearest tenth -/

theorem denominator_pos (exponent : Int) : 0 < denominator exponent := by
  rw [denominator, Nat.one_shiftLeft]
  exact Nat.two_pow_pos _

theorem numerator_div_denominator (mantissa : Nat) (exponent : Int) :
    (numerator mantissa exponent : ℚ) / denominator exponent = mantissa * 2 ^ exponent := by
  rw [numerator, denominator, Nat.shiftLeft_eq, Nat.one_shiftLeft]
  push_cast
  rcases Int.le_total 0 exponent with up | down
  · obtain ⟨places, rfl⟩ := Int.eq_ofNat_of_zero_le up
    simp
  · obtain ⟨places, same⟩ := Int.eq_ofNat_of_zero_le (Int.neg_nonneg.2 down)
    obtain rfl : exponent = -(places : Int) := by omega
    simp [div_eq_mul_inv]

/-- A tie goes to an even number. -/
theorem even_roundHalfEven {n d k : Nat} (positive : 0 < d) (tie : 2 * n = (2 * k + 1) * d) :
    roundHalfEven n d % 2 = 0 := by
  obtain ⟨half, rfl⟩ : ∃ half, d = 2 * half := by
    refine ⟨d / 2, ?_⟩
    have : (2 * k + 1) * d % 2 = 0 := by rw [← tie, Nat.mul_mod_right]
    have parity : d % 2 = 0 := by
      rw [Nat.mul_mod] at this
      rcases Nat.mod_two_eq_zero_or_one d with even | odd
      · exact even
      · rw [odd] at this
        omega
    omega
  have number : n = half + (2 * half) * k := by
    have : 2 * n = 2 * (half + (2 * half) * k) := by rw [tie]; ring
    omega
  have whole : n / (2 * half) = k := by
    rw [number, Nat.add_mul_div_left _ _ positive, Nat.div_eq_of_lt (by omega), Nat.zero_add]
  have left : n % (2 * half) = half := by
    rw [number, Nat.add_mul_mod_self_left, Nat.mod_eq_of_lt (by omega)]
  simp only [roundHalfEven, whole, left, lt_self_iff_false, false_or, true_and]
  split <;> omega

/-- A number is rounded above an odd number from the middle on, since that is a tie. -/
theorem lt_roundHalfEven_iff {n d k : Nat} (positive : 0 < d) (odd : k % 2 = 1) :
    k < roundHalfEven n d ↔ (2 * k + 1) * d ≤ 2 * n := by
  obtain ⟨low, high⟩ := roundHalfEven_near n positive
  constructor
  · intro above
    nlinarith
  · intro beyond
    by_contra within
    have last : roundHalfEven n d ≤ k := not_lt.1 within
    have tie : 2 * n = (2 * k + 1) * d :=
      le_antisymm (low.trans (Nat.mul_le_mul_right d (by omega))) beyond
    have even := even_roundHalfEven positive tie
    rw [tie] at low
    have : 2 * k + 1 ≤ 2 * roundHalfEven n d + 1 := Nat.le_of_mul_le_mul_right low positive
    omega

/-- Only a tie could keep two numbers with the same nearest tenths apart, and it goes to the same side. -/
theorem roundHalfEven_mono {n d n' d' : Nat} (positive : 0 < d) (positive' : 0 < d')
    (ordered : (n : ℚ) / d ≤ n' / d') : roundHalfEven n d ≤ roundHalfEven n' d' := by
  by_contra later
  have crossed : n * d' ≤ n' * d := by
    rw [div_le_div_iff₀ (by exact_mod_cast positive) (by exact_mod_cast positive')] at ordered
    exact_mod_cast ordered
  have near := (roundHalfEven_near n positive).2
  have near' := (roundHalfEven_near n' positive').1
  have even := @even_roundHalfEven n d
  have even' := @even_roundHalfEven n' d'
  generalize roundHalfEven n d = r at *
  generalize roundHalfEven n' d' = r' at *
  -- both quotients lie between the two whole numbers, so that both are the middle of them
  have low : (2 * r' + 1) * d ≤ 2 * n := by nlinarith
  have middle : (2 * r' + 1) * (d * d') ≤ 2 * (n * d') := by nlinarith
  have middle' : 2 * (n' * d) ≤ (2 * r' + 1) * (d * d') := by nlinarith
  have tie : 2 * n = (2 * r' + 1) * d := by
    have : 2 * n * d' = (2 * r' + 1) * d * d' := by nlinarith
    exact Nat.eq_of_mul_eq_mul_right positive' this
  have tie' : 2 * n' = (2 * r' + 1) * d' := by
    have : 2 * n' * d = (2 * r' + 1) * d' * d := by nlinarith
    exact Nat.eq_of_mul_eq_mul_right positive this
  have above : r ≤ r' + 1 := by
    by_contra beyond
    nlinarith
  have := even positive tie
  have := even' positive' tie'
  omega

/-! ### What a text tells -/

/-- A text tells a time below a minute to half a tenth of a second, and any other in whole seconds, none of
which is counted before it is over. -/
structure Reading.Tells (reading : Reading) (seconds : ℚ) : Prop where
  carried : reading.IsCarried
  near : seconds < 60 → |reading.value - seconds| ≤ 1 / 20
  whole : 60 ≤ seconds → reading.value = ⌊seconds⌋

/-- A number of seconds that is not below zero is that quotient, with a sign only before a zero. -/
theorem quotient_of_nonneg {negative : Bool} {mantissa : Nat} {exponent : Int} {seconds : ℚ}
    (exact : seconds? (.finite negative mantissa exponent) = some seconds) (nonneg : 0 ≤ seconds) :
    (numerator mantissa exponent : ℚ) / denominator exponent = seconds ∧
      (negative = true → numerator mantissa exponent = 0) := by
  have scale : (0 : ℚ) < 2 ^ exponent := zpow_pos (by norm_num) _
  rw [numerator_div_denominator]
  cases exact
  cases negative with
  | false => simp
  | true =>
    have none : mantissa = 0 := by
      have : (mantissa : ℚ) * 2 ^ exponent ≤ 0 := by simpa using nonneg
      have : (mantissa : ℚ) ≤ 0 := by
        by_contra positive
        exact absurd this (not_le.2 (mul_pos (not_le.1 positive) scale))
      exact Nat.le_zero.1 (by exact_mod_cast this)
    subst none
    simp [numerator]

/-- The text of a duration that is not below zero, below a minute and from there on. -/
theorem text_cases {duration : Duration} {seconds : ℚ} (exact : duration.seconds? = some seconds)
    (nonneg : 0 ≤ seconds) :
    ∃ negative, ∃ top bottom : Nat, 0 < bottom ∧ (top : ℚ) / bottom = seconds ∧ (negative = true → top = 0) ∧
      (seconds < 60 ∧ duration.text = .ok (tenthsText negative (roundHalfEven (10 * top) bottom)) ∨
        60 ≤ seconds ∧ duration.text = .ok (wholeText (top / bottom))) := by
  cases duration with
  | infinite negative => cases exact
  | undefined => cases exact
  | finite negative mantissa exponent =>
    obtain ⟨quotient, signless⟩ := quotient_of_nonneg exact nonneg
    have positive := denominator_pos exponent
    have minute : seconds < 60 ↔ numerator mantissa exponent < 60 * denominator exponent := by
      rw [← quotient, div_lt_iff₀ (by exact_mod_cast positive)]
      exact_mod_cast Iff.rfl
    refine ⟨negative, _, _, positive, quotient, signless, ?_⟩
    by_cases short : negative = true ∨ numerator mantissa exponent < 60 * denominator exponent
    · refine .inl ⟨minute.2 ?_, if_pos short⟩
      rcases short with signed | short
      · rw [signless signed]
        exact Nat.mul_pos (by decide) positive
      · exact short
    · exact .inr ⟨not_lt.1 fun below => short (.inr (minute.1 below)), if_neg short⟩

/-- What the text of a duration says, below a minute and from there on. -/
theorem shown?_cases {duration : Duration} {seconds : ℚ} (exact : duration.seconds? = some seconds)
    (nonneg : 0 ≤ seconds) :
    ∃ reading, ∃ top bottom : Nat, duration.shown? = some reading ∧ reading.IsCarried ∧ 0 < bottom ∧
      (top : ℚ) / bottom = seconds ∧
      (seconds < 60 → reading.value = (roundHalfEven (10 * top) bottom : ℚ) / 10) ∧
      (60 ≤ seconds → reading.value = (top / bottom : Nat)) := by
  obtain ⟨negative, top, bottom, positive, quotient, signless, ⟨below, text⟩ | ⟨beyond, text⟩⟩ :=
    text_cases exact nonneg
  · have shown : duration.shown? = some ⟨negative, none, none, (roundHalfEven (10 * top) bottom : ℚ) / 10⟩ := by
      rw [shown?, text]
      exact read?_tenthsText _ _
    refine ⟨_, top, bottom, shown, ⟨nofun, nofun⟩, positive, quotient, fun _ => ?_,
      fun beyond => absurd below (not_lt.2 beyond)⟩
    cases negative with
    | false => simp [Reading.value]
    | true => simp [Reading.value, signless rfl, roundHalfEven, positive]
  · have shown : duration.shown? = some (wholeReading (top / bottom)) := by
      rw [shown?, text]
      exact read?_wholeText _
    exact ⟨_, top, bottom, shown, wholeReading_isCarried _, positive, quotient,
      fun below => absurd below (not_lt.2 beyond), fun _ => wholeReading_value _⟩

/-- The nearest tenth is half a tenth away at most. -/
theorem tenth_near {top bottom : Nat} (positive : 0 < bottom) :
    |(roundHalfEven (10 * top) bottom : ℚ) / 10 - top / bottom| ≤ 1 / 20 := by
  obtain ⟨low, high⟩ := roundHalfEven_near (10 * top) positive
  generalize roundHalfEven (10 * top) bottom = tenths at low high ⊢
  have apart : (0 : ℚ) < bottom := by exact_mod_cast positive
  have low : (2 * (10 * top) : ℚ) ≤ (2 * tenths + 1) * bottom := by exact_mod_cast low
  have high : (2 * tenths * bottom : ℚ) ≤ 2 * (10 * top) + bottom := by exact_mod_cast high
  have whole : (top : ℚ) = top / bottom * bottom := by field_simp
  generalize (top : ℚ) / bottom = quotient at whole ⊢
  rw [whole] at low high
  rw [abs_le]
  constructor <;> nlinarith

/-- Below a minute, no more than a minute is told. -/
theorem tenth_le_sixty {top bottom : Nat} (positive : 0 < bottom) (short : (top : ℚ) / bottom < 60) :
    (roundHalfEven (10 * top) bottom : ℚ) / 10 ≤ 60 := by
  have high := (roundHalfEven_near (10 * top) positive).2
  have apart : (0 : ℚ) < bottom := by exact_mod_cast positive
  have short : top < 60 * bottom := by
    rw [div_lt_iff₀ apart] at short
    exact_mod_cast short
  have tenths : roundHalfEven (10 * top) bottom ≤ 600 := by
    by_contra more
    nlinarith
  have : (roundHalfEven (10 * top) bottom : ℚ) ≤ 600 := by exact_mod_cast tenths
  linarith

/-- A text tells its duration, and that of a longer duration tells no less. -/
theorem shown_tells {first second : Duration} {s t : ℚ} (exact : first.seconds? = some s)
    (exact' : second.seconds? = some t) (nonneg : 0 ≤ s) (ordered : s ≤ t) :
    ∃ shorter longer, first.shown? = some shorter ∧ second.shown? = some longer ∧
      shorter.Tells s ∧ longer.Tells t ∧ shorter.value ≤ longer.value := by
  obtain ⟨shorter, top, bottom, shown, carried, positive, rfl, tenths, whole⟩ := shown?_cases exact nonneg
  obtain ⟨longer, top', bottom', shown', carried', positive', rfl, tenths', whole'⟩ :=
    shown?_cases exact' (nonneg.trans ordered)
  have tells : shorter.Tells (top / bottom) :=
    ⟨carried, fun below => by rw [tenths below]; exact tenth_near positive,
      fun beyond => by rw [whole beyond, Rat.floor_natCast_div_natCast]; norm_cast⟩
  have tells' : longer.Tells (top' / bottom') :=
    ⟨carried', fun below => by rw [tenths' below]; exact tenth_near positive',
      fun beyond => by rw [whole' beyond, Rat.floor_natCast_div_natCast]; norm_cast⟩
  refine ⟨shorter, longer, shown, shown', tells, tells', ?_⟩
  by_cases first : (top : ℚ) / bottom < 60
  · by_cases second : (top' : ℚ) / bottom' < 60
    · rw [tenths first, tenths' second]
      have scaled : ((10 * top : Nat) : ℚ) / bottom ≤ ((10 * top' : Nat) : ℚ) / bottom' := by
        push_cast
        rw [mul_div_assoc, mul_div_assoc]
        linarith
      have := roundHalfEven_mono positive positive' scaled
      have : (roundHalfEven (10 * top) bottom : ℚ) ≤ roundHalfEven (10 * top') bottom' := by
        exact_mod_cast this
      linarith
    · rw [tells'.whole (not_lt.1 second), tenths first]
      have minute : (60 : ℤ) ≤ ⌊(top' : ℚ) / bottom'⌋ := Int.le_floor.2 (by exact_mod_cast not_lt.1 second)
      exact (tenth_le_sixty positive first).trans (by exact_mod_cast minute)
  · rw [tells.whole (not_lt.1 first), tells'.whole ((not_lt.1 first).trans ordered)]
    exact_mod_cast Int.floor_le_floor ordered

/-- Just below a minute, and an hour. -/
theorem shown_tells_across_units :
    (ofBits 0x404dfc0000000000).seconds? = some (1919 / 32) ∧
      (ofBits 0x40ac200000000000).seconds? = some 3600 ∧
      ∃ shorter longer, (ofBits 0x404dfc0000000000).shown? = some shorter ∧
        (ofBits 0x40ac200000000000).shown? = some longer ∧
        shorter.Tells (1919 / 32) ∧ longer.Tells 3600 ∧ shorter.value ≤ longer.value := by
  have first : (ofBits 0x404dfc0000000000).seconds? = some (1919 / 32) := by
    norm_num [ofBits, seconds?, signPlace, fieldPlace]
  have second : (ofBits 0x40ac200000000000).seconds? = some 3600 := by
    norm_num [ofBits, seconds?, signPlace, fieldPlace]
  exact ⟨first, second, shown_tells first second (by norm_num) (by norm_num)⟩

/-! ### Readings in canonical form -/

/-- Sixty of a unit are never shown where there is a larger one. -/
structure Reading.IsCanonical (reading : Reading) : Prop where
  minutes : ∀ minutes ∈ reading.minutes, minutes < 60
  seconds : reading.seconds < 60

/-- Less than a minute, and in tenths a whole one. The middle between two tenths belongs to the minute. -/
def RoundsToMinute (seconds : ℚ) : Prop := 1199 / 20 ≤ seconds ∧ seconds < 60

theorem wholeReading_isCanonical (seconds : Nat) : (wholeReading seconds).IsCanonical := by
  obtain ⟨minutes, shown, below⟩ := wholeReading_minutes seconds
  refine ⟨fun other is => ?_, wholeReading_seconds seconds⟩
  rw [shown] at is
  cases is
  exact below

/-- The tenths of a minute are reached from the middle between the last two of them on. -/
theorem sixty_le_tenth_iff {top bottom : Nat} (positive : 0 < bottom) :
    600 ≤ roundHalfEven (10 * top) bottom ↔ 1199 / 20 ≤ (top : ℚ) / bottom := by
  have apart : (0 : ℚ) < bottom := by exact_mod_cast positive
  rw [Nat.succ_le_iff, lt_roundHalfEven_iff positive (by decide), div_le_div_iff₀ (by norm_num) apart]
  constructor
  · intro beyond
    have : ((2 * 599 + 1 : Nat) : ℚ) * bottom ≤ 2 * (10 * top) := by exact_mod_cast beyond
    push_cast at this
    linarith
  · intro beyond
    have : 1199 * bottom ≤ top * 20 := by exact_mod_cast beyond
    omega

theorem tenthReading_seconds_lt_iff (tenths : Nat) : (tenths : ℚ) / 10 < 60 ↔ tenths < 600 := by
  rw [div_lt_iff₀ (by norm_num), show (60 * 10 : ℚ) = (600 : Nat) by norm_num, Nat.cast_lt]

/-- The text of a duration is in canonical form unless the duration is rounded to a minute. -/
theorem shown_canonical_iff {duration : Duration} {seconds : ℚ} (exact : duration.seconds? = some seconds)
    (nonneg : 0 ≤ seconds) :
    ∃ reading, duration.shown? = some reading ∧ (∀ minutes ∈ reading.minutes, minutes < 60) ∧
      (reading.IsCanonical ↔ ¬ RoundsToMinute seconds) ∧
      (RoundsToMinute seconds → duration.text = .ok "60.0s") := by
  obtain ⟨negative, top, bottom, positive, rfl, signless, ⟨below, text⟩ | ⟨beyond, text⟩⟩ :=
    text_cases exact nonneg
  · have shown : duration.shown? = some ⟨negative, none, none, (roundHalfEven (10 * top) bottom : ℚ) / 10⟩ := by
      rw [shown?, text]
      exact read?_tenthsText _ _
    have canonical : (roundHalfEven (10 * top) bottom : ℚ) / 10 < 60 ↔ ¬ RoundsToMinute (top / bottom) := by
      rw [tenthReading_seconds_lt_iff, RoundsToMinute, ← sixty_le_tenth_iff positive, and_iff_left below, not_le]
    have unshown : ∀ minutes ∈ (none : Option Nat), minutes < 60 := by simp
    refine ⟨_, shown, unshown, ⟨fun is => canonical.1 is.seconds, fun apart => ⟨unshown, canonical.2 apart⟩⟩, ?_⟩
    intro minute
    have least : 600 ≤ roundHalfEven (10 * top) bottom := (sixty_le_tenth_iff positive).2 minute.1
    have most := tenth_le_sixty positive below
    rw [div_le_iff₀ (by norm_num), show (60 * 10 : ℚ) = (600 : Nat) by norm_num, Nat.cast_le] at most
    have tenths : roundHalfEven (10 * top) bottom = 600 := le_antisymm most least
    have unsigned : negative = false := by
      by_contra signed
      rw [signless (Bool.not_eq_false _ ▸ signed)] at minute
      norm_num [RoundsToMinute] at minute
    rw [text, tenths, unsigned]
    decide
  · have shown : duration.shown? = some (wholeReading (top / bottom)) := by
      rw [shown?, text]
      exact read?_wholeText _
    have apart : ¬ RoundsToMinute (top / bottom) := fun minute => absurd minute.2 (not_lt.2 beyond)
    have canonical := wholeReading_isCanonical (top / bottom)
    exact ⟨_, shown, canonical.minutes, ⟨fun _ => apart, fun _ => canonical⟩, fun minute => absurd minute apart⟩

/-- A sixteenth of a second before a minute is over. -/
theorem shown_canonical_iff_before_minute :
    (ofBits 0x404df80000000000).seconds? = some (959 / 16) ∧
      ∃ reading, (ofBits 0x404df80000000000).shown? = some reading ∧ (∀ minutes ∈ reading.minutes, minutes < 60) ∧
        (reading.IsCanonical ↔ ¬ RoundsToMinute (959 / 16)) ∧
        (RoundsToMinute (959 / 16) → (ofBits 0x404df80000000000).text = .ok "60.0s") := by
  have exact : (ofBits 0x404df80000000000).seconds? = some (959 / 16) := by
    norm_num [ofBits, seconds?, signPlace, fieldPlace]
  exact ⟨exact, shown_canonical_iff exact (by norm_num)⟩

/-- Sixty seconds are shown one thirty-second of a second before a minute is over. -/
theorem shown_not_always_canonical :
    (ofBits 0x404dfc0000000000).seconds? = some (1919 / 32) ∧
      (ofBits 0x404dfc0000000000).text = .ok "60.0s" ∧
      ¬ ∃ reading, (ofBits 0x404dfc0000000000).shown? = some reading ∧ reading.IsCanonical := by
  have exact : (ofBits 0x404dfc0000000000).seconds? = some (1919 / 32) := by
    norm_num [ofBits, seconds?, signPlace, fieldPlace]
  have text : (ofBits 0x404dfc0000000000).text = .ok "60.0s" := by decide +kernel
  have shown : (ofBits 0x404dfc0000000000).shown? = some ⟨false, none, none, (600 : Nat) / 10⟩ := by
    rw [shown?, text]
    exact read?_tenthsText false 600
  refine ⟨exact, text, ?_⟩
  rintro ⟨reading, is, canonical⟩
  rw [shown] at is
  cases is
  have := canonical.seconds
  norm_num at this

end Bookbinder.Duration
