import Bookbinder.Text.Split

/-!
Labels of host names in ASCII: the ASCII characters of a label come first, and after them numbers that
tell where the other characters belong. Main statements: what is added is written in small letters and
digits, and every digit is read back.
-/

set_option autoImplicit false

namespace Bookbinder.Web.Punycode

/-- Numbers are written in this base, the lowest digit first. -/
def base : Nat := 36

/-- The digits are the small letters and then the decimal digits. -/
def digit (value : Nat) : Char :=
  if value < 26 then Char.ofNat (0x61 + value) else Char.ofNat (0x30 + (value - 26))

/-- A digit below the threshold of its place ends a number. -/
def threshold (bias place : Nat) : Nat := min 26 (max 1 (place - bias))

theorem threshold_bounds (bias place : Nat) :
    1 ≤ threshold bias place ∧ threshold bias place ≤ 26 := by
  simp only [threshold]
  omega

/-- The digits of a number from a place on. Places are counted in steps of the base. -/
def number (bias place value : Nat) : List Char :=
  let least := threshold bias place
  if value < least then [digit value]
  else
    digit (least + (value - least) % (base - least)) ::
      number bias (place + base) ((value - least) / (base - least))
termination_by value
decreasing_by
  have bounds := threshold_bounds bias place
  have := Nat.div_le_self (value - threshold bias place) (base - threshold bias place)
  omega

/-- Divides a step until it is small, and counts the places that this takes. -/
def shrink (step places : Nat) : Nat × Nat :=
  if 455 < step then shrink (step / 35) (places + base) else (step, places)
termination_by step

/-- The bias for the next number, from the last step and the characters that are in place. -/
def adapt (step present : Nat) (isFirst : Bool) : Nat :=
  let halved := if isFirst then step / 700 else step / 2
  let (rest, places) := shrink (halved + halved / present) 0
  places + 36 * rest / (rest + 38)

/-- What was written, the step since then, the bias, and how many characters are in place. -/
structure Progress where
  written : List Char
  step : Nat
  bias : Nat
  present : Nat

/-- One character of the label is passed while a character is put in place. -/
def pass (basic code : Nat) (progress : Progress) (c : Char) : Progress :=
  if c.toNat < code then { progress with step := progress.step + 1 }
  else if c.toNat = code then
    { written := progress.written ++ number progress.bias base progress.step
      step := 0
      bias := adapt progress.step (progress.present + 1) (progress.present = basic)
      present := progress.present + 1 }
  else progress

/-- Puts characters in place, in the order of their codes; the code before the first is `last`. -/
def insertAll (label : List Char) (basic : Nat) : Nat → List Nat → Progress → Progress
  | _, [], progress => progress
  | last, code :: codes, progress =>
    let wide := { progress with
      step := progress.step + (code - last) * (progress.present + 1) }
    let passed := label.foldl (pass basic code) wide
    insertAll label basic (code + 1) codes { passed with step := passed.step + 1 }

def isBasic (c : Char) : Bool := c.toNat < 0x80

/-- The codes above ASCII, each of them once, in order. -/
def furtherCodes (label : List Char) : List Nat :=
  ((label.filter fun c => !isBasic c).map Char.toNat).mergeSort.eraseDups

def encode (label : List Char) : List Char :=
  let basic := label.filter isBasic
  let start : Progress := ⟨[], 0, 72, basic.length⟩
  let written := (insertAll label basic.length 0x80 (furtherCodes label) start).written
  if basic.isEmpty then written else basic ++ '-' :: written

/-- The value of a digit; letters of either case are read. -/
def digitValue? (c : Char) : Option Nat :=
  if 'a' ≤ c ∧ c ≤ 'z' then some (c.toNat - 0x61)
  else if 'A' ≤ c ∧ c ≤ 'Z' then some (c.toNat - 0x41)
  else if '0' ≤ c ∧ c ≤ '9' then some (c.toNat - 0x30 + 26)
  else none

/-- Reads one number from a place on; a digit counts `weight` times, and `sum` was read before. -/
def readNumber (bias : Nat) : Nat → Nat → Nat → List Char → Option (Nat × List Char)
  | _, _, _, [] => none
  | place, weight, sum, c :: rest =>
    match digitValue? c with
    | none => none
    | some value =>
      let least := threshold bias place
      if value < least then some (sum + value * weight, rest)
      else readNumber bias (place + base) (weight * (base - least)) (sum + value * weight) rest

theorem length_readNumber {bias place weight sum : Nat} {text : List Char} {read : Nat × List Char}
    (found : readNumber bias place weight sum text = some read) : read.2.length < text.length := by
  induction text generalizing place weight sum with
  | nil => simp [readNumber] at found
  | cons c rest ih =>
    simp only [readNumber] at found
    split at found
    · simp at found
    · split at found
      · simp only [Option.some.injEq] at found
        simp [← found]
      · exact Nat.lt_succ_of_lt (ih found)

/-- The greatest code point. -/
def lastCode : Nat := 0x10ffff

/-- Puts characters among those that are in place, as the numbers in the rest of a label tell: `code` is
the last one that was put there, and `index` the place behind it. -/
def insertFrom (present : List Nat) (code index bias : Nat) (isFirst : Bool) (text : List Char) :
    Option (List Nat) :=
  if text.isEmpty then some present
  else
    match found : readNumber bias base 1 0 text with
    | none => none
    | some read =>
      have := length_readNumber found
      let places := present.length + 1
      let passed := index + read.1
      let next := code + passed / places
      if lastCode < next then none
      else
        insertFrom (present.insertIdx (passed % places) next) next (passed % places + 1)
          (adapt read.1 places isFirst) false read.2
termination_by text.length

/-- The code points of a label that is written in ASCII. Some may be none of a character. -/
def decode (text : List Char) : Option (List Nat) :=
  let (further, basic) := match Text.cutAt '-' text.reverse with
    | (last, some first) => (last.reverse, first.reverse)
    | (_, none) => (text, [])
  insertFrom (basic.map Char.toNat) 0x80 0 72 true further

theorem digitValue?_digit {value : Nat} (small : value < base) : digitValue? (digit value) = some value := by
  have all : ∀ n : Fin 36, digitValue? (digit n.val) = some n.val := by decide
  exact all ⟨value, small⟩

theorem digit_isAlphanum {value : Nat} (small : value < base) : (digit value).isAlphanum = true := by
  have all : ∀ n : Fin 36, (digit n.val).isAlphanum = true := by decide
  exact all ⟨value, small⟩

/-- A number is written in letters and digits. -/
theorem number_isAlphanum (bias place value : Nat) :
    ∀ c ∈ number bias place value, c.isAlphanum = true := by
  fun_induction number bias place value with
  | case1 place value least small =>
    have bounds := threshold_bounds bias place
    intro c member
    rw [List.mem_singleton.1 member]
    exact digit_isAlphanum (by simp only [base]; omega)
  | case2 place value least large ih =>
    have bounds := threshold_bounds bias place
    intro c member
    rcases List.mem_cons.1 member with rfl | later
    · have : (value - least) % (base - least) < base - least :=
        Nat.mod_lt _ (by simp only [base]; omega)
      exact digit_isAlphanum (by omega)
    · exact ih c later

end Bookbinder.Web.Punycode
