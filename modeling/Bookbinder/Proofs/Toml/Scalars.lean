import Bookbinder.Toml.Scalar

/-!
Numbers, dates and times end where they end: what is read of one at the start of a text does not depend
on what stands behind the text, as long as that begins with a mark that no number, date or time goes on
with. Main statement: `readScalar_append`.
-/

set_option autoImplicit false

namespace Bookbinder.Toml

/-- What may stand right behind a value: nothing, the next line, or the next mark of a table that is
written on one line. -/
inductive Closes : List Char → Prop
  | nothing : Closes []
  | newline (more : List Char) : Closes ('\n' :: more)
  | comma (more : List Char) : Closes (',' :: more)
  | brace (more : List Char) : Closes ('}' :: more)

/-- What was read, with more text behind the rest. -/
def before {α : Type} (tail : List Char) (read : α × List Char) : α × List Char :=
  (read.1, read.2 ++ tail)

@[simp] theorem before_mk {α : Type} (tail rest : List Char) (value : α) :
    before tail (value, rest) = (value, rest ++ tail) := rfl

variable {tail : List Char}

/-- A test that tells digits from underscores and from what closes a value. -/
structure TellsDigits (digit : Char → Bool) : Prop where
  underscore : digit '_' = false
  newline : digit '\n' = false
  comma : digit ',' = false
  brace : digit '}' = false

theorem moreDigits_of_closes {digit : Char → Bool} (tells : TellsDigits digit) (closes : Closes tail) :
    moreDigits digit tail = ([], tail) := by
  cases closes with
  | nothing => rfl
  | newline => simp [moreDigits, tells.newline]
  | comma => simp [moreDigits, tells.comma]
  | brace => simp [moreDigits, tells.brace]

theorem moreDigits_append {digit : Char → Bool} (tells : TellsDigits digit) (closes : Closes tail)
    (text : List Char) : moreDigits digit (text ++ tail) = before tail (moreDigits digit text) := by
  fun_induction moreDigits digit text with
  | case1 c rest isDigit more after read ih => simp_all [moreDigits]
  | case2 c rest other => simp_all [moreDigits]
  | case3 c rest single isDigit more after read ih =>
    have plain : c ≠ '_' := by
      rintro rfl
      simp [tells.underscore] at isDigit
    simp_all [moreDigits]
  | case4 c rest single other =>
    by_cases plain : c = '_'
    · subst plain
      have alone : rest = [] := by
        cases rest with
        | nil => rfl
        | cons d rest => exact absurd rfl (single d rest rfl)
      subst alone
      cases closes with
      | nothing => simp [moreDigits, other]
      | newline => simp [moreDigits, tells.newline]
      | comma => simp [moreDigits, tells.comma]
      | brace => simp [moreDigits, tells.brace]
    · simp_all [moreDigits]
  | case5 => simp [moreDigits_of_closes tells closes, before]

theorem digitRow_append {digit : Char → Bool} (tells : TellsDigits digit) (closes : Closes tail)
    (text : List Char) : digitRow digit (text ++ tail) = (digitRow digit text).map (before tail) := by
  cases text with
  | nil =>
    cases closes with
    | nothing => rfl
    | newline => simp [digitRow, tells.newline]
    | comma => simp [digitRow, tells.comma]
    | brace => simp [digitRow, tells.brace]
  | cons c rest =>
    by_cases isDigit : digit c = true
    · simp [digitRow, isDigit, moreDigits_append tells closes, before]
    · simp [digitRow, isDigit]

theorem tellsDigits_isDigit : TellsDigits isDigit := by constructor <;> decide

theorem tellsDigits_isHexDigit : TellsDigits isHexDigit := by constructor <;> decide

theorem tellsDigits_binary : TellsDigits fun c => c == '0' || c == '1' := by constructor <;> decide

theorem tellsDigits_octal : TellsDigits fun c => decide ('0' ≤ c) && decide (c ≤ '7') := by
  constructor <;> decide

theorem basedInteger_append (closes : Closes tail) (text : List Char) :
    basedInteger (text ++ tail) = (basedInteger text).map (before tail) := by
  cases text with
  | nil => cases closes <;> rfl
  | cons c rest =>
    by_cases hexadecimal : c = 'x'
    · subst hexadecimal
      simp only [List.cons_append, basedInteger, digitRow_append tellsDigits_isHexDigit closes,
        Option.map_map]
      rfl
    by_cases binary : c = 'b'
    · subst binary
      simp only [List.cons_append, basedInteger, digitRow_append tellsDigits_binary closes,
        Option.map_map]
      rfl
    by_cases octal : c = 'o'
    · subst octal
      simp only [List.cons_append, basedInteger, digitRow_append tellsDigits_octal closes,
        Option.map_map]
      rfl
    simp [basedInteger, hexadecimal, binary, octal]

theorem readSign_append (closes : Closes tail) (text : List Char) :
    readSign (text ++ tail) = before tail (readSign text) := by
  cases text with
  | nil => cases closes <;> rfl
  | cons c rest =>
    by_cases plus : c = '+'
    · subst plus
      rfl
    by_cases minus : c = '-'
    · subst minus
      rfl
    simp [readSign, plus, minus]

theorem wholeDigits_append (closes : Closes tail) (text : List Char) :
    wholeDigits (text ++ tail) = (wholeDigits text).map (before tail) := by
  have row := digitRow_append tellsDigits_isDigit closes text
  cases text with
  | nil => cases closes <;> simpa [wholeDigits] using row
  | cons c rest =>
    by_cases zero : c = '0'
    · subst zero
      rfl
    · simpa [wholeDigits, zero] using row

theorem fractionRest_append (closes : Closes tail) (text : List Char) :
    fractionRest (text ++ tail) = fractionRest text ++ tail := by
  cases text with
  | nil => cases closes <;> rfl
  | cons c rest =>
    by_cases dot : c = '.'
    · subst dot
      simp only [List.cons_append, fractionRest, digitRow_append tellsDigits_isDigit closes]
      cases digitRow isDigit rest <;> simp [before]
    · simp [fractionRest, dot]

theorem exponentRest_append (closes : Closes tail) (text : List Char) :
    exponentRest (text ++ tail) = exponentRest text ++ tail := by
  cases text with
  | nil => cases closes <;> rfl
  | cons c rest =>
    by_cases mark : c = 'e' ∨ c = 'E'
    · simp only [List.cons_append, exponentRest, if_pos mark, readSign_append closes, before,
        digitRow_append tellsDigits_isDigit closes]
      cases digitRow isDigit (readSign rest).2 <;> simp [before]
    · simp [exponentRest, mark]

theorem writtenBefore_append (text rest tail : List Char) :
    writtenBefore (text ++ tail) (rest ++ tail) = writtenBefore text rest := by
  have count : (text ++ tail).length - (rest ++ tail).length = text.length - rest.length := by
    simp only [List.length_append]
    omega
  rw [writtenBefore, writtenBefore, count, List.take_append_of_le_length (Nat.sub_le _ _)]

theorem readDecimal_append (closes : Closes tail) (text : List Char) :
    readDecimal (text ++ tail) = (readDecimal text).map (before tail) := by
  simp only [readDecimal, readSign_append closes, before, wholeDigits_append closes]
  cases wholeDigits (readSign text).2 with
  | none => rfl
  | some whole =>
    have shorter : (exponentRest (fractionRest whole.2) ++ tail).length < (whole.2 ++ tail).length ↔
        (exponentRest (fractionRest whole.2)).length < whole.2.length := by
      simp
    simp only [Option.map_some, before, fractionRest_append closes, exponentRest_append closes,
      writtenBefore_append, shorter, bind, Option.bind]
    split
    · rfl
    · split <;> rfl

theorem readNumber_append (closes : Closes tail) (text : List Char) :
    readNumber (text ++ tail) = (readNumber text).map (before tail) := by
  have decimal := readDecimal_append closes text
  cases text with
  | nil => cases closes <;> simpa [readNumber] using decimal
  | cons c rest =>
    by_cases zero : c = '0'
    · subst zero
      simp only [List.cons_append] at decimal
      simp only [List.cons_append, readNumber, basedInteger_append closes]
      cases basedInteger rest with
      | none => simpa using decimal
      | some based => rfl
    · simpa [readNumber, zero] using decimal

theorem readPair_append (closes : Closes tail) (least greatest : Nat) (text : List Char) :
    readPair least greatest (text ++ tail) = (readPair least greatest text).map (before tail) := by
  match text with
  | [] =>
    cases closes with
    | nothing => rfl
    | newline more | comma more | brace more => cases more <;> rfl
  | [a] => cases closes <;> simp [readPair, isDigit]
  | a :: b :: rest =>
    simp only [List.cons_append, readPair]
    split <;> simp

theorem readMark_append {mark : Char} (closes : Closes tail) (plain : ¬ Closes [mark])
    (text : List Char) : readMark mark (text ++ tail) = (readMark mark text).map (· ++ tail) := by
  cases text with
  | nil =>
    cases closes with
    | nothing => rfl
    | newline more | comma more | brace more =>
      simp only [List.nil_append, readMark]
      split
      · next same =>
        subst same
        exact absurd (by constructor) plain
      · rfl
  | cons c rest =>
    simp only [List.cons_append, readMark]
    split <;> simp

theorem dropWhile_isDigit_append (closes : Closes tail) (text : List Char) :
    (text ++ tail).dropWhile isDigit = text.dropWhile isDigit ++ tail := by
  induction text with
  | nil => cases closes <;> rfl
  | cons c rest ih =>
    by_cases digit : isDigit c = true <;> simp [digit, ih]

theorem afterFraction_append (closes : Closes tail) (text : List Char) :
    afterFraction (text ++ tail) = afterFraction text ++ tail := by
  match text with
  | [] => cases closes <;> rfl
  | [c] =>
    by_cases dot : c = '.'
    · subst dot
      cases closes <;> rfl
    · simp [afterFraction, dot]
  | c :: d :: rest =>
    by_cases dot : c = '.'
    · subst dot
      simp only [List.cons_append, afterFraction, dropWhile_isDigit_append closes]
      split <;> rfl
    · simp [afterFraction, dot]

theorem afterTime_append (closes : Closes tail) (text : List Char) :
    afterTime (text ++ tail) = (afterTime text).map (· ++ tail) := by
  have colon := readMark_append closes (show ¬ Closes [':'] by rintro ⟨⟩)
  simp only [afterTime, readPair_append closes]
  cases readPair 0 23 text with
  | none => rfl
  | some hour =>
    simp only [Option.map_some, before, bind, Option.bind, colon]
    cases readMark ':' hour.2 with
    | none => rfl
    | some rest =>
      simp only [Option.map_some, readPair_append closes]
      cases readPair 0 59 rest with
      | none => rfl
      | some minute =>
        simp only [Option.map_some, before, colon]
        cases readMark ':' minute.2 with
        | none => rfl
        | some rest =>
          simp only [Option.map_some, readPair_append closes]
          cases readPair 0 59 rest with
          | none => rfl
          | some second => simp [before, afterFraction_append closes, pure]

theorem afterShift_append (closes : Closes tail) (text : List Char) :
    afterShift (text ++ tail) = (afterShift text).map (· ++ tail) := by
  have colon := readMark_append closes (show ¬ Closes [':'] by rintro ⟨⟩)
  simp only [afterShift, readPair_append closes]
  cases readPair 0 23 text with
  | none => rfl
  | some hour =>
    simp only [Option.map_some, before, bind, Option.bind, colon]
    cases readMark ':' hour.2 with
    | none => rfl
    | some rest =>
      simp only [Option.map_some, readPair_append closes]
      cases readPair 0 59 rest <;> rfl

theorem afterOffset_append (closes : Closes tail) (text : List Char) :
    afterOffset (text ++ tail) = afterOffset text ++ tail := by
  cases text with
  | nil => cases closes <;> rfl
  | cons c rest =>
    by_cases zulu : c = 'Z' ∨ c = 'z'
    · simp only [List.cons_append, afterOffset, if_pos zulu]
    by_cases sign : c = '+' ∨ c = '-'
    · simp only [List.cons_append, afterOffset, if_neg zulu, if_pos sign, afterShift_append closes]
      cases afterShift rest <;> rfl
    · simp only [List.cons_append, afterOffset, if_neg zulu, if_neg sign]

theorem readYear_append (closes : Closes tail) (text : List Char) :
    readYear (text ++ tail) = (readYear text).map (before tail) := by
  match text with
  | [] =>
    rcases closes with _ | more | more | more
    · rfl
    all_goals rcases more with _ | ⟨b, _ | ⟨c, _ | ⟨d, more⟩⟩⟩ <;> simp [readYear, isDigit]
  | [a] =>
    rcases closes with _ | more | more | more
    · rfl
    all_goals rcases more with _ | ⟨c, _ | ⟨d, more⟩⟩ <;> simp [readYear, isDigit]
  | [a, b] =>
    rcases closes with _ | more | more | more
    · rfl
    all_goals rcases more with _ | ⟨d, more⟩ <;> simp [readYear, isDigit]
  | [a, b, c] => cases closes <;> simp [readYear, isDigit]
  | a :: b :: c :: d :: rest =>
    simp only [List.cons_append, readYear]
    split <;> simp

theorem afterDay_append (closes : Closes tail) (text : List Char) :
    afterDay (text ++ tail) = afterDay text ++ tail := by
  cases text with
  | nil => cases closes <;> rfl
  | cons c rest =>
    by_cases mark : c = 'T' ∨ c = 't' ∨ c = ' '
    · simp only [List.cons_append, afterDay, if_pos mark, afterTime_append closes]
      cases afterTime rest <;> simp [afterOffset_append closes]
    · simp only [List.cons_append, afterDay, if_neg mark]

theorem readDate_append (closes : Closes tail) (text : List Char) :
    readDate (text ++ tail) = (readDate text).map (before tail) := by
  have hyphen := readMark_append closes (show ¬ Closes ['-'] by rintro ⟨⟩)
  simp only [readDate, readYear_append closes]
  cases readYear text with
  | none => rfl
  | some year =>
    simp only [Option.map_some, before, bind, Option.bind, hyphen]
    cases readMark '-' year.2 with
    | none => rfl
    | some rest =>
      simp only [Option.map_some, readPair_append closes]
      cases readPair 1 12 rest with
      | none => rfl
      | some month =>
        simp only [Option.map_some, before, hyphen]
        cases readMark '-' month.2 with
        | none => rfl
        | some rest =>
          simp only [Option.map_some, readPair_append closes]
          cases readPair 1 31 rest with
          | none => rfl
          | some day =>
            simp only [Option.map_some, before, afterDay_append closes, writtenBefore_append]
            split <;> rfl

theorem readTime_append (closes : Closes tail) (text : List Char) :
    readTime (text ++ tail) = (readTime text).map (before tail) := by
  simp only [readTime, afterTime_append closes]
  cases afterTime text with
  | none => rfl
  | some rest => simp [writtenBefore_append]

/-- A word without a closing mark stands at the start of a text just if it stands there with more
behind it. -/
theorem isPrefixOf_append (closes : Closes tail) (word text : List Char)
    (newline : '\n' ∉ word) (comma : ',' ∉ word) (brace : '}' ∉ word) :
    word.isPrefixOf (text ++ tail) = word.isPrefixOf text := by
  induction word generalizing text with
  | nil => rfl
  | cons first others ih =>
    simp only [List.mem_cons, not_or] at newline comma brace
    cases text with
    | nil =>
      cases closes with
      | nothing => rfl
      | newline => simp [List.isPrefixOf, Ne.symm newline.1]
      | comma => simp [List.isPrefixOf, Ne.symm comma.1]
      | brace => simp [List.isPrefixOf, Ne.symm brace.1]
    | cons c rest => simp [List.isPrefixOf, ih rest newline.2 comma.2 brace.2]

theorem drop_append_of_isPrefixOf {word text : List Char} (starts : word.isPrefixOf text = true)
    (tail : List Char) : (text ++ tail).drop word.length = text.drop word.length ++ tail := by
  obtain ⟨rest, rfl⟩ := List.isPrefixOf_iff_prefix.1 starts
  simp

theorem readSpecial_append (closes : Closes tail) (text : List Char) :
    readSpecial (text ++ tail) = (readSpecial text).map (before tail) := by
  simp only [readSpecial, readSign_append closes, before,
    isPrefixOf_append closes "inf".toList _ (by decide) (by decide) (by decide),
    isPrefixOf_append closes "nan".toList _ (by decide) (by decide) (by decide)]
  split
  · next word =>
    have dropped : ((readSign text).2 ++ tail).drop 3 = (readSign text).2.drop 3 ++ tail := by
      rcases Bool.or_eq_true_iff.1 word with starts | starts
      · exact drop_append_of_isPrefixOf starts tail
      · exact drop_append_of_isPrefixOf starts tail
    simp only [dropped, writtenBefore_append, Option.map_some, before]
  · rfl

theorem readScalar_append (closes : Closes tail) (text : List Char) :
    readScalar (text ++ tail) = (readScalar text).map (before tail) := by
  simp only [readScalar, readDate_append closes, readTime_append closes, readNumber_append closes,
    readSpecial_append closes, Option.map_or]

end Bookbinder.Toml
