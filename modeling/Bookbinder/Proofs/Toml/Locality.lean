import Bookbinder.Proofs.Attempts
import Bookbinder.Proofs.Toml.Entries
import Bookbinder.Proofs.Toml.Scalars

/-!
Readers of keys and values stop where their part of the text ends. What a reader takes from the front of
a text it takes from the text with more behind it, and with a larger budget. A key has to be followed by
something within the text; a value may also reach up to the end of it, if what comes next closes it.
Main statements: `readKey_append` and `carries_readValue`.
-/

set_option autoImplicit false

namespace Bookbinder.Toml

variable {α : Type} {text tail rest : List Char}

theorem skipBlanks_append (visible : skipBlanks text ≠ []) (tail : List Char) :
    skipBlanks (text ++ tail) = skipBlanks text ++ tail := by
  have someLeft : (text.dropWhile isBlank).isEmpty = false := by
    simpa [skipBlanks] using visible
  simp [skipBlanks, List.dropWhile_append, someLeft]

theorem skipBlanks_of_closes (closes : Closes tail) : skipBlanks tail = tail := by
  cases closes <;> rfl

theorem skipBlanks_append_of_closes (closes : Closes tail) (text : List Char) :
    skipBlanks (text ++ tail) = skipBlanks text ++ tail := by
  by_cases visible : skipBlanks text = []
  · have nothingLeft : text.dropWhile isBlank = [] := visible
    have stays : tail.dropWhile isBlank = tail := skipBlanks_of_closes closes
    simp [skipBlanks, List.dropWhile_append, nothingLeft, stays]
  · exact skipBlanks_append visible tail

/-- The same place of a reader in a text with more behind it. -/
def QuotePlace.before (tail : List Char) : QuotePlace → QuotePlace
  | .hex digits value start => .hex digits value (start ++ tail)
  | place => place

theorem readBasicFrom_append {multiline : Bool} (closes : multiline = true → Closes tail)
    {place : QuotePlace} {sofar inside : List Char}
    (read : readBasicFrom multiline place sofar text = .ok (inside, rest)) :
    readBasicFrom multiline (place.before tail) sofar (text ++ tail) = .ok (inside, rest ++ tail) := by
  fun_induction readBasicFrom multiline place sofar text with
  | case4 trim sofar more marks single passed ih =>
    -- what closes the text is no mark, so still no three marks stand here
    have other : ∀ after, more ++ tail = '"' :: '"' :: after → False := by
      have closes := closes marks
      intro after same
      match more with
      | [] => cases closes <;> cases same
      | [a] =>
        obtain ⟨-, starts⟩ : a = '"' ∧ tail = '"' :: after := by simpa using same
        rw [starts] at closes
        cases closes
      | a :: b :: more =>
        obtain ⟨rfl, rfl, -⟩ : a = '"' ∧ b = '"' ∧ more ++ tail = after := by simpa using same
        exact single more rfl
    have read := ih read
    simp only [QuotePlace.before] at read ⊢
    rw [List.cons_append, readBasicFrom, if_neg passed, if_pos rfl, if_pos marks]
    · exact read
    · exact other
  | case14 sofar c more blank newline short long meant stands ih =>
    have read := ih read
    simp only [QuotePlace.before] at read ⊢
    simp only [List.cons_append, readBasicFrom, if_neg blank, if_neg newline, if_neg short,
      if_neg long, stands, read]
  | case24 digits value start sofar c more digit stands many ih =>
    have read := ih read
    simp only [QuotePlace.before] at read ⊢
    simp only [List.cons_append, readBasicFrom, stands, if_neg many, read]
  | _ => simp_all [readBasicFrom, QuotePlace.before]

theorem readBasic_append {multiline : Bool} (closes : multiline = true → Closes tail)
    {inside : List Char} (read : readBasic multiline text = .ok (inside, rest)) :
    readBasic multiline (text ++ tail) = .ok (inside, rest ++ tail) :=
  readBasicFrom_append closes read

theorem length_le_of_cutAtText {needle inside : List Char}
    (found : Text.cutAtText needle text = some (inside, rest)) : needle.length ≤ text.length := by
  induction text generalizing inside rest with
  | nil =>
    cases needle with
    | nil => exact Nat.le_refl _
    | cons first others => simp [Text.cutAtText] at found
  | cons c more ih =>
    by_cases here : needle.isPrefixOf (c :: more) = true
    · exact (List.isPrefixOf_iff_prefix.1 here).length_le
    · rw [Text.cutAtText, if_neg here] at found
      obtain ⟨⟨inside, rest⟩, later, _⟩ := Option.map_eq_some_iff.1 found
      exact Nat.le_succ_of_le (by simpa using ih later)

/-- The first place where a text stands within another stays the first with more behind. -/
theorem cutAtText_append {needle inside : List Char} (tail : List Char)
    (found : Text.cutAtText needle text = some (inside, rest)) :
    Text.cutAtText needle (text ++ tail) = some (inside, rest ++ tail) := by
  induction text generalizing inside rest with
  | nil =>
    cases needle with
    | nil =>
      obtain ⟨rfl, rfl⟩ : inside = [] ∧ rest = [] := by simpa [Text.cutAtText, eq_comm] using found
      cases tail <;> simp [Text.cutAtText]
    | cons first others => simp [Text.cutAtText] at found
  | cons c more ih =>
    by_cases here : needle.isPrefixOf (c :: more) = true
    · have still : needle.isPrefixOf (c :: (more ++ tail)) = true :=
        List.isPrefixOf_iff_prefix.2 ((List.isPrefixOf_iff_prefix.1 here).trans (List.prefix_append _ _))
      rw [Text.cutAtText, if_pos here] at found
      cases found
      rw [List.cons_append, Text.cutAtText, if_pos still, ← List.cons_append,
        drop_append_of_isPrefixOf here]
    · rw [Text.cutAtText, if_neg here] at found
      obtain ⟨⟨inside, rest⟩, later, same⟩ := Option.map_eq_some_iff.1 found
      cases same
      have absent : ¬ needle.isPrefixOf (c :: (more ++ tail)) = true := by
        intro starts
        have short : needle.length ≤ (c :: more).length :=
          Nat.le_succ_of_le (length_le_of_cutAtText later)
        exact here (List.isPrefixOf_iff_prefix.2
          (List.prefix_of_prefix_length_le (List.isPrefixOf_iff_prefix.1 starts)
            (List.prefix_append (c :: more) tail) short))
      rw [List.cons_append, Text.cutAtText, if_neg absent, ih later]
      rfl

theorem readUntil_append {multiline : Bool} {delimiter : String} {inside : List Char}
    (tail : List Char) (read : readUntil multiline delimiter text = .ok (inside, rest)) :
    readUntil multiline delimiter (text ++ tail) = .ok (inside, rest ++ tail) := by
  unfold readUntil at read ⊢
  cases found : Text.cutAtText delimiter.toList text with
  | none => simp [found] at read
  | some cut =>
    rw [cutAtText_append tail found]
    simp only [found] at read ⊢
    split at read
    · cases read
      rfl
    · cases read

theorem readOneLine_append {mark : Char} {inside : List Char} (tail : List Char)
    (read : readOneLine mark text = .ok (inside, rest)) :
    readOneLine mark (text ++ tail) = .ok (inside, rest ++ tail) := by
  unfold readOneLine at read ⊢
  split at read
  · next quote =>
    rw [if_pos quote]
    exact readBasic_append (by simp) read
  · next quote =>
    rw [if_neg quote]
    exact readUntil_append tail read

theorem readKeyPart_append {part : String} {next : Char} (tail : List Char)
    (read : readKeyPart text = .ok (part, next :: rest)) :
    readKeyPart (text ++ tail) = .ok (part, next :: rest ++ tail) := by
  cases text with
  | nil => cases read
  | cons c more =>
    simp only [List.cons_append, readKeyPart] at read ⊢
    by_cases bare : isBareKeyChar c = true
    · simp only [if_pos bare, Except.ok.injEq, Prod.mk.injEq] at read ⊢
      obtain ⟨same, left⟩ := read
      have short : ((c :: more).takeWhile isBareKeyChar).length < (c :: more).length := by
        have size := congrArg List.length left
        simp only [List.length_drop, List.length_cons] at size ⊢
        omega
      have word : (c :: (more ++ tail)).takeWhile isBareKeyChar =
          (c :: more).takeWhile isBareKeyChar := by
        rw [← List.cons_append, List.takeWhile_append, if_neg (Nat.ne_of_lt short)]
      rw [word, ← List.cons_append, List.drop_append_of_le_length (Nat.le_of_lt short), left]
      exact ⟨same, rfl⟩
    · simp only [if_neg bare] at read ⊢
      by_cases quote : c = '"' ∨ c = '\''
      · simp only [if_pos quote] at read ⊢
        obtain ⟨⟨inside, left⟩, quoted, same⟩ := map_eq_ok_iff.1 read
        cases same
        rw [readOneLine_append tail quoted]
        rfl
      · simp [if_neg quote, stopAt] at read

theorem ne_nil_of_readKeyFrom {budget : Nat} {key : Key} (read : readKeyFrom budget text = .ok (key, rest)) :
    text ≠ [] := by
  rintro rfl
  cases budget <;> cases read

/-- The parts of a key are looked for up to its end, so a larger budget changes nothing. -/
theorem readKeyFrom_append {budget more : Nat} {key : Key} {next : Char} (enough : budget ≤ more)
    (tail : List Char) (read : readKeyFrom budget text = .ok (key, next :: rest)) :
    readKeyFrom more (text ++ tail) = .ok (key, next :: rest ++ tail) := by
  induction budget generalizing more text key with
  | zero => cases read
  | succ budget ih =>
    obtain ⟨more, rfl⟩ := Nat.exists_eq_add_one.2 (Nat.lt_of_lt_of_le (Nat.zero_lt_succ _) enough)
    simp only [readKeyFrom] at read ⊢
    obtain ⟨⟨part, left⟩, first, read⟩ := bind_eq_ok_iff.1 read
    have onward : left ≠ [] ∧ skipBlanks left ≠ [] := by
      constructor
      · rintro rfl
        cases read
      · intro none
        simp [none, pure, Except.pure] at read
    obtain ⟨c, behind, rfl⟩ := List.exists_cons_of_ne_nil onward.1
    simp only [readKeyPart_append tail first, bind_ok, skipBlanks_append onward.2]
    split at read
    · next after dot =>
      obtain ⟨⟨parts, last⟩, others, same⟩ := bind_eq_ok_iff.1 read
      cases same
      simp only [dot, List.cons_append, skipBlanks_append (ne_nil_of_readKeyFrom others)]
      have others := ih (Nat.le_of_succ_le_succ enough) others
      rw [List.cons_append] at others
      simp only [others, bind_ok]
      rfl
    · next last plain =>
      obtain ⟨rfl, shown⟩ : [part] = key ∧ skipBlanks (c :: behind) = next :: rest := by
        simpa [pure, Except.pure] using read
      rw [shown] at plain ⊢
      rw [List.cons_append]
      split
      · next same =>
        cases same
        exact absurd rfl (plain _)
      · rfl

theorem readKey_append {key : Key} {next : Char} (tail : List Char)
    (read : readKey text = .ok (key, next :: rest)) :
    readKey (text ++ tail) = .ok (key, next :: rest ++ tail) :=
  readKeyFrom_append (by simp) tail read

/-- Whatever `read` takes from the front of a text, `reread` takes from it with more behind, if what
comes next closes it. -/
def Carries (read reread : List Char → Except Stop (α × List Char)) : Prop :=
  ∀ {text tail rest : List Char} {value : α}, Closes tail → read text = .ok (value, rest) →
    reread (text ++ tail) = .ok (value, rest ++ tail)

theorem ne_of_closes {mark c : Char} {more : List Char} (plain : ¬ Closes [mark])
    (closes : Closes (c :: more)) : c ≠ mark := by
  rintro rfl
  exact plain (by cases closes <;> constructor)

theorem takeExtraMarks_append {mark : Char} (plain : ¬ Closes [mark]) (closes : Closes tail)
    (inside rest : List Char) :
    takeExtraMarks mark (inside, rest ++ tail) = before tail (takeExtraMarks mark (inside, rest)) := by
  match rest with
  | [] =>
    cases tail with
    | nil => rfl
    | cons c more => cases more <;> simp [takeExtraMarks, ne_of_closes plain closes]
  | [c] =>
    cases tail with
    | nil => simp [before]
    | cons d more => by_cases same : c = mark <;> simp [takeExtraMarks, same, ne_of_closes plain closes]
  | c :: d :: rest =>
    by_cases same : c = mark
    · by_cases twice : d = mark <;> simp [takeExtraMarks, same, twice]
    · simp [takeExtraMarks, same]

theorem dropFirstNewline_append (some : text ≠ []) (tail : List Char) :
    dropFirstNewline (text ++ tail) = dropFirstNewline text ++ tail := by
  obtain ⟨c, more, rfl⟩ := List.exists_cons_of_ne_nil some
  by_cases newline : c = '\n'
  · subst newline
    rfl
  · simp [dropFirstNewline, newline]

theorem ne_nil_of_readBasic {multiline : Bool} {inside : List Char}
    (read : readBasic multiline (dropFirstNewline text) = .ok (inside, rest)) : text ≠ [] := by
  rintro rfl
  cases read

theorem ne_nil_of_readUntil {inside : List Char}
    (read : readUntil true "'''" (dropFirstNewline text) = .ok (inside, rest)) : text ≠ [] := by
  rintro rfl
  cases read

theorem carries_readQuoted {mark : Char} (quote : mark = '"' ∨ mark = '\'') :
    Carries (readQuoted mark) (readQuoted mark) := by
  have plain : ¬ Closes [mark] := by
    rcases quote with rfl | rfl <;> rintro ⟨⟩
  intro text tail rest inside closes read
  match text with
  | [] => rcases quote with rfl | rfl <;> cases read
  | [a] =>
    -- the one mark closes the string, and what closes the text is no further mark
    have single : readQuoted mark ([a] ++ tail) = readOneLine mark ([a] ++ tail) := by
      cases tail with
      | nil => rfl
      | cons c more => simp [readQuoted, ne_of_closes plain closes]
    rw [single]
    exact readOneLine_append tail read
  | a :: b :: text =>
    simp only [readQuoted, List.cons_append] at read ⊢
    by_cases three : a = mark ∧ b = mark
    · simp only [if_pos three] at read ⊢
      by_cases basic : mark = '"'
      · simp only [if_pos basic] at read ⊢
        obtain ⟨⟨inside, left⟩, read, same⟩ := map_eq_ok_iff.1 read
        rw [dropFirstNewline_append (ne_nil_of_readBasic read), readBasic_append (fun _ => closes) read]
        simp only [Except.map, takeExtraMarks_append plain closes, same, before]
      · simp only [if_neg basic] at read ⊢
        obtain ⟨⟨inside, left⟩, read, same⟩ := map_eq_ok_iff.1 read
        rw [dropFirstNewline_append (ne_nil_of_readUntil read), readUntil_append tail read]
        simp only [Except.map, takeExtraMarks_append plain closes, same, before]
    · simp only [if_neg three] at read ⊢
      exact readOneLine_append tail read

theorem carries_readPairWith {read reread : List Char → Except Stop (Value × List Char)}
    (carries : Carries read reread) : Carries (readPairWith read) (readPairWith reread) := by
  intro text tail rest pair closes done
  simp only [readPairWith] at done ⊢
  obtain ⟨⟨key, left⟩, keyRead, done⟩ := bind_eq_ok_iff.1 done
  simp only at done
  split at done
  · next after =>
    obtain ⟨⟨value, last⟩, valueRead, same⟩ := bind_eq_ok_iff.1 done
    cases same
    have keyRead := readKey_append tail keyRead
    rw [List.cons_append] at keyRead
    simp only [keyRead, bind_ok, skipBlanks_append_of_closes closes, carries closes valueRead]
    rfl
  · cases done

theorem skipBetweenItems_append {inComment : Bool} {c : Char} (tail : List Char)
    (skipped : skipBetweenItems inComment text = .ok (c :: rest)) :
    skipBetweenItems inComment (text ++ tail) = .ok (c :: rest ++ tail) := by
  fun_induction skipBetweenItems inComment text with
  | case1 => cases skipped
  | _ => simp_all [skipBetweenItems, stopAt]

theorem carries_readScalarValue : Carries readScalarValue readScalarValue := by
  intro text tail rest value closes read
  unfold readScalarValue at read ⊢
  rw [readScalar_append closes]
  cases found : readScalar text with
  | none => simp [found, stopAt] at read
  | some result =>
    obtain ⟨given, left⟩ := result
    cases given with
    | error fault => simp [found, stopAt] at read
    | ok scalar =>
      rw [found] at read
      cases read
      rfl

theorem ne_nil_of_readValue {budget : Nat} {value : Value}
    (read : readValue budget text = .ok (value, rest)) : text ≠ [] := by
  rintro rfl
  cases budget <;> cases read

theorem ne_nil_of_readItems {budget : Nat} {items : List Value}
    (read : readItems budget text = .ok (items, rest)) : text ≠ [] := by
  rintro rfl
  cases budget with
  | zero => cases read
  | succ budget =>
    simp only [readItems] at read
    obtain ⟨⟨item, left⟩, first, -⟩ := bind_eq_ok_iff.1 read
    exact ne_nil_of_readValue first rfl

theorem ne_nil_of_readEntries {budget : Nat} {frozen : List Key} {table result : Table}
    (read : readEntries budget frozen table text = .ok (result, rest)) : text ≠ [] := by
  rintro rfl
  cases budget with
  | zero => cases read
  | succ budget =>
    simp only [readEntries] at read
    obtain ⟨pair, first, -⟩ := bind_eq_ok_iff.1 read
    cases first

theorem carries_readItems_succ {budget more : Nat} (value : Carries (readValue budget) (readValue more))
    (items : Carries (readItems budget) (readItems more)) :
    Carries (readItems (budget + 1)) (readItems (more + 1)) := by
  intro text tail rest given closes read
  obtain ⟨c, text, rfl⟩ := List.exists_cons_of_ne_nil (ne_nil_of_readItems read)
  by_cases ended : c = ']'
  · subst ended
    simp only [List.cons_append, readItems] at read ⊢
    cases read
    rfl
  have opened (others : List Char) (left : List Char) : c :: others ≠ ']' :: left := by
    simp [ended]
  rw [readItems] at read
  · rw [List.cons_append, readItems]
    · obtain ⟨⟨item, left⟩, first, read⟩ := bind_eq_ok_iff.1 read
      have first := value closes first
      rw [List.cons_append] at first
      simp only [first, bind_ok] at read ⊢
      obtain ⟨marked, skipped, read⟩ := bind_eq_ok_iff.1 read
      split at read
      · next after =>
        cases read
        rw [skipBetweenItems_append tail skipped]
        rfl
      · next after =>
        rw [skipBetweenItems_append tail skipped]
        obtain ⟨next, passed, read⟩ := bind_eq_ok_iff.1 read
        obtain ⟨⟨others, last⟩, later, same⟩ := bind_eq_ok_iff.1 read
        cases same
        obtain ⟨d, onward, rfl⟩ := List.exists_cons_of_ne_nil (ne_nil_of_readItems later)
        have later := items closes later
        rw [List.cons_append] at later
        simp only [List.cons_append, bind_ok, skipBetweenItems_append tail passed, later]
        rfl
      · cases read
    · exact opened _
  · exact opened _

theorem carries_readEntries_succ {budget more : Nat}
    (value : Carries (readValue budget) (readValue more))
    (entries : ∀ frozen table, Carries (readEntries budget frozen table) (readEntries more frozen table))
    (frozen : List Key) (table : Table) :
    Carries (readEntries (budget + 1) frozen table) (readEntries (more + 1) frozen table) := by
  intro text tail rest given closes read
  simp only [readEntries] at read ⊢
  obtain ⟨⟨⟨key, entry⟩, left⟩, first, read⟩ := bind_eq_ok_iff.1 read
  simp only [carries_readPairWith value closes first, bind_ok] at read ⊢
  obtain ⟨changed, added, read⟩ := bind_eq_ok_iff.1 read
  have added : addInline frozen key entry table = .ok changed := by
    cases adding : addInline frozen key entry table with
    | error fault => simp [adding, atPlace, stopAt] at added
    | ok result => simpa [adding, atPlace] using added
  simp only [added, atPlace, bind_ok, skipBlanks_append_of_closes closes]
  split at read
  · next after shown =>
    cases read
    rw [shown]
    rfl
  · next after shown =>
    rw [shown]
    simp only [List.cons_append, skipBlanks_append_of_closes closes]
    exact entries _ _ closes read
  · cases read

theorem carries_readValue_succ {budget more : Nat} (items : Carries (readItems budget) (readItems more))
    (entries : ∀ frozen table, Carries (readEntries budget frozen table) (readEntries more frozen table)) :
    Carries (readValue (budget + 1)) (readValue (more + 1)) := by
  intro text tail rest given closes read
  obtain ⟨c, text, rfl⟩ := List.exists_cons_of_ne_nil (ne_nil_of_readValue read)
  have word (letters : List Char) (newline : '\n' ∉ letters) (comma : ',' ∉ letters) (brace : '}' ∉ letters) :
      letters.isPrefixOf (c :: (text ++ tail)) = letters.isPrefixOf (c :: text) :=
    isPrefixOf_append closes letters (c :: text) newline comma brace
  simp only [List.cons_append, readValue] at read ⊢
  by_cases quote : c = '"' ∨ c = '\''
  · simp only [if_pos quote] at read ⊢
    obtain ⟨⟨inside, left⟩, quoted, same⟩ := map_eq_ok_iff.1 read
    cases same
    rw [carries_readQuoted quote closes quoted]
    rfl
  simp only [if_neg quote, word "true".toList (by decide) (by decide) (by decide),
    word "false".toList (by decide) (by decide) (by decide)] at read ⊢
  by_cases yes : "true".toList.isPrefixOf (c :: text) = true
  · simp only [if_pos yes] at read ⊢
    cases read
    have dropped := drop_append_of_isPrefixOf yes tail
    rw [List.cons_append] at dropped
    exact congrArg (fun left => Except.ok (_, left)) dropped
  simp only [if_neg yes] at read ⊢
  by_cases no : "false".toList.isPrefixOf (c :: text) = true
  · simp only [if_pos no] at read ⊢
    cases read
    have dropped := drop_append_of_isPrefixOf no tail
    rw [List.cons_append] at dropped
    exact congrArg (fun left => Except.ok (_, left)) dropped
  simp only [if_neg no] at read ⊢
  by_cases array : c = '['
  · simp only [if_pos array] at read ⊢
    obtain ⟨inside, skipped, read⟩ := bind_eq_ok_iff.1 read
    obtain ⟨⟨found, last⟩, filled, same⟩ := bind_eq_ok_iff.1 read
    cases same
    obtain ⟨d, onward, rfl⟩ := List.exists_cons_of_ne_nil (ne_nil_of_readItems filled)
    simp only [skipBetweenItems_append tail skipped, bind_ok, items closes filled]
    rfl
  simp only [if_neg array] at read ⊢
  by_cases table : c = '{'
  · simp only [if_pos table, skipBlanks_append_of_closes closes] at read ⊢
    split at read
    · next after shown =>
      cases read
      rw [shown]
      rfl
    · next inside opened =>
      obtain ⟨⟨found, last⟩, filled, same⟩ := bind_eq_ok_iff.1 read
      cases same
      have carried := entries [] [] closes filled
      obtain ⟨d, onward, shown⟩ := List.exists_cons_of_ne_nil (ne_nil_of_readEntries filled)
      rw [shown] at carried opened ⊢
      split
      · next same =>
        cases same
        exact absurd rfl (opened onward)
      · simp only [carried, bind_ok]
        rfl
  · simp only [if_neg table] at read ⊢
    exact carries_readScalarValue closes read

/-- What is read of a value is read with more behind it, and with any larger budget. -/
theorem carries_readers {budget more : Nat} (enough : budget ≤ more) :
    Carries (readValue budget) (readValue more) ∧ Carries (readItems budget) (readItems more) ∧
      ∀ frozen table, Carries (readEntries budget frozen table) (readEntries more frozen table) := by
  induction budget generalizing more with
  | zero =>
    refine ⟨?_, ?_, fun frozen table => ?_⟩ <;> intro text tail rest given closes read <;> cases read
  | succ budget ih =>
    obtain ⟨more, rfl⟩ := Nat.exists_eq_add_one.2 (Nat.lt_of_lt_of_le (Nat.zero_lt_succ _) enough)
    obtain ⟨value, items, entries⟩ := ih (Nat.le_of_succ_le_succ enough)
    exact ⟨carries_readValue_succ items entries, carries_readItems_succ value items,
      carries_readEntries_succ value entries⟩

theorem carries_readValue {budget more : Nat} (enough : budget ≤ more) :
    Carries (readValue budget) (readValue more) := (carries_readers enough).1

end Bookbinder.Toml
