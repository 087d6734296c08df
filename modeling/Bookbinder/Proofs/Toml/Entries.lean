import Bookbinder.Settings

/-!
Written lines of a configuration text, read again. A reader is followed from what is written of a
string to a list of them, to a whole line, and to the statement that the line is. Main statements: a
line that gives a key a text or a list of texts enters just that under the key, and the reader goes on
after the line.
-/

set_option autoImplicit false

namespace Bookbinder.Toml

/-- No written character looks like the end of its string. -/
theorem writeChar_starts (c : Char) : ∃ first more, writeChar c = first :: more ∧ first ≠ '"' := by
  unfold writeChar
  by_cases quote : c = '"'
  · exact ⟨'\\', ['"'], by simp [quote], by decide⟩
  repeat' split
  all_goals first
    | exact ⟨_, _, rfl, by decide⟩
    | exact ⟨_, _, rfl, quote⟩

theorem readQuoted_writeBasic (text rest : List Char) (ended : rest.head? ≠ some '"') :
    readQuoted '"' ((writeBasic text).tail ++ rest) = .ok (text, rest) := by
  have single : readOneLine '"' ((writeBasic text).tail ++ rest) = .ok (text, rest) := by
    simpa [readOneLine] using readBasic_writeBasic text rest
  cases text with
  | nil =>
    cases rest with
    | nil => exact single
    | cons next more =>
      have different : next ≠ '"' := by simpa using ended
      simpa [readQuoted, writeBasic, different] using single
  | cons c others =>
    obtain ⟨first, more, starts, different⟩ := writeChar_starts c
    have shape : ∃ second after, (writeBasic (c :: others)).tail ++ rest = first :: second :: after := by
      simp only [writeBasic, List.flatMap_cons, starts, List.cons_append, List.tail_cons]
      cases more with
      | cons second more => exact ⟨_, _, rfl⟩
      | nil =>
        cases others.flatMap writeChar with
        | cons second more => exact ⟨_, _, rfl⟩
        | nil => exact ⟨_, _, rfl⟩
    obtain ⟨second, after, shape⟩ := shape
    rw [shape] at single ⊢
    simpa [readQuoted, different] using single

theorem readValue_writeBasic (budget : Nat) (text rest : List Char) (ended : rest.head? ≠ some '"') :
    readValue (budget + 1) (writeBasic text ++ rest) = .ok (.text (String.ofList text), rest) := by
  have read := readQuoted_writeBasic text rest ended
  simp only [writeBasic, List.cons_append, List.tail_cons] at read ⊢
  simp only [readValue, true_or, if_true, read, Except.map]

theorem readItems_last {budget : Nat} {c : Char} {text rest after : List Char} {item : Value}
    (open_ : c ≠ ']') (read : readValue budget (c :: text) = .ok (item, rest))
    (skipped : skipBetweenItems false rest = .ok (']' :: after)) :
    readItems (budget + 1) (c :: text) = .ok ([item], after) := by
  rw [readItems]
  · simp [read, skipped, bind, Except.bind, pure, Except.pure]
  · intro rest' same
    simp_all

theorem readItems_more {budget : Nat} {c : Char} {text rest between next after : List Char}
    {item : Value} {items : List Value}
    (open_ : c ≠ ']') (read : readValue budget (c :: text) = .ok (item, rest))
    (skipped : skipBetweenItems false rest = .ok (',' :: between))
    (passed : skipBetweenItems false between = .ok next)
    (others : readItems budget next = .ok (items, after)) :
    readItems (budget + 1) (c :: text) = .ok (item :: items, after) := by
  rw [readItems]
  · simp [read, skipped, passed, others, bind, Except.bind, pure, Except.pure]
  · intro rest' same
    simp_all

/-- Texts as the items of an array, up to its end. -/
def writeItems (values : List String) : List Char :=
  Text.joinWith ", ".toList (values.map Settings.writeText) ++ [']']

theorem writeItems_single (value : String) (rest : List Char) :
    writeItems [value] ++ rest = writeBasic value.toList ++ ']' :: rest := by
  simp [writeItems, Text.joinWith, Settings.writeText]

theorem writeItems_cons_cons (first second : String) (others : List String) (rest : List Char) :
    writeItems (first :: second :: others) ++ rest =
      writeBasic first.toList ++ ',' :: ' ' :: (writeItems (second :: others) ++ rest) := by
  simp [writeItems, Text.joinWith, Settings.writeText]

theorem writeItems_starts (first : String) (others : List String) (rest : List Char) :
    ∃ more, writeItems (first :: others) ++ rest = '"' :: more := by
  cases others with
  | nil => exact ⟨_, writeItems_single first rest⟩
  | cons second others => exact ⟨_, writeItems_cons_cons first second others rest⟩

theorem length_le_writeItems (values : List String) : values.length ≤ (writeItems values).length := by
  induction values with
  | nil => exact Nat.zero_le _
  | cons first others ih =>
    cases others with
    | nil => simp [writeItems]
    | cons second others =>
      have shape := congrArg List.length (writeItems_cons_cons first second others [])
      simp only [List.append_nil, List.length_append, List.length_cons] at shape ih ⊢
      omega

theorem skipBetweenItems_mark {c : Char} (rest : List Char) (visible : isBlankOrNewline c = false)
    (open_ : c ≠ '#') : skipBetweenItems false (c :: rest) = .ok (c :: rest) := by
  simp [skipBetweenItems, visible, open_]

theorem skipBetweenItems_space (rest : List Char) :
    skipBetweenItems false (' ' :: rest) = skipBetweenItems false rest := by
  simp [skipBetweenItems, isBlankOrNewline, isBlank]

/-- Each item takes one step, so the budget has to exceed their number. -/
theorem readItems_writeItems (budget : Nat) (values : List String) (rest : List Char)
    (enough : values.length < budget) :
    readItems budget (writeItems values ++ rest) = .ok (values.map .text, rest) := by
  induction values generalizing budget with
  | nil =>
    obtain ⟨budget, rfl⟩ := Nat.exists_eq_add_one.2 enough
    rfl
  | cons first others ih =>
    obtain ⟨budget, rfl⟩ := Nat.exists_eq_add_one.2 (Nat.lt_of_le_of_lt (Nat.zero_le _) enough)
    simp only [List.length_cons, Nat.add_lt_add_iff_right] at enough
    obtain ⟨spare, rfl⟩ := Nat.exists_eq_add_one.2 (Nat.lt_of_le_of_lt (Nat.zero_le _) enough)
    cases others with
    | nil =>
      have read := readValue_writeBasic spare first.toList (']' :: rest) (by simp)
      rw [String.ofList_toList] at read
      rw [writeItems_single]
      exact readItems_last (by decide) read (skipBetweenItems_mark rest (by decide) (by decide))
    | cons second others =>
      have read := readValue_writeBasic spare first.toList
        (',' :: ' ' :: (writeItems (second :: others) ++ rest)) (by simp)
      rw [String.ofList_toList] at read
      obtain ⟨more, starts⟩ := writeItems_starts second others rest
      rw [writeItems_cons_cons]
      refine readItems_more (by decide) read (skipBetweenItems_mark _ (by decide) (by decide)) ?_
        (ih (spare + 1) enough)
      rw [skipBetweenItems_space, starts]
      exact skipBetweenItems_mark more (by decide) (by decide)

theorem writeTexts_eq (values : List String) : Settings.writeTexts values = '[' :: writeItems values :=
  rfl

theorem readValue_writeTexts (budget : Nat) (values : List String) (rest : List Char)
    (enough : values.length < budget) :
    readValue (budget + 1) (Settings.writeTexts values ++ rest) =
      .ok (.array (values.map .text), rest) := by
  have items := readItems_writeItems budget values rest enough
  have skipped : skipBetweenItems false (writeItems values ++ rest) = .ok (writeItems values ++ rest) := by
    cases values with
    | nil => exact skipBetweenItems_mark rest (by decide) (by decide)
    | cons first others =>
      obtain ⟨more, starts⟩ := writeItems_starts first others rest
      rw [starts]
      exact skipBetweenItems_mark more (by decide) (by decide)
  rw [writeTexts_eq, List.cons_append, readValue]
  simp [skipped, items, bind, Except.bind, pure, Except.pure]

theorem skipBlanks_of_visible {c : Char} (rest : List Char) (visible : isBlank c = false) :
    skipBlanks (c :: rest) = c :: rest := by
  simp [skipBlanks, visible]

theorem skipBlanks_space (rest : List Char) : skipBlanks (' ' :: rest) = skipBlanks rest := by
  simp [skipBlanks, isBlank]

/-- A key that may stand without quotation marks. -/
def isBareKey (key : String) : Bool := !key.toList.isEmpty && key.toList.all isBareKeyChar

theorem readKeyPart_bare {key : String} {next : Char} (rest : List Char) (bare : isBareKey key = true)
    (ends : isBareKeyChar next = false) :
    readKeyPart (key.toList ++ next :: rest) = .ok (key, next :: rest) := by
  obtain ⟨some, all⟩ : key.toList ≠ [] ∧ ∀ c ∈ key.toList, isBareKeyChar c = true := by
    simpa [isBareKey] using bare
  have before : (key.toList ++ next :: rest).takeWhile isBareKeyChar = key.toList := by
    rw [List.takeWhile_append_of_pos all]
    simp [ends]
  cases chars : key.toList with
  | nil => exact absurd chars some
  | cons c others =>
    have first : isBareKeyChar c = true := all c (by simp [chars])
    have back : String.ofList (c :: others) = key := by rw [← chars, String.ofList_toList]
    rw [chars, List.cons_append] at before
    simp only [List.cons_append, readKeyPart, first, if_true, before, back]
    simp

theorem readKey_bare {key : String} {next : Char} (rest : List Char) (bare : isBareKey key = true)
    (ends : isBareKeyChar next = false) (single : (skipBlanks (next :: rest)).head? ≠ some '.') :
    readKey (key.toList ++ next :: rest) = .ok ([key], skipBlanks (next :: rest)) := by
  have part := readKeyPart_bare rest bare ends
  simp only [readKey, readKeyFrom, part, bind, Except.bind, pure, Except.pure]
  split
  · simp_all
  · rfl

/-- An entry is read up to the end of its line. -/
theorem readPairWith_entryLine (read : List Char → Except Stop (Value × List Char)) {key : String}
    {value : Value} {mark : Char} {written more : List Char} (bare : isBareKey key = true)
    (visible : isBlank mark = false)
    (readValue : read (mark :: (written ++ '\n' :: more)) = .ok (value, '\n' :: more)) :
    readPairWith read (Settings.entryLine key (mark :: written) ++ more) =
      .ok (([key], value), '\n' :: more) := by
  have shape : Settings.entryLine key (mark :: written) ++ more =
      key.toList ++ ' ' :: '=' :: ' ' :: mark :: (written ++ '\n' :: more) := by
    simp [Settings.entryLine]
  have skipped : skipBlanks (' ' :: '=' :: ' ' :: mark :: (written ++ '\n' :: more)) =
      '=' :: ' ' :: mark :: (written ++ '\n' :: more) := by
    rw [skipBlanks_space, skipBlanks_of_visible _ (by decide)]
  rw [shape, readPairWith, readKey_bare _ bare (by decide) (by rw [skipped]; simp), skipped]
  simp only [bind, Except.bind, pure, Except.pure, skipBlanks_space, skipBlanks_of_visible _ visible,
    readValue]

/-- A text after the first character of a line, all of which the budget covers. -/
theorem readStatement_entryLine {document next : Document} {key : String} {value : Value}
    {c mark : Char} {others written more : List Char} (chars : key.toList = c :: others)
    (bare : isBareKey key = true) (visible : isBlank mark = false)
    (readWritten : ∀ budget, written.length < budget →
      readValue (budget + 1) (mark :: (written ++ '\n' :: more)) = .ok (value, '\n' :: more))
    (entered : document.enter [key] value = .ok next) :
    ∃ tail, Settings.entryLine key (mark :: written) ++ more = c :: tail ∧
      readStatement document c tail = .ok (next, '\n' :: more) := by
  have shape : Settings.entryLine key (mark :: written) ++ more =
      c :: (others ++ " = ".toList ++ (mark :: written) ++ ['\n'] ++ more) := by
    simp [Settings.entryLine, chars]
  refine ⟨_, shape, ?_⟩
  have start : isKeyStart c = true := by
    have all : ∀ c ∈ key.toList, isBareKeyChar c = true := by
      simp only [isBareKey, Bool.and_eq_true, List.all_eq_true] at bare
      exact bare.2
    simp [isKeyStart, all c (by simp [chars])]
  have pair := readPairWith_entryLine
    (readValue (budgetOf (others ++ " = ".toList ++ (mark :: written) ++ ['\n'] ++ more))) bare visible
    (readWritten _ (by simp; omega))
  rw [shape] at pair
  simp only [readStatement, start, if_true, pair, entered, atPlace, bind, Except.bind, pure,
    Except.pure, skipBlanks_of_visible _ (show isBlank '\n' = false by decide)]

theorem isBareKeyChar_of_mem {key : String} (bare : isBareKey key = true) :
    ∀ c ∈ key.toList, isBareKeyChar c = true := by
  simp only [isBareKey, Bool.and_eq_true, List.all_eq_true] at bare
  exact bare.2

theorem readStatements_line {budget : Nat} {document next : Document} {c : Char}
    {text more : List Char} (visible : isBlankOrNewline c = false)
    (read : readStatement document c text = .ok (next, '\n' :: more)) :
    readStatements (budget + 1) document (c :: text) = readStatements budget next more := by
  obtain ⟨blank, newline⟩ : isBlank c = false ∧ c ≠ '\n' := by
    simpa [isBlankOrNewline] using visible
  rw [readStatements, skipBlanks_of_visible text blank]
  split
  · simp_all
  · simp_all
  · next same =>
    cases same
    simp [read, skipComment, bind, Except.bind]

theorem readStatements_newline (budget : Nat) (document : Document) (more : List Char) :
    readStatements (budget + 1) document ('\n' :: more) = readStatements budget document more := by
  rw [readStatements, skipBlanks_of_visible more (by decide)]
  rfl

theorem readStatements_nil (budget : Nat) (document : Document) :
    readStatements (budget + 1) document [] = .ok document := rfl

theorem readStatements_comment {comment : List Char} (budget : Nat) (document : Document)
    (more : List Char) (legal : ∀ c ∈ comment, isLegal false c = true) (oneLine : '\n' ∉ comment) :
    readStatements (budget + 1) document ('#' :: (comment ++ '\n' :: more)) =
      readStatements budget document more := by
  have before : (comment ++ '\n' :: more).takeWhile (· != '\n') = comment := by
    have inLine (c : Char) (member : c ∈ comment) : (c != '\n') = true := by
      simp only [bne_iff_ne, ne_eq]
      rintro rfl
      exact oneLine member
    rw [List.takeWhile_append_of_pos inLine]
    simp
  have clean : comment.find? (fun c => !isLegal false c) = none := by simpa using legal
  rw [readStatements, skipBlanks_of_visible _ (by decide)]
  simp [readStatement, isKeyStart, isBareKeyChar, isDigit, skipComment, before, clean, bind,
    Except.bind]

theorem readStatements_header {key : String} {document next : Document} (budget : Nat)
    (more : List Char) (bare : isBareKey key = true)
    (opened : document.endSection.openTable [key] = .ok next) :
    readStatements (budget + 1) document ('[' :: (key.toList ++ ']' :: '\n' :: more)) =
      readStatements budget next more := by
  refine readStatements_line (by decide) ?_
  have skipped : skipBlanks (']' :: '\n' :: more) = ']' :: '\n' :: more :=
    skipBlanks_of_visible _ (by decide)
  have read := readKey_bare ('\n' :: more) bare (show isBareKeyChar ']' = false by decide)
    (by rw [skipped]; simp)
  have headed : readHeader document.endSection (key.toList ++ ']' :: '\n' :: more) =
      .ok (next, '\n' :: more) := by
    have all := isBareKeyChar_of_mem bare
    cases chars : key.toList with
    | nil => simp [isBareKey, chars] at bare
    | cons c others =>
      have first : isBareKeyChar c = true := all c (by simp [chars])
      have visible : isBlank c = false := by
        refine Bool.eq_false_iff.2 fun blank => ?_
        obtain rfl | rfl : c = ' ' ∨ c = '\t' := by simpa [isBlank] using blank
        · exact absurd first (by decide)
        · exact absurd first (by decide)
      rw [chars, List.cons_append] at read
      rw [List.cons_append, readHeader]
      · simp [skipBlanks_of_visible _ visible, read, skipped, opened, atPlace, bind, Except.bind,
          pure, Except.pure]
      · rintro _ same
        cases same
        exact absurd first (by decide)
  have closed : skipBlanks ('\n' :: more) = '\n' :: more := skipBlanks_of_visible more (by decide)
  simp [readStatement, isKeyStart, isBareKeyChar, isDigit, headed, closed, bind, Except.bind, pure,
    Except.pure]

theorem readStatements_entryLine {document next : Document} {key : String} {value : Value}
    {mark : Char} {written : List Char} (budget : Nat) (more : List Char)
    (bare : isBareKey key = true) (visible : isBlank mark = false)
    (readWritten : ∀ budget, written.length < budget →
      readValue (budget + 1) (mark :: (written ++ '\n' :: more)) = .ok (value, '\n' :: more))
    (entered : document.enter [key] value = .ok next) :
    readStatements (budget + 1) document (Settings.entryLine key (mark :: written) ++ more) =
      readStatements budget next more := by
  cases chars : key.toList with
  | nil => simp [isBareKey, chars] at bare
  | cons c others =>
    obtain ⟨tail, shape, read⟩ := readStatement_entryLine chars bare visible readWritten entered
    have first : isBareKeyChar c = true := isBareKeyChar_of_mem bare c (by simp [chars])
    have shown : isBlankOrNewline c = false := by
      refine Bool.eq_false_iff.2 fun blank => ?_
      obtain (rfl | rfl) | rfl : (c = ' ' ∨ c = '\t') ∨ c = '\n' := by
        simpa [isBlankOrNewline, isBlank] using blank
      all_goals exact absurd first (by decide)
    rw [shape]
    exact readStatements_line shown read

theorem readStatements_text {document next : Document} {key value : String} (budget : Nat)
    (more : List Char) (bare : isBareKey key = true)
    (entered : document.enter [key] (.text value) = .ok next) :
    readStatements (budget + 1) document
        (Settings.entryLine key (Settings.writeText value) ++ more) =
      readStatements budget next more := by
  refine readStatements_entryLine budget more bare (by decide) ?_ entered
  intro budget _
  have read := readValue_writeBasic budget value.toList ('\n' :: more) (by simp)
  rwa [String.ofList_toList] at read

theorem readStatements_texts {document next : Document} {key : String} {values : List String}
    (budget : Nat) (more : List Char) (bare : isBareKey key = true)
    (entered : document.enter [key] (.array (values.map .text)) = .ok next) :
    readStatements (budget + 1) document
        (Settings.entryLine key (Settings.writeTexts values) ++ more) =
      readStatements budget next more := by
  refine readStatements_entryLine budget more bare (by decide) ?_ entered
  intro budget enough
  exact readValue_writeTexts budget values ('\n' :: more)
    (Nat.lt_of_le_of_lt (length_le_writeItems values) enough)

end Bookbinder.Toml
