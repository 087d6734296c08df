import Bookbinder.Proofs.Toml.Locality

/-!
A configuration text as what its lines say. A line that can be read by itself, an entry over several
lines of text included, states the same wherever it stands; a text whose lines can be read by themselves
is read by following what they say, one after the other. Main statement: `parse_joinWith`.
-/

set_option autoImplicit false

namespace Bookbinder.Toml

inductive Statement where
  | entry (key : Key) (value : Value)
  | table (key : Key)
  | tableArray (key : Key)

def Document.follow (document : Document) : Statement → Except Fault Document
  | .entry key value => document.enter key value
  | .table key => document.endSection.openTable key
  | .tableArray key => document.endSection.openTableArray key

def Document.followAll (document : Document) (stated : List Statement) : Except Fault Document :=
  stated.foldlM Document.follow document

/-- What a line states, read by itself up to its end. -/
inductive States : List Char → List Statement → Prop
  | nothing {line : List Char} (ends : skipComment (skipBlanks line) = .ok []) : States line []
  | entry {line text after : List Char} {c : Char} {key : Key} {value : Value}
      (starts : skipBlanks line = c :: text)
      (read : readPairWith (readValue (budgetOf text)) (c :: text) = .ok ((key, value), after))
      (ends : skipComment (skipBlanks after) = .ok []) : States line [.entry key value]
  | table {line text after : List Char} {key : Key} (starts : skipBlanks line = '[' :: text)
      (single : text.head? ≠ some '[') (read : readKey (skipBlanks text) = .ok (key, ']' :: after))
      (ends : skipComment (skipBlanks after) = .ok []) : States line [.table key]
  | tableArray {line text after : List Char} {key : Key} (starts : skipBlanks line = '[' :: '[' :: text)
      (read : readKey (skipBlanks text) = .ok (key, ']' :: ']' :: after))
      (ends : skipComment (skipBlanks after) = .ok []) : States line [.tableArray key]

/-- What lines say, one after the other. -/
inductive StateAll : List (List Char) → List Statement → Prop
  | nil : StateAll [] []
  | cons {line : List Char} {lines : List (List Char)} {stated later : List Statement}
      (states : States line stated) (others : StateAll lines later) : StateAll (line :: lines) (stated ++ later)

theorem StateAll.append {lines others : List (List Char)} {stated later : List Statement}
    (first : StateAll lines stated) (second : StateAll others later) :
    StateAll (lines ++ others) (stated ++ later) := by
  induction first with
  | nil => exact second
  | cons states _ ih =>
    rw [List.append_assoc]
    exact .cons states ih

/-- The end of a line: the end of the text, or the next line. -/
inductive EndsLine : List Char → Prop
  | nothing : EndsLine []
  | newline (more : List Char) : EndsLine ('\n' :: more)

variable {line text tail rest after : List Char}

theorem EndsLine.closes (ends : EndsLine tail) : Closes tail := by
  cases ends <;> constructor

theorem skipComment_append (ends : EndsLine tail) (skipped : skipComment text = .ok []) :
    skipComment (text ++ tail) = .ok tail := by
  unfold skipComment at skipped
  split at skipped
  · next comment =>
    simp only at skipped
    split at skipped
    · next legal =>
      -- the comment goes on to the end of the line
      have left : comment.drop (comment.takeWhile (· != '\n')).length = [] := by simpa using skipped
      have whole : comment.takeWhile (· != '\n') = comment :=
        (List.takeWhile_prefix _).eq_of_length_le (List.drop_eq_nil_iff.1 left)
      have stops : tail.takeWhile (· != '\n') = [] := by cases ends <;> rfl
      have taken : (comment ++ tail).takeWhile (· != '\n') = comment := by
        rw [List.takeWhile_append, whole, if_pos rfl, stops, List.append_nil]
      rw [whole] at legal
      simp only [List.cons_append, skipComment, taken, legal, List.drop_left]
    · cases skipped
  · next plain =>
    obtain rfl : text = [] := by simpa using skipped
    cases ends <;> rfl

theorem skipComment_skipBlanks_append (ends : EndsLine tail)
    (skipped : skipComment (skipBlanks text) = .ok []) :
    skipComment (skipBlanks (text ++ tail)) = .ok tail := by
  rw [skipBlanks_append_of_closes ends.closes]
  exact skipComment_append ends skipped

theorem isKeyStart_of_readKey {key : Key} {c : Char} (read : readKey (c :: text) = .ok (key, rest)) :
    isKeyStart c = true := by
  obtain ⟨part, first, -⟩ := bind_eq_ok_iff.1 read
  simp only [readKeyPart] at first
  by_cases bare : isBareKeyChar c = true
  · simp [isKeyStart, bare]
  · by_cases quote : c = '"' ∨ c = '\''
    · rcases quote with rfl | rfl <;> simp [isKeyStart]
    · simp [if_neg bare, if_neg quote, stopAt] at first

theorem isKeyStart_of_readPairWith {read : List Char → Except Stop (Value × List Char)} {c : Char}
    {pair : Key × Value} (done : readPairWith read (c :: text) = .ok (pair, rest)) :
    isKeyStart c = true := by
  obtain ⟨key, keyRead, -⟩ := bind_eq_ok_iff.1 done
  exact isKeyStart_of_readKey keyRead

theorem ne_nil_of_readKey {key : Key} (read : readKey (skipBlanks text) = .ok (key, rest)) : text ≠ [] := by
  rintro rfl
  exact ne_nil_of_readKeyFrom read rfl

/-- A header reads on to its bracket, whatever stands behind the line. -/
theorem readKey_header {key : Key} {next : Char} (ends : EndsLine tail)
    (read : readKey (skipBlanks text) = .ok (key, next :: after)) :
    readKey (skipBlanks (text ++ tail)) = .ok (key, next :: (after ++ tail)) := by
  rw [skipBlanks_append_of_closes ends.closes, readKey_append tail read, List.cons_append]

theorem readHeader_table {key : Key} (ends : EndsLine tail) (single : text.head? ≠ some '[')
    (read : readKey (skipBlanks text) = .ok (key, ']' :: after)) (document : Document) :
    (readHeader document (text ++ tail)).toOption =
      (document.openTable key).toOption.map fun next => (next, after ++ tail) := by
  have read' := readKey_header ends read
  obtain ⟨c, more, rfl⟩ := List.exists_cons_of_ne_nil (ne_nil_of_readKey read)
  have other : c ≠ '[' := by simpa using single
  rw [List.cons_append] at read' ⊢
  rw [readHeader]
  · simp only [read', bind_ok]
    cases document.openTable key <;> rfl
  · rintro _ same
    cases same
    exact other rfl

theorem readHeader_tableArray {key : Key} (ends : EndsLine tail)
    (read : readKey (skipBlanks text) = .ok (key, ']' :: ']' :: after)) (document : Document) :
    (readHeader document ('[' :: (text ++ tail))).toOption =
      (document.openTableArray key).toOption.map fun next => (next, after ++ tail) := by
  simp only [readHeader, readKey_header ends read, List.cons_append, bind_ok]
  cases document.openTableArray key <;> rfl

theorem readStatement_header (document : Document) (text : List Char) :
    (readStatement document '[' text).toOption =
      (readHeader document.endSection text).toOption.map fun read => (read.1, skipBlanks read.2) := by
  have noKey : isKeyStart '[' = false := by decide
  simp only [readStatement, noKey, Bool.false_eq_true, if_false, if_true]
  cases readHeader document.endSection text <;> rfl

theorem key_ne_nil_of_readKey {key : Key} (read : readKey text = .ok (key, rest)) : key ≠ [] := by
  rintro rfl
  unfold readKey at read
  rw [readKeyFrom] at read
  obtain ⟨⟨part, left⟩, -, read⟩ := bind_eq_ok_iff.1 read
  simp only at read
  split at read
  · obtain ⟨found, -, same⟩ := bind_eq_ok_iff.1 read
    cases same
  · cases read

/-- The key of an entry has parts. -/
theorem States.key_ne_nil {key : Key} {value : Value} (states : States line [.entry key value]) : key ≠ [] := by
  cases states with
  | entry starts read ends =>
    obtain ⟨⟨found, left⟩, keyRead, read⟩ := bind_eq_ok_iff.1 read
    simp only at read
    split at read
    · obtain ⟨given, -, same⟩ := bind_eq_ok_iff.1 read
      cases same
      exact key_ne_nil_of_readKey keyRead
    · cases read

/-- A line with a statement is followed if the statement can be, and else reading stops there. -/
theorem readStatement_of_states {statement : Statement} (states : States line [statement]) (ends : EndsLine tail)
    (document : Document) :
    ∃ c text after, skipBlanks (line ++ tail) = c :: text ∧ c ≠ '\n' ∧ skipComment after = .ok tail ∧
      (readStatement document c text).toOption =
        (document.follow statement).toOption.map fun next => (next, after) := by
  cases states with
  | @entry text after c key value starts read settled =>
    have key' := isKeyStart_of_readPairWith read
    have whole : skipBlanks (line ++ tail) = c :: (text ++ tail) := by
      rw [skipBlanks_append_of_closes ends.closes, starts, List.cons_append]
    have enough : budgetOf text ≤ budgetOf (text ++ tail) := by
      simp only [budgetOf, List.length_append]
      omega
    have read := carries_readPairWith (carries_readValue enough) ends.closes read
    rw [List.cons_append] at read
    refine ⟨c, text ++ tail, skipBlanks (after ++ tail), whole, ?_,
      skipComment_skipBlanks_append ends settled, ?_⟩
    · rintro rfl
      exact absurd key' (by decide)
    · simp only [readStatement, if_pos key', read, bind_ok, Document.follow]
      cases document.enter key value <;> rfl
  | @table text after key starts single read settled =>
    refine ⟨'[', text ++ tail, skipBlanks (after ++ tail), ?_, by decide,
      skipComment_skipBlanks_append ends settled, ?_⟩
    · rw [skipBlanks_append_of_closes ends.closes, starts, List.cons_append]
    · rw [readStatement_header, readHeader_table ends single read, Option.map_map]
      rfl
  | @tableArray text after key starts read settled =>
    refine ⟨'[', '[' :: (text ++ tail), skipBlanks (after ++ tail), ?_, by decide,
      skipComment_skipBlanks_append ends settled, ?_⟩
    · rw [skipBlanks_append_of_closes ends.closes, starts, List.cons_append, List.cons_append]
    · rw [readStatement_header, readHeader_tableArray ends read, Option.map_map]
      rfl

/-- What is read from the end of a line on. -/
def readOn (budget : Nat) (document : Document) : List Char → Option Document
  | [] => some document
  | _ :: more => (readStatements budget document more).toOption

theorem readStatements_of_readStatement {document : Document} {next : Option Document} {c : Char}
    (shown : skipBlanks line = c :: text) (visible : c ≠ '\n')
    (read : (readStatement document c text).toOption = next.map fun next => (next, after))
    (settled : skipComment after = .ok tail) (ends : EndsLine tail) (budget : Nat) :
    (readStatements (budget + 1) document line).toOption =
      next.bind fun next => readOn budget next tail := by
  rw [readStatements, shown]
  split
  · next none => cases none
  · next same =>
    cases same
    exact absurd rfl visible
  · next same =>
    cases same
    cases done : readStatement document c text with
    | error stop =>
      rw [done] at read
      cases next with
      | none => rfl
      | some found => cases read
    | ok result =>
      rw [done] at read
      cases next with
      | none => cases read
      | some found =>
        cases read
        simp only [bind_ok, settled, Option.bind_some]
        cases ends <;> rfl

theorem readStatements_of_nothing (ends : EndsLine tail)
    (nothing : skipComment (skipBlanks line) = .ok []) (budget : Nat) (document : Document) :
    (readStatements (budget + 1) document (line ++ tail)).toOption = readOn budget document tail := by
  have passed := skipComment_append ends nothing
  have whole := skipBlanks_append_of_closes ends.closes line
  cases shown : skipBlanks line with
  | nil =>
    rw [shown, List.nil_append] at whole
    rw [readStatements, whole]
    cases ends <;> rfl
  | cons c text =>
    have comment : c = '#' := by
      refine Classical.byContradiction fun other => ?_
      simp [shown, skipComment, other] at nothing
    subst comment
    rw [shown] at passed whole
    have read : (readStatement document '#' (text ++ tail)).toOption =
        (some document).map fun next => (next, '#' :: text ++ tail) := rfl
    exact readStatements_of_readStatement whole (by decide) read passed ends budget

/-- A line leads on from what it states. -/
theorem readStatements_of_states {stated : List Statement} (states : States line stated) (ends : EndsLine tail)
    (budget : Nat) (document : Document) :
    (readStatements (budget + 1) document (line ++ tail)).toOption =
      (document.followAll stated).toOption.bind fun next => readOn budget next tail := by
  cases stated with
  | nil =>
    cases states with
    | nothing settled => exact readStatements_of_nothing ends settled budget document
  | cons statement others =>
    have single : others = [] := by cases states <;> rfl
    subst single
    obtain ⟨c, text, after, shown, visible, settled, read⟩ := readStatement_of_states states ends document
    have once : document.followAll [statement] = document.follow statement := by
      simp [Document.followAll]
    rw [once]
    exact readStatements_of_readStatement shown visible read settled ends budget

theorem followAll_append (document : Document) (first second : List Statement) :
    document.followAll (first ++ second) = document.followAll first >>= fun next => next.followAll second :=
  List.foldlM_append

/-- A budget of a step for each line is enough. -/
theorem readStatements_joinWith {lines : List (List Char)} {stated : List Statement}
    (states : StateAll lines stated) {budget : Nat} (some : 0 < budget) (enough : lines.length ≤ budget)
    (document : Document) :
    (readStatements budget document (Text.joinWith ['\n'] lines)).toOption =
      (document.followAll stated).toOption := by
  obtain ⟨budget, rfl⟩ := Nat.exists_eq_add_one.2 some
  induction states generalizing budget document with
  | nil => rfl
  | @cons line lines stated later states others ih =>
    cases others with
    | nil =>
      have read := readStatements_of_states states .nothing budget document
      simpa [Text.joinWith, readOn] using read
    | @cons next more first last begins rest =>
      obtain ⟨budget, rfl⟩ : ∃ less, budget = less + 1 := Nat.exists_eq_add_one.2 (by simp at enough; omega)
      have read := readStatements_of_states states (.newline (Text.joinWith ['\n'] (next :: more))) (budget + 1)
        document
      have shape : Text.joinWith ['\n'] (line :: next :: more) =
          line ++ '\n' :: Text.joinWith ['\n'] (next :: more) := by
        simp [Text.joinWith]
      rw [shape, read, followAll_append, toOption_bind]
      congr 1
      funext found
      exact ih found budget (Nat.zero_lt_succ _) (by simpa using enough)

theorem length_le_joinWith (lines : List (List Char)) :
    lines.length ≤ (Text.joinWith ['\n'] lines).length + 1 := by
  induction lines with
  | nil => exact Nat.zero_le _
  | cons line lines ih =>
    cases lines with
    | nil => simp
    | cons next more =>
      simp only [Text.joinWith, List.length_append, List.length_cons] at ih ⊢
      omega

/-- A text whose lines can be read by themselves is what they say. -/
theorem parse_joinWith {lines : List (List Char)} {stated : List Statement} (states : StateAll lines stated) :
    (parse (Text.joinWith ['\n'] lines)).toOption =
      (Document.followAll {} stated).toOption.map Document.table := by
  have read := readStatements_joinWith states (Nat.zero_lt_succ _) (length_le_joinWith lines) {}
  unfold parse
  rw [← read]
  cases readStatements ((Text.joinWith ['\n'] lines).length + 1) {} (Text.joinWith ['\n'] lines) <;> rfl

end Bookbinder.Toml
