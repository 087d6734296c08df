import Mathlib.Data.List.Forall2
import Bookbinder.Proofs.Toml.Spelling
import Bookbinder.Proofs.Toml.Statements

/-!
Entries as they are written: a key with an equals sign, a value, and what may follow it; on a line of
its own or within a table on one line. Main statements: `states_entry`, and that such a table is read by
adding what its entries give, one after the other.
-/

set_option autoImplicit false

namespace Bookbinder.Toml

variable {blanks lead written trail text tail rest : List Char} {key : Key} {value : Value}

/-- A text up to an equals sign and the blanks behind it names a key. -/
def Names (lead : List Char) (key : Key) : Prop :=
  ∃ blanks, readKey (skipBlanks lead) = .ok (key, '=' :: blanks) ∧ skipBlanks blanks = []

theorem skipBlanks_append_of_blank (blank : skipBlanks blanks = []) (text : List Char) :
    skipBlanks (blanks ++ text) = skipBlanks text := by
  have all : blanks.dropWhile isBlank = [] := blank
  simp [skipBlanks, List.dropWhile_append, all]

/-- After a named key the reader of values goes on where the value starts. -/
theorem readPairWith_of_names (names : Names lead key) (visible : skipBlanks text = text)
    (read : List Char → Except Stop (Value × List Char)) :
    readPairWith read (skipBlanks (lead ++ text)) =
      (read text).map fun found => ((key, found.1), found.2) := by
  obtain ⟨blanks, keyRead, blank⟩ := names
  have shown : skipBlanks (lead ++ text) = skipBlanks lead ++ text :=
    skipBlanks_append (ne_nil_of_readKeyFrom keyRead) text
  have passed : skipBlanks (blanks ++ text) = text := by
    rw [skipBlanks_append_of_blank blank, visible]
  have keyRead := readKey_append text keyRead
  rw [List.cons_append] at keyRead
  simp only [shown, readPairWith, keyRead, bind_ok, passed]
  cases read text <;> rfl

/-- The text after a named key is shorter than the text from the key on. -/
theorem skipBlanks_of_names (names : Names lead key) (text : List Char) :
    ∃ c others, skipBlanks (lead ++ text) = c :: others ∧ text.length ≤ others.length := by
  obtain ⟨blanks, keyRead, -⟩ := names
  have some := ne_nil_of_readKeyFrom keyRead
  obtain ⟨c, others, shown⟩ := List.exists_cons_of_ne_nil some
  refine ⟨c, others ++ text, ?_, by simp⟩
  rw [skipBlanks_append some, shown, List.cons_append]

theorem head?_of_settled (ends : skipComment (skipBlanks trail) = .ok []) : trail.head? ≠ some '"' := by
  cases trail with
  | nil => simp
  | cons c others =>
    rintro same
    obtain rfl : c = '"' := by simpa using same
    simp [skipBlanks_of_visible others (show isBlank '"' = false by decide), skipComment] at ends

theorem Writes.ne_nil (writes : Writes written value) : written ≠ [] := by
  rintro rfl
  have read : readValue 0 ([] ++ []) = .ok (value, []) := writes.read (Nat.zero_le _) (by simp)
  cases read

theorem Writes.skipBlanks_append (writes : Writes written value) (tail : List Char) :
    skipBlanks (written ++ tail) = written ++ tail := by
  have some : skipBlanks written ≠ [] := by
    rw [writes.visible]
    exact writes.ne_nil
  rw [Toml.skipBlanks_append some, writes.visible]

/-- A line that gives a key a value states just that. -/
theorem states_entry (names : Names lead key) (writes : Writes written value)
    (ends : skipComment (skipBlanks trail) = .ok []) :
    States (lead ++ (written ++ trail)) [.entry key value] := by
  obtain ⟨c, others, shown, size⟩ := skipBlanks_of_names names (written ++ trail)
  have enough : 2 * written.length ≤ budgetOf others := by
    simp only [budgetOf, List.length_append] at size ⊢
    omega
  refine .entry shown ?_ ends
  rw [← shown, readPairWith_of_names names (writes.skipBlanks_append trail),
    writes.read enough (head?_of_settled ends)]
  rfl

/-- A text that holds a key with its value, and blanks around them. -/
def IsPair (text : List Char) (pair : Key × Value) : Prop :=
  ∃ after, readPairWith (readValue (budgetOf text)) (skipBlanks text) = .ok (pair, after) ∧
    skipBlanks after = []

theorem isPair_entry (names : Names lead key) (writes : Writes written value)
    (blank : skipBlanks trail = []) : IsPair (lead ++ (written ++ trail)) (key, value) := by
  have enough : 2 * written.length ≤ budgetOf (lead ++ (written ++ trail)) := by
    simp only [budgetOf, List.length_append]
    omega
  have ended : trail.head? ≠ some '"' := head?_of_settled (by rw [blank]; rfl)
  refine ⟨trail, ?_, blank⟩
  rw [readPairWith_of_names names (writes.skipBlanks_append trail), writes.read enough ended]
  rfl

/-- Adds entries to a table on one line, one after the other. -/
def enterAll : List Key → Table → List (Key × Value) → Except Fault Table
  | _, table, [] => .ok table
  | frozen, table, (key, value) :: others => do
    let table ← addInline frozen key value table
    enterAll (if value.isNested then key :: frozen else frozen) table others

/-- A table on one line, given the blanks at its start and the texts of its entries. -/
def inlineText (blanks : List Char) (entries : List (List Char)) : List Char :=
  '{' :: (blanks ++ (Text.joinWith [','] entries ++ ['}']))

theorem readPairWith_of_isPair {pair : Key × Value} {budget : Nat} (is : IsPair text pair)
    (closes : Closes tail) (enough : budgetOf text ≤ budget) :
    ∃ after, readPairWith (readValue budget) (skipBlanks (text ++ tail)) = .ok (pair, after) ∧
      skipBlanks after = tail := by
  obtain ⟨after, read, blank⟩ := is
  refine ⟨after ++ tail, ?_, ?_⟩
  · rw [skipBlanks_append_of_closes closes]
    exact carries_readPairWith (carries_readValue enough) closes read
  · rw [skipBlanks_append_of_closes closes, blank, List.nil_append]

theorem readEntries_last {frozen : List Key} {table : Table} {budget : Nat} (is : IsPair text (key, value))
    (enough : budgetOf text ≤ budget) (rest : List Char) :
    (readEntries (budget + 1) frozen table (skipBlanks (text ++ '}' :: rest))).toOption =
      (addInline frozen key value table).toOption.map fun added => (added, rest) := by
  obtain ⟨after, read, blank⟩ := readPairWith_of_isPair is (.brace rest) enough
  simp only [readEntries, read, bind_ok, blank]
  cases addInline frozen key value table <;> rfl

theorem readEntries_more {frozen : List Key} {table : Table} {budget : Nat} (is : IsPair text (key, value))
    (enough : budgetOf text ≤ budget) (more : List Char) :
    (readEntries (budget + 1) frozen table (skipBlanks (text ++ ',' :: more))).toOption =
      (addInline frozen key value table).toOption.bind fun added =>
        (readEntries budget (if value.isNested then key :: frozen else frozen) added
          (skipBlanks more)).toOption := by
  obtain ⟨after, read, blank⟩ := readPairWith_of_isPair is (.comma more) enough
  simp only [readEntries, read, bind_ok, blank]
  cases addInline frozen key value table <;> rfl

/-- The budget goes down by one for each entry, and an entry has to be read within it. -/
theorem readEntries_joinWith {texts : List (List Char)} {pairs : List (Key × Value)}
    (are : List.Forall₂ IsPair texts pairs) (some : texts ≠ []) {budget : Nat}
    (enough : 2 * (Text.joinWith [','] texts).length + 3 ≤ budget) (frozen : List Key) (table : Table)
    (rest : List Char) :
    (readEntries budget frozen table (skipBlanks (Text.joinWith [','] texts ++ '}' :: rest))).toOption =
      (enterAll frozen table pairs).toOption.map fun entered => (entered, rest) := by
  obtain ⟨budget, rfl⟩ : ∃ less, budget = less + 1 := Nat.exists_eq_add_one.2 (by omega)
  induction are generalizing budget frozen table with
  | nil => exact absurd rfl some
  | @cons text pair texts pairs is are ih =>
    obtain ⟨key, value⟩ := pair
    cases are with
    | nil =>
      have fits : budgetOf text ≤ budget := by
        simp only [Text.joinWith, budgetOf] at enough ⊢
        omega
      rw [Text.joinWith, readEntries_last is fits]
      simp only [enterAll]
      cases addInline frozen key value table <;> rfl
    | @cons next second texts pairs first others =>
      have size : (Text.joinWith [','] (text :: next :: texts)).length =
          text.length + 1 + (Text.joinWith [','] (next :: texts)).length := by
        simp only [Text.joinWith, List.length_append, List.length_cons, List.length_nil]
      have fits : budgetOf text ≤ budget := by
        simp only [budgetOf]
        omega
      obtain ⟨budget, rfl⟩ : ∃ less, budget = less + 1 := Nat.exists_eq_add_one.2 (by omega)
      have shape : Text.joinWith [','] (text :: next :: texts) ++ '}' :: rest =
          text ++ ',' :: (Text.joinWith [','] (next :: texts) ++ '}' :: rest) := by
        simp [Text.joinWith]
      rw [shape, readEntries_more is fits]
      rw [enterAll, toOption_bind]
      cases addInline frozen key value table with
      | error fault => rfl
      | ok added => exact ih (List.cons_ne_nil _ _) _ added budget (by omega)

/-- The entries of a table do not start with its end. -/
theorem skipBlanks_joinWith_ne {texts : List (List Char)} {pairs : List (Key × Value)}
    (are : List.Forall₂ IsPair texts pairs) (some : texts ≠ []) (rest after : List Char) :
    skipBlanks (Text.joinWith [','] texts ++ '}' :: rest) ≠ '}' :: after := by
  cases are with
  | nil => exact absurd rfl some
  | @cons text pair texts pairs is others =>
    obtain ⟨left, read, -⟩ := is
    cases shown : skipBlanks text with
    | nil =>
      rw [shown] at read
      cases read
    | cons c more =>
      rw [shown] at read
      have start := isKeyStart_of_readPairWith read
      have visible : skipBlanks text ≠ [] := by simp [shown]
      obtain ⟨tail, shape⟩ : ∃ tail, Text.joinWith [','] (text :: texts) ++ '}' :: rest = text ++ tail := by
        cases others with
        | nil => exact ⟨_, rfl⟩
        | cons => exact ⟨_, by rw [Text.joinWith, List.append_assoc, List.append_assoc]; simp⟩
      rw [shape, skipBlanks_append visible, shown]
      rintro same
      cases same
      exact absurd start (by decide)

theorem readValue_inlineText {texts : List (List Char)} {pairs : List (Key × Value)}
    (are : List.Forall₂ IsPair texts pairs) (blank : skipBlanks blanks = []) {budget : Nat}
    (enough : 2 * (inlineText blanks texts).length ≤ budget) (rest : List Char) :
    (readValue budget (inlineText blanks texts ++ rest)).toOption =
      (enterAll [] [] pairs).toOption.map fun table => (.table table, rest) := by
  have size : (Text.joinWith [','] texts).length + 2 ≤ (inlineText blanks texts).length := by
    simp only [inlineText, List.length_cons, List.length_append, List.length_nil]
    omega
  obtain ⟨budget, rfl⟩ : ∃ less, budget = less + 1 := Nat.exists_eq_add_one.2 (by omega)
  obtain ⟨inside, shape, opened⟩ : ∃ inside, inlineText blanks texts ++ rest = '{' :: inside ∧
      skipBlanks inside = skipBlanks (Text.joinWith [','] texts ++ '}' :: rest) :=
    ⟨blanks ++ (Text.joinWith [','] texts ++ '}' :: rest), by simp [inlineText],
      skipBlanks_append_of_blank blank _⟩
  have noYes : "true".toList.isPrefixOf ('{' :: inside) = false := rfl
  have noNo : "false".toList.isPrefixOf ('{' :: inside) = false := rfl
  rw [shape, readValue, if_neg (by decide), noYes, if_neg Bool.false_ne_true, noNo,
    if_neg Bool.false_ne_true, if_neg (by decide), if_pos rfl, opened]
  by_cases empty : texts = []
  · subst empty
    cases are
    rfl
  · split
    · next after same => exact absurd same (skipBlanks_joinWith_ne are empty rest after)
    · have spare : 2 * (Text.joinWith [','] texts).length + 3 ≤ budget := by omega
      rw [toOption_bind, readEntries_joinWith are empty spare]
      cases enterAll [] [] pairs <;> rfl

theorem skipBlanks_inlineText (blanks : List Char) (texts : List (List Char)) (tail : List Char) :
    skipBlanks (inlineText blanks texts ++ tail) = inlineText blanks texts ++ tail :=
  skipBlanks_of_visible _ (by decide)

theorem readPairWith_inlineText {texts : List (List Char)} {pairs : List (Key × Value)}
    (names : Names lead key) (are : List.Forall₂ IsPair texts pairs) (blank : skipBlanks blanks = [])
    {budget : Nat} (enough : 2 * (inlineText blanks texts).length ≤ budget) (trail : List Char) :
    (readPairWith (readValue budget) (skipBlanks (lead ++ (inlineText blanks texts ++ trail)))).toOption =
      (enterAll [] [] pairs).toOption.map fun table => ((key, .table table), trail) := by
  rw [readPairWith_of_names names (skipBlanks_inlineText blanks texts trail), toOption_map,
    readValue_inlineText are blank enough trail, Option.map_map]
  rfl

/-- A line that gives a key a table on one line states so just if its entries can be added. -/
theorem states_inlineText_iff {texts : List (List Char)} {pairs : List (Key × Value)} {table : Table}
    (names : Names lead key) (are : List.Forall₂ IsPair texts pairs) (blank : skipBlanks blanks = [])
    (ends : skipComment (skipBlanks trail) = .ok []) :
    States (lead ++ (inlineText blanks texts ++ trail)) [.entry key (.table table)] ↔
      enterAll [] [] pairs = .ok table := by
  obtain ⟨c, others, shown, size⟩ := skipBlanks_of_names names (inlineText blanks texts ++ trail)
  have enough : 2 * (inlineText blanks texts).length ≤ budgetOf others := by
    simp only [budgetOf, List.length_append] at size ⊢
    omega
  have read := readPairWith_inlineText names are blank enough trail
  rw [shown] at read
  constructor
  · intro states
    cases states with
    | entry starts found settled =>
      rw [shown] at starts
      cases starts
      obtain ⟨result, entered, same⟩ := (eq_ok_iff_of_toOption read).1 found
      cases same
      exact entered
  · intro entered
    exact .entry shown ((eq_ok_iff_of_toOption read).2 ⟨table, entered, rfl⟩) ends

end Bookbinder.Toml
