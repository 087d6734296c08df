import Bookbinder.Proofs.Toml.Locality

/-!
Values as a person may write them: texts as saved settings have them, and lists of such texts laid out in
any way. Main statement: `Spells.read`, that what is written of a value gives the value wherever it is read.
-/

set_option autoImplicit false

namespace Bookbinder.Toml

variable {gap written items tail : List Char} {value : Value} {values : List String}

/-- What may stand between the marks of an array: blanks, newlines and whole comments. -/
def IsGap (gap : List Char) : Prop := skipBetweenItems false (gap ++ [']']) = .ok [']']

/-- The items of a list up to its end; a comma may follow the last one. -/
inductive SpellsItems : List Char → List String → Prop
  | none : SpellsItems [']'] []
  | last (value : String) {gap : List Char} (passed : IsGap gap) :
      SpellsItems (Settings.writeText value ++ (gap ++ [']'])) [value]
  | more (value : String) {before after items : List Char} {values : List String}
      (first : IsGap before) (second : IsGap after) (others : SpellsItems items values) :
      SpellsItems (Settings.writeText value ++ (before ++ ',' :: (after ++ items))) (value :: values)

inductive Spells : List Char → Value → Prop
  | text (value : String) : Spells (Settings.writeText value) (.text value)
  | texts {gap items : List Char} {values : List String} (passed : IsGap gap)
      (inside : SpellsItems items values) : Spells ('[' :: (gap ++ items)) (.array (values.map .text))

theorem isGap_nil : IsGap [] := rfl

theorem isGap_space : IsGap [' '] := rfl

/-- What saved settings hold for a list is one way to write it. -/
theorem spellsItems_writeItems (values : List String) : SpellsItems (writeItems values) values := by
  induction values with
  | nil => exact .none
  | cons first others ih =>
    cases others with
    | nil => exact .last first isGap_nil
    | cons second others =>
      have shape := writeItems_cons_cons first second others []
      simp only [List.append_nil] at shape
      rw [shape]
      exact .more first isGap_nil isGap_space ih

theorem spells_writeTexts (values : List String) :
    Spells (Settings.writeTexts values) (.array (values.map .text)) := by
  rw [writeTexts_eq, ← List.nil_append (writeItems values)]
  exact .texts isGap_nil (spellsItems_writeItems values)

theorem skipBetweenItems_gap {inComment : Bool} {c : Char}
    (passed : skipBetweenItems inComment (gap ++ [']']) = .ok [']']) (visible : isBlankOrNewline c = false)
    (open_ : c ≠ '#') (rest : List Char) :
    skipBetweenItems inComment (gap ++ c :: rest) = .ok (c :: rest) := by
  induction gap generalizing inComment with
  | nil =>
    cases inComment with
    | false => exact skipBetweenItems_mark rest visible open_
    | true => cases passed
  | cons d gap ih =>
    rw [List.cons_append, skipBetweenItems] at passed ⊢
    cases inComment with
    | true =>
      simp only [if_true] at passed ⊢
      split at passed
      · next newline => rw [if_pos newline, ih passed]
      · next newline =>
        rw [if_neg newline]
        split at passed
        · next legal => rw [if_pos legal, ih passed]
        · cases passed
    | false =>
      simp only [Bool.false_eq_true, if_false] at passed ⊢
      split at passed
      · next blank => rw [if_pos blank, ih passed]
      · next blank =>
        rw [if_neg blank]
        split at passed
        · next comment => rw [if_pos comment, ih passed]
        · have size := congrArg List.length (Except.ok.inj passed)
          simp at size

theorem IsGap.skip (passed : IsGap gap) {c : Char} (visible : isBlankOrNewline c = false) (open_ : c ≠ '#')
    (rest : List Char) : skipBetweenItems false (gap ++ c :: rest) = .ok (c :: rest) :=
  skipBetweenItems_gap passed visible open_ rest

theorem IsGap.head?_ne (passed : IsGap gap) {c : Char} (other : c ≠ '"') (rest : List Char) :
    (gap ++ c :: rest).head? ≠ some '"' := by
  cases gap with
  | nil => simpa using other
  | cons d gap =>
    rintro same
    obtain rfl : d = '"' := by simpa using same
    cases passed

theorem SpellsItems.starts (spells : SpellsItems items values) (tail : List Char) :
    ∃ c more, items ++ tail = c :: more ∧ isBlankOrNewline c = false ∧ c ≠ '#' := by
  cases spells with
  | none => exact ⟨']', tail, rfl, by decide, by decide⟩
  | last value => exact ⟨'"', _, rfl, by decide, by decide⟩
  | more value => exact ⟨'"', _, rfl, by decide, by decide⟩

theorem SpellsItems.skip (spells : SpellsItems items values) (passed : IsGap gap) (tail : List Char) :
    skipBetweenItems false (gap ++ (items ++ tail)) = .ok (items ++ tail) := by
  obtain ⟨c, more, shape, visible, open_⟩ := spells.starts tail
  rw [shape]
  exact passed.skip visible open_ more

/-- Each item takes up some of the text, so a budget beyond its length covers them all. -/
theorem SpellsItems.read (spells : SpellsItems items values) {budget : Nat} (enough : items.length < budget)
    (tail : List Char) : readItems budget (items ++ tail) = .ok (values.map .text, tail) := by
  obtain ⟨budget, rfl⟩ := Nat.exists_eq_add_one.2 (Nat.lt_of_le_of_lt (Nat.zero_le _) enough)
  induction spells generalizing budget with
  | none => rfl
  | @last value gap passed =>
    simp only [List.length_append, List.length_cons, List.length_nil] at enough
    obtain ⟨budget, rfl⟩ : ∃ less, budget = less + 1 := Nat.exists_eq_add_one.2 (by omega)
    have item := readValue_writeBasic budget value.toList (gap ++ ']' :: tail)
      (passed.head?_ne (by decide) tail)
    rw [String.ofList_toList] at item
    have shape : Settings.writeText value ++ (gap ++ [']']) ++ tail =
        writeBasic value.toList ++ (gap ++ ']' :: tail) := by
      simp [Settings.writeText]
    rw [shape]
    exact readItems_last (by decide) item (passed.skip (by decide) (by decide) tail)
  | @more value before after items values first second others ih =>
    simp only [List.length_append, List.length_cons] at enough
    obtain ⟨budget, rfl⟩ : ∃ less, budget = less + 1 := Nat.exists_eq_add_one.2 (by omega)
    have item := readValue_writeBasic budget value.toList (before ++ ',' :: (after ++ (items ++ tail)))
      (first.head?_ne (by decide) _)
    rw [String.ofList_toList] at item
    have shape : Settings.writeText value ++ (before ++ ',' :: (after ++ items)) ++ tail =
        writeBasic value.toList ++ (before ++ ',' :: (after ++ (items ++ tail))) := by
      simp [Settings.writeText]
    rw [shape]
    exact readItems_more (by decide) item (first.skip (by decide) (by decide) _)
      (others.skip second tail) (ih budget (by omega))

/-- A text that starts where it stands and gives its value wherever it is read. -/
structure Writes (written : List Char) (value : Value) : Prop where
  visible : skipBlanks written = written
  read : ∀ {budget : Nat} {tail : List Char}, 2 * written.length ≤ budget → tail.head? ≠ some '"' →
    readValue budget (written ++ tail) = .ok (value, tail)

theorem Spells.writes (spells : Spells written value) : Writes written value := by
  cases spells with
  | text value =>
    refine ⟨skipBlanks_of_visible _ (by decide), fun {budget tail} enough ended => ?_⟩
    obtain ⟨budget, rfl⟩ : ∃ less, budget = less + 1 := by
      refine Nat.exists_eq_add_one.2 (Nat.lt_of_lt_of_le ?_ enough)
      simp [Settings.writeText, writeBasic]
    have read := readValue_writeBasic budget value.toList tail ended
    rwa [String.ofList_toList] at read
  | @texts gap items values passed inside =>
    refine ⟨skipBlanks_of_visible _ (by decide), fun {budget tail} enough _ => ?_⟩
    simp only [List.length_append, List.length_cons] at enough
    obtain ⟨budget, rfl⟩ : ∃ less, budget = less + 1 := Nat.exists_eq_add_one.2 (by omega)
    have items := inside.read (show items.length < budget by omega) tail
    simp only [List.cons_append, List.append_assoc, readValue]
    simp [inside.skip passed tail, items, bind, Except.bind, pure, Except.pure]

end Bookbinder.Toml
