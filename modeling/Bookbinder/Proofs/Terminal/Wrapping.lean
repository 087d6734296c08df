import Mathlib.Data.List.TakeWhile
import Bookbinder.Proofs.Terminal.Measuring
import Bookbinder.Terminal.Panel

/-!
What word wrapping keeps of a plain text, whose characters take up cells or are blank. Main statement: the
lines that it is shown in are no wider than there is room, and their characters, blanks aside, are those of the
text in their order.
-/

set_option autoImplicit false

namespace Bookbinder.Terminal

/-! ### Plain texts -/

/-- A text of characters that take up cells of their own, and of blanks. -/
def IsPlain (text : List Char) : Prop := ∀ c ∈ text, Text.blank c = true ∨ 0 < Text.cellWidth c

instance (text : List Char) : Decidable (IsPlain text) :=
  decidable_of_iff (text.all fun c => Text.blank c || decide (0 < Text.cellWidth c)) (by simp [IsPlain])

/-- A text without its blanks. -/
def ink (text : List Char) : List Char := text.filter fun c => !Text.blank c

@[simp] theorem ink_nil : ink [] = [] := rfl

@[simp] theorem ink_append (text more : List Char) : ink (text ++ more) = ink text ++ ink more :=
  List.filter_append text more

theorem ink_eq_nil {text : List Char} (blank : ∀ c ∈ text, Text.blank c = true) : ink text = [] := by
  simpa [ink] using blank

theorem ink_cons (c : Char) (text : List Char) :
    ink (c :: text) = if Text.blank c then ink text else c :: ink text := by
  cases blank : Text.blank c <;> simp [ink, blank]

/-- Parts that each lose nothing but blanks lose nothing but blanks together. -/
theorem ink_flatMap {parts : List (List Char)} {change : List Char → List Char}
    (kept : ∀ part ∈ parts, ink (change part) = ink part) : ink (parts.flatMap change) = ink parts.flatten := by
  induction parts with
  | nil => rfl
  | cons part rest ih =>
    obtain ⟨first, others⟩ := List.forall_mem_cons.1 kept
    rw [List.flatMap_cons, ink_append, first, ih others, List.flatten_cons, ink_append]

@[simp] theorem isPlain_nil : IsPlain [] := by simp [IsPlain]

@[simp] theorem isPlain_append {text more : List Char} :
    IsPlain (text ++ more) ↔ IsPlain text ∧ IsPlain more :=
  List.forall_mem_append

@[simp] theorem isPlain_cons {c : Char} {text : List Char} :
    IsPlain (c :: text) ↔ (Text.blank c = true ∨ 0 < Text.cellWidth c) ∧ IsPlain text :=
  List.forall_mem_cons

theorem IsPlain.subset {text part : List Char} (plain : IsPlain text) (within : part ⊆ text) : IsPlain part :=
  fun c member => plain c (within member)

/-- Neither of the two characters that bear on others is plain. -/
theorem ne_of_plain {c : Char} (plain : Text.blank c = true ∨ 0 < Text.cellWidth c) :
    c ≠ joiner ∧ c ≠ wideSelector := by
  constructor
  · rintro rfl
    exact absurd plain (by decide)
  · rintro rfl
    exact absurd plain (by decide)

theorem cellsFrom_plain (last : Option Char) {text : List Char} (plain : IsPlain text) :
    cellsFrom last false text = (text.map Text.cellWidth).sum := by
  induction text generalizing last with
  | nil => rfl
  | cons c rest ih =>
    obtain ⟨first, others⟩ := isPlain_cons.1 plain
    obtain ⟨notJoiner, notSelector⟩ := ne_of_plain first
    rw [cellsFrom_cons, if_neg notJoiner, if_neg notSelector, List.map_cons, List.sum_cons]
    split
    · next none => rw [ih _ others, none, Nat.zero_add]
    · rw [ih _ others]

theorem cells_plain {text : List Char} (plain : IsPlain text) : cells text = (text.map Text.cellWidth).sum :=
  cellsFrom_plain none plain

theorem cells_append {text more : List Char} (plain : IsPlain text) (others : IsPlain more) :
    cells (text ++ more) = cells text + cells more := by
  simp [cells_plain, plain, others]

/-- A plain text that takes up no cell is blank. -/
theorem ink_eq_nil_of_cells {text : List Char} (plain : IsPlain text) (none : cells text = 0) :
    ink text = [] := by
  refine ink_eq_nil fun c member => ?_
  rw [cells_plain plain, List.sum_eq_zero_iff_forall_eq_nat] at none
  rcases plain c member with blank | wide
  · exact blank
  · exact absurd (none _ (List.mem_map_of_mem member)) (Nat.ne_of_gt wide)

/-! ### Clusters of a plain text -/

/-- A cluster of a plain text: a character, and blanks that take up no cell. -/
def Cluster.IsPlain (cluster : Cluster) : Prop :=
  ∃ c blanks, cluster.chars = c :: blanks ∧ cluster.width = Text.cellWidth c ∧
    (Text.blank c = true ∨ 0 < Text.cellWidth c) ∧
    ∀ b ∈ blanks, Text.blank b = true ∧ Text.cellWidth b = 0

theorem Cluster.IsPlain.chars {cluster : Cluster} (plain : cluster.IsPlain) :
    Terminal.IsPlain cluster.chars ∧ cells cluster.chars = cluster.width := by
  obtain ⟨c, blanks, chars, width, first, none⟩ := plain
  have whole : Terminal.IsPlain cluster.chars := by
    rw [chars]
    exact isPlain_cons.2 ⟨first, fun b member => .inl (none b member).1⟩
  refine ⟨whole, ?_⟩
  have nothing : (blanks.map Text.cellWidth).sum = 0 := by
    simpa [List.sum_eq_zero_iff_forall_eq_nat] using fun b member => (none b member).2
  rw [cells_plain whole, chars, List.map_cons, List.sum_cons, nothing, width, Nat.add_zero]

theorem clusters_plain {text : List Char} (plain : IsPlain text) :
    ∀ cluster ∈ clusters text, cluster.IsPlain := by
  have attach {state : Clusters} {c : Char} (found : ∀ cluster ∈ state.found, cluster.IsPlain)
      (first : Text.blank c = true ∨ 0 < Text.cellWidth c) (none : Text.cellWidth c = 0) :
      ∀ cluster ∈ (state.attach c 0).found, cluster.IsPlain := by
    unfold Clusters.attach
    split
    · simpa using ⟨c, [], rfl, none.symm, first, by simp⟩
    · next cluster more same =>
      rw [same] at found
      obtain ⟨⟨base, blanks, chars, width, wide, others⟩, rest⟩ := List.forall_mem_cons.1 found
      have blank : Text.blank c = true := first.resolve_right (by omega)
      refine List.forall_mem_cons.2 ⟨⟨base, blanks ++ [c], by simp [chars], width, wide, ?_⟩, rest⟩
      simpa [or_imp, forall_and, blank, none] using others
  have all (state : Clusters) (free : state.joining = false)
      (found : ∀ cluster ∈ state.found, cluster.IsPlain) :
      ∀ cluster ∈ (text.foldl Clusters.step state).found, cluster.IsPlain := by
    induction text generalizing state with
    | nil => exact found
    | cons c rest ih =>
      obtain ⟨first, others⟩ := isPlain_cons.1 plain
      obtain ⟨notJoiner, notSelector⟩ := ne_of_plain first
      rw [List.foldl_cons, Clusters.step, if_neg (by simp [free]), if_neg notJoiner, if_neg notSelector]
      split
      · next none => exact ih others _ (by simpa using free) (attach found first none)
      · exact ih others _ free (List.forall_mem_cons.2 ⟨⟨c, [], rfl, rfl, first, by simp⟩, found⟩)
  intro cluster member
  exact all {} rfl (by simp) cluster (List.mem_reverse.1 member)

theorem isPlain_flatMap {found : List Cluster} (plain : ∀ cluster ∈ found, cluster.IsPlain) :
    IsPlain (found.flatMap Cluster.chars) := by
  intro c member
  obtain ⟨cluster, among, inside⟩ := List.mem_flatMap.1 member
  exact (plain cluster among).chars.1 c inside

theorem cells_flatMap {found : List Cluster} (plain : ∀ cluster ∈ found, cluster.IsPlain) :
    cells (found.flatMap Cluster.chars) = total found := by
  induction found with
  | nil => rfl
  | cons cluster rest ih =>
    obtain ⟨first, others⟩ := List.forall_mem_cons.1 plain
    rw [List.flatMap_cons, cells_append first.chars.1 (isPlain_flatMap others), first.chars.2, ih others, total_cons]

/-! ### Lines that fit -/

/-- A text that takes up at most so many cells, blanks at its end not counted. -/
def Fits (available : Nat) (text : List Char) : Prop :=
  ∃ shown blanks, text = shown ++ blanks ∧ (∀ c ∈ blanks, Text.blank c = true) ∧ cells shown ≤ available

theorem fits_of_le {available : Nat} {text : List Char} (narrow : cells text ≤ available) : Fits available text :=
  ⟨text, [], (List.append_nil text).symm, by simp, narrow⟩

theorem fits_of_blank {available : Nat} {text : List Char} (blank : ∀ c ∈ text, Text.blank c = true) :
    Fits available text :=
  ⟨[], text, rfl, blank, Nat.zero_le available⟩

theorem Fits.first {available : Nat} {text more : List Char} (fits : Fits available (text ++ more))
    (plain : IsPlain (text ++ more)) : Fits available text := by
  obtain ⟨shown, blanks, same, blank, narrow⟩ := fits
  rcases List.append_eq_append_iff.1 same with ⟨rest, rfl, rfl⟩ | ⟨rest, rfl, rfl⟩
  · obtain ⟨first, others⟩ := isPlain_append.1 plain
    rw [cells_append first (isPlain_append.1 others).1] at narrow
    exact fits_of_le (by omega)
  · exact ⟨shown, rest, rfl, fun c member => blank c (List.mem_append_left _ member), narrow⟩

/-- Behind what takes up some of the cells the rest fits into the others, unless it is blank. -/
theorem Fits.rest {available : Nat} {text more : List Char} (fits : Fits available (text ++ more))
    (plain : IsPlain (text ++ more)) : Fits (available - cells text) more := by
  obtain ⟨shown, blanks, same, blank, narrow⟩ := fits
  rcases List.append_eq_append_iff.1 same with ⟨rest, rfl, rfl⟩ | ⟨rest, rfl, rfl⟩
  · obtain ⟨first, others⟩ := isPlain_append.1 plain
    rw [cells_append first (isPlain_append.1 others).1] at narrow
    exact ⟨rest, blanks, rfl, blank, by omega⟩
  · exact fits_of_blank fun c member => blank c (List.mem_append_right _ member)

theorem trimEnd_append (text : List Char) :
    ∃ blanks, text = trimEnd text ++ blanks ∧ ∀ c ∈ blanks, Text.blank c = true := by
  refine ⟨(text.reverse.takeWhile Text.blank).reverse, ?_, fun c member => ?_⟩
  · rw [trimEnd, ← List.reverse_append, List.takeWhile_append_dropWhile, List.reverse_reverse]
  · exact List.mem_takeWhile_imp (List.mem_reverse.1 member)

/-- Only blanks are taken off. -/
theorem dropExcess_append (available : Nat) (line : List Char) :
    ∃ blanks, line = dropExcess available line ++ blanks ∧ ∀ c ∈ blanks, Text.blank c = true := by
  refine ⟨_, (List.take_append_drop _ line).symm, fun c member => ?_⟩
  rw [← List.mem_reverse, List.reverse_drop, ← List.takeWhile_append_dropWhile (p := Text.blank) (l := line.reverse),
    List.take_append_of_le_length (by simp; omega)] at member
  exact List.mem_takeWhile_imp (List.mem_of_mem_take member)

/-- What a plain text loses when clusters are cut is blank if the text fits. -/
theorem ink_cutClusters {width : Nat} {found : List Cluster} (plain : ∀ cluster ∈ found, cluster.IsPlain)
    (fits : Fits width (found.flatMap Cluster.chars)) :
    ink (cutClusters width found) = ink (found.flatMap Cluster.chars) := by
  induction found generalizing width with
  | nil => rfl
  | cons cluster rest ih =>
    have whole := isPlain_flatMap plain
    obtain ⟨first, others⟩ := List.forall_mem_cons.1 plain
    rw [List.flatMap_cons] at fits whole ⊢
    simp only [cutClusters]
    split
    · next none =>
      subst none
      obtain ⟨shown, blanks, same, blank, narrow⟩ := fits
      rw [same] at whole ⊢
      rw [ink_append, ink_eq_nil blank,
        ink_eq_nil_of_cells (isPlain_append.1 whole).1 (Nat.le_zero.1 narrow)]
      rfl
    split
    · rw [ink_append, ink_append, ih others (first.chars.2 ▸ fits.rest whole)]
    · next wide =>
      -- What is shown has no room even for the character that the cluster begins with.
      obtain ⟨c, zeros, chars, size, -⟩ := first
      obtain ⟨shown, blanks, same, blank, narrow⟩ := fits
      rw [same] at whole ⊢
      cases shown with
      | nil => rw [List.nil_append, ink_eq_nil blank]; rfl
      | cons d more =>
        rw [chars, List.cons_append, List.cons_append] at same
        obtain ⟨rfl, -⟩ := List.cons.inj same
        rw [cells_plain (isPlain_append.1 whole).1, List.map_cons, List.sum_cons] at narrow
        omega

theorem isPlain_cutClusters (width : Nat) {found : List Cluster} (plain : ∀ cluster ∈ found, cluster.IsPlain) :
    IsPlain (cutClusters width found) ∧ cells (cutClusters width found) ≤ width := by
  obtain ⟨first, before, parts⟩ := cutClusters_parts width found
  have kept : ∀ cluster ∈ first, cluster.IsPlain := fun cluster member => plain cluster (before.subset member)
  have whole := isPlain_flatMap kept
  rcases parts with ⟨within, cut⟩ | ⟨within, cut⟩
  · rw [cut, cells_flatMap kept]
    exact ⟨whole, within⟩
  · have blank : IsPlain [' '] := by decide
    rw [cut, cells_append whole blank, cells_flatMap kept]
    exact ⟨isPlain_append.2 ⟨whole, blank⟩, within⟩

/-- A plain text is cut to its room, and where it fits only blanks are cut. -/
theorem cut_plain (width : Nat) {text : List Char} (plain : IsPlain text) :
    IsPlain (cut width text) ∧ cells (cut width text) ≤ width ∧
      (Fits width text → ink (cut width text) = ink text) := by
  unfold cut
  split
  · next narrow => exact ⟨plain, narrow, fun _ => rfl⟩
  · obtain ⟨kept, narrow⟩ := isPlain_cutClusters width (clusters_plain plain)
    refine ⟨kept, narrow, fun fits => ?_⟩
    rw [ink_cutClusters (clusters_plain plain) (by rwa [chars_clusters]), chars_clusters]

/-! ### Words -/

theorem wordsFrom_flatten (word : List Char) (ended : Bool) (rest : List Char) :
    (wordsFrom word ended rest).flatten = word.reverse ++ rest ∨
      wordsFrom word ended rest = [] ∧ ∀ c ∈ word.reverse ++ rest, Text.blank c = true := by
  induction rest generalizing word ended with
  | nil =>
    simp only [wordsFrom]
    split
    · next blank => exact .inr ⟨rfl, by simpa using blank⟩
    · exact .inl (by simp)
  | cons c rest ih =>
    simp only [wordsFrom]
    split
    · simpa using ih (c :: word) (!word.all Text.blank)
    split
    · next inked _ =>
      rcases ih [c] false with whole | ⟨-, blank⟩
      · exact .inl (by simp [whole])
      · exact absurd (blank c (by simp)) inked
    · simpa using ih (c :: word) false

/-- The words of a line are the line, unless it is blank. -/
theorem words_flatten (line : List Char) :
    (words line).flatten = line ∨ words line = [] ∧ ∀ c ∈ line, Text.blank c = true :=
  wordsFrom_flatten [] false line

/-! ### Folding a word -/

/-- A plain word in rows loses nothing but blanks, and no row is too wide for it. -/
theorem chopFrom_plain {available : Nat} (narrow : 2 ≤ available) {row : List Char} {found : List Cluster}
    (rowPlain : IsPlain row) (fits : cells row ≤ available) (plain : ∀ cluster ∈ found, cluster.IsPlain) :
    ink (chopFrom available row (cells row) found).flatten = ink (row ++ found.flatMap Cluster.chars) ∧
      ∀ part ∈ chopFrom available row (cells row) found, IsPlain part ∧ cells part ≤ available := by
  induction found generalizing row with
  | nil =>
    simp only [chopFrom]
    split
    · next none => simp [ink_eq_nil_of_cells rowPlain none]
    · simpa using ⟨rowPlain, fits⟩
  | cons cluster rest ih =>
    obtain ⟨first, others⟩ := List.forall_mem_cons.1 plain
    obtain ⟨clusterPlain, width⟩ := first.chars
    simp only [chopFrom]
    split
    · have small : cells cluster.chars ≤ available := by
        obtain ⟨c, -, -, size, -⟩ := first
        have := Text.cellWidth_le_two c
        omega
      obtain ⟨kept, rows⟩ := ih clusterPlain small others
      rw [width] at kept rows
      refine ⟨by simp [kept], List.forall_mem_cons.2 ⟨⟨rowPlain, fits⟩, rows⟩⟩
    · next room =>
      have both := cells_append rowPlain clusterPlain
      obtain ⟨kept, rows⟩ := ih (isPlain_append.2 ⟨rowPlain, clusterPlain⟩) (by omega) others
      rw [both, width] at kept rows
      exact ⟨by simp [kept], rows⟩

theorem chop_plain {available : Nat} (narrow : 2 ≤ available) {word : List Char} (plain : IsPlain word) :
    ink (chop available word).flatten = ink word ∧
      ∀ part ∈ chop available word, IsPlain part ∧ cells part ≤ available := by
  have parts := chopFrom_plain narrow isPlain_nil (Nat.zero_le available) (clusters_plain plain)
  rwa [chars_clusters, List.nil_append] at parts

/-! ### Filling lines -/

/-- Lines that were filled with a text: each of them fits. -/
structure Filling.Holds (available : Nat) (filling : Filling) (text : List Char) : Prop where
  width : filling.width = cells filling.line
  lines : ∀ line ∈ filling.line :: filling.full, IsPlain line ∧ Fits available line
  kept : ink (filling.full.reverse.flatten ++ filling.line) = ink text

namespace Filling

variable {available : Nat} {filling : Filling} {text : List Char}

theorem Holds.breakLine (holds : Holds available filling text) {line : List Char} (plain : IsPlain line)
    (fits : Fits available line) : Holds available (filling.breakLine line) (text ++ line) := by
  unfold Filling.breakLine
  split
  · next fresh =>
    obtain ⟨none, empty⟩ : filling.full = [] ∧ filling.line = [] := by simpa using fresh
    have nothing : ink text = [] := by simpa [none, empty] using holds.kept.symm
    exact ⟨rfl, by simpa using ⟨plain, fits⟩, by simp [nothing]⟩
  · refine ⟨rfl, List.forall_mem_cons.2 ⟨⟨plain, fits⟩, holds.lines⟩, ?_⟩
    rw [ink_append text, ← holds.kept]
    simp

theorem Holds.breakLines (holds : Holds available filling text) {rows : List (List Char)}
    (fit : ∀ row ∈ rows, IsPlain row ∧ cells row ≤ available) :
    Holds available (rows.foldl Filling.breakLine filling) (text ++ rows.flatten) := by
  induction rows generalizing filling text with
  | nil => simpa using holds
  | cons row rest ih =>
    obtain ⟨⟨plain, narrow⟩, others⟩ := List.forall_mem_cons.1 fit
    simpa using ih (holds.breakLine plain (fits_of_le narrow)) others

theorem Holds.place (holds : Holds available filling text) (narrow : 2 ≤ available) {word : List Char}
    (plain : IsPlain word) : Holds available (filling.place available word) (text ++ word) := by
  obtain ⟨blanks, same, blank⟩ := trimEnd_append word
  have parts : IsPlain (trimEnd word) := (isPlain_append.1 (same ▸ plain)).1
  obtain ⟨linePlain, -⟩ := holds.lines filling.line List.mem_cons_self
  have others := (List.forall_mem_cons.1 holds.lines).2
  simp only [Filling.place]
  split
  · next room =>
    have trimmed := cells_append linePlain parts
    have whole := cells_append linePlain plain
    refine ⟨by rw [holds.width, whole], List.forall_mem_cons.2 ⟨⟨isPlain_append.2 ⟨linePlain, plain⟩, ?_⟩, others⟩, ?_⟩
    · refine ⟨filling.line ++ trimEnd word, blanks, by rw [List.append_assoc, ← same], blank, ?_⟩
      rw [trimmed, ← holds.width]
      exact room
    · rw [← List.append_assoc, ink_append, holds.kept, ink_append]
  split
  · next wide =>
    obtain ⟨kept, rows⟩ := chop_plain narrow plain
    have broken := holds.breakLines rows
    exact ⟨broken.width, broken.lines, by rw [broken.kept, ink_append, kept, ink_append]⟩
  · next small =>
    exact holds.breakLine plain ⟨trimEnd word, blanks, same, blank, Nat.le_of_not_lt small⟩

theorem Holds.places (holds : Holds available filling text) (narrow : 2 ≤ available) {words : List (List Char)}
    (plain : ∀ word ∈ words, IsPlain word) :
    Holds available (words.foldl (Filling.place available) filling) (text ++ words.flatten) := by
  induction words generalizing filling text with
  | nil => simpa using holds
  | cons word rest ih =>
    obtain ⟨first, others⟩ := List.forall_mem_cons.1 plain
    simpa using ih (holds.place narrow first) others

end Filling

theorem divide_plain {available : Nat} (narrow : 2 ≤ available) {line : List Char} (plain : IsPlain line) :
    ink (divide available line).flatten = ink line ∧
      ∀ part ∈ divide available line, IsPlain part ∧ Fits available part := by
  unfold divide
  rcases words_flatten line with whole | ⟨none, blank⟩
  · have start : Filling.Holds available {} [] := ⟨rfl, by simpa using fits_of_blank (by simp), rfl⟩
    have wordsPlain : ∀ word ∈ words line, IsPlain word := fun word member c inside =>
      plain c (whole ▸ List.mem_flatten_of_mem member inside)
    have holds := start.places narrow wordsPlain
    rw [whole, List.nil_append] at holds
    split
    · next none =>
      rw [none] at whole
      have empty : line = [] := whole.symm
      subst empty
      simpa using fits_of_blank (by simp)
    · refine ⟨by simpa using holds.kept, fun part member => holds.lines part ?_⟩
      simpa using (List.mem_reverse.1 member)
  · rw [none]
    simpa using ⟨plain, fits_of_blank blank⟩

/-! ### Lines of a text -/

theorem ink_splitOn {separator : Char} (blank : Text.blank separator = true) (text : List Char) :
    ink (Text.splitOn separator text).flatten = ink text := by
  induction text with
  | nil => rfl
  | cons c rest ih =>
    simp only [Text.splitOn]
    split
    · next same =>
      rw [List.flatten_cons, List.nil_append, ih, same, ink_cons, if_pos blank]
    · cases parts : Text.splitOn separator rest with
      | nil => exact absurd parts (Text.splitOn_ne_nil separator rest)
      | cons part more =>
        rw [parts, List.flatten_cons] at ih
        rw [List.flatten_cons, List.cons_append, ink_cons, ih, ← ink_cons]

theorem isPlain_splitOn (separator : Char) {text : List Char} (plain : IsPlain text) :
    ∀ part ∈ Text.splitOn separator text, IsPlain part :=
  fun _ member c inside => plain c (Text.mem_of_mem_splitOn member inside)

theorem isPlain_blanks (count : Nat) : IsPlain (List.replicate count ' ') := by
  intro c member
  rw [List.eq_of_mem_replicate member]
  decide

theorem ink_blanks (count : Nat) : ink (List.replicate count ' ') = [] := by
  refine ink_eq_nil fun c member => ?_
  rw [List.eq_of_mem_replicate member]
  decide

/-- The blanks that stand for tabs are blank as they are. -/
theorem expandTabs_plain {text : List Char} (plain : IsPlain text) :
    IsPlain (expandTabs text) ∧ ink (expandTabs text) = ink text := by
  have padded {part : List Char} (plain : IsPlain part) :
      IsPlain (padToTab (part ++ [' '])) ∧ ink (padToTab (part ++ [' '])) = ink part := by
    have blank : IsPlain [' '] ∧ ink [' '] = [] := by decide
    simp only [padToTab, pad, isPlain_append, ink_append, plain, blank, isPlain_blanks, ink_blanks]
    simp
  have partsPlain := isPlain_splitOn '\t' plain
  rw [← ink_splitOn (by decide : Text.blank '\t' = true) text]
  unfold expandTabs
  split
  · next none => exact absurd (List.reverse_eq_nil_iff.1 none) (Text.splitOn_ne_nil _ _)
  · next last before parts =>
    have whole : Text.splitOn '\t' text = before.reverse ++ [last] := by
      rw [← List.reverse_reverse (Text.splitOn '\t' text), parts, List.reverse_cons]
    rw [whole] at partsPlain ⊢
    obtain ⟨others, final⟩ := List.forall_mem_append.1 partsPlain
    refine ⟨isPlain_append.2 ⟨fun c member => ?_, final last List.mem_cons_self⟩, ?_⟩
    · obtain ⟨part, among, inside⟩ := List.mem_flatMap.1 member
      exact (padded (others part among)).1 c inside
    · rw [ink_append, List.flatten_append, ink_append, List.flatten_singleton]
      exact congrArg (· ++ ink last) (ink_flatMap fun part among => (padded (others part among)).2)

/-- The end of a line gives way where there is too much of it, but no more than its blanks. -/
theorem cutLine_plain {available : Nat} {part : List Char} (plain : IsPlain part) (fits : Fits available part) :
    ink (cut available (dropExcess available part)) = ink part ∧
      cells (cut available (dropExcess available part)) ≤ available := by
  obtain ⟨blanks, same, blank⟩ := dropExcess_append available part
  generalize dropExcess available part = line at same
  subst same
  obtain ⟨-, within, kept⟩ := cut_plain available (isPlain_append.1 plain).1
  refine ⟨?_, within⟩
  rw [kept (fits.first plain), ink_append, ink_eq_nil blank, List.append_nil]

/-- A plain text loses nothing but blanks where it is wrapped, and no line is too wide. -/
theorem wrap_plain {available : Nat} (narrow : 2 ≤ available) {text : List Char} (plain : IsPlain text) :
    ink (wrap available text).flatten = ink text ∧ ∀ line ∈ wrap available text, cells line ≤ available := by
  have lines := isPlain_splitOn '\n' plain
  have divided (line : List Char) (among : line ∈ Text.splitOn '\n' text) :
      ink (divide available (expandTabs line)).flatten = ink line ∧
        ∀ part ∈ divide available (expandTabs line), IsPlain part ∧ Fits available part := by
    obtain ⟨expanded, same⟩ := expandTabs_plain (lines line among)
    have parts := divide_plain narrow expanded
    rwa [same] at parts
  constructor
  · rw [← ink_splitOn (by decide : Text.blank '\n' = true) text, wrap, List.flatMap_def, List.flatten_flatten,
      List.map_map, ← List.flatMap_def]
    refine ink_flatMap fun line among => ?_
    obtain ⟨kept, parts⟩ := divided line among
    rw [← kept, Function.comp_apply, ← List.flatMap_def]
    exact ink_flatMap fun part inside => (cutLine_plain (parts part inside).1 (parts part inside).2).1
  · intro shown member
    obtain ⟨line, among, inside⟩ := List.mem_flatMap.1 member
    obtain ⟨part, within, rfl⟩ := List.mem_map.1 inside
    obtain ⟨partPlain, fits⟩ := (divided line among).2 part within
    exact (cutLine_plain partPlain fits).2

/-! ### Where characters come from -/

theorem mem_cut {width : Nat} {text : List Char} {c : Char} (member : c ∈ cut width text) :
    c ∈ text ∨ c = ' ' := by
  unfold cut at member
  split at member
  · exact .inl member
  · obtain ⟨first, before, parts⟩ := cutClusters_parts width (clusters text)
    have within (inside : c ∈ first.flatMap Cluster.chars) : c ∈ text := by
      obtain ⟨cluster, among, inside⟩ := List.mem_flatMap.1 inside
      exact chars_clusters text ▸ List.mem_flatMap.2 ⟨cluster, before.subset among, inside⟩
    rcases parts with ⟨-, cut⟩ | ⟨-, cut⟩ <;> rw [cut] at member
    · exact .inl (within member)
    · exact (List.mem_append.1 member).imp within List.mem_singleton.1

theorem subset_chopFrom {available size : Nat} {row part : List Char} {found : List Cluster}
    (member : part ∈ chopFrom available row size found) : part ⊆ row ++ found.flatMap Cluster.chars := by
  induction found generalizing row size with
  | nil =>
    simp only [chopFrom] at member
    split at member
    · cases member
    · simp [List.mem_singleton.1 member]
  | cons cluster rest ih =>
    simp only [chopFrom] at member
    split at member
    · rcases List.mem_cons.1 member with rfl | later
      · exact List.subset_append_left _ _
      · exact List.Subset.trans (ih later) (List.subset_append_right row _)
    · simpa using ih member

theorem subset_chop {available : Nat} {word part : List Char} (member : part ∈ chop available word) :
    part ⊆ word := by
  simpa [chars_clusters] using subset_chopFrom member

namespace Filling

variable {available : Nat} {filling : Filling} {text : List Char}

/-- The lines hold characters of a text only. -/
def Within (filling : Filling) (text : List Char) : Prop := ∀ line ∈ filling.line :: filling.full, line ⊆ text

theorem Within.breakLine (within : Within filling text) {line : List Char} (inside : line ⊆ text) :
    Within (filling.breakLine line) text := by
  unfold Filling.breakLine
  split
  · simpa [Within] using inside
  · exact List.forall_mem_cons.2 ⟨inside, within⟩

theorem Within.place (within : Within filling text) {word : List Char} (inside : word ⊆ text) :
    Within (filling.place available word) text := by
  obtain ⟨line, full⟩ := List.forall_mem_cons.1 within
  simp only [Filling.place]
  split
  · exact List.forall_mem_cons.2 ⟨List.append_subset.2 ⟨line, inside⟩, full⟩
  split
  · exact List.foldlRecOn (motive := (Within · text)) _ _ within fun _ earlier part member =>
      earlier.breakLine (List.Subset.trans (subset_chop member) inside)
  · exact within.breakLine inside

end Filling

theorem subset_divide {available : Nat} {line part : List Char} (member : part ∈ divide available line) :
    part ⊆ line := by
  have wordsWithin : ∀ word ∈ words line, word ⊆ line := by
    intro word among
    rcases words_flatten line with whole | ⟨none, -⟩
    · exact fun c inside => whole ▸ List.mem_flatten_of_mem among inside
    · rw [none] at among
      cases among
  have filled : Filling.Within ((words line).foldl (Filling.place available) {}) line :=
    List.foldlRecOn (motive := (Filling.Within · line)) _ _ (by simp [Filling.Within]) fun _ within word among =>
      within.place (wordsWithin word among)
  unfold divide at member
  split at member
  · rw [List.mem_singleton.1 member]
    exact List.Subset.refl line
  · exact filled part (by simpa using List.mem_reverse.1 member)

theorem mem_expandTabs {text : List Char} {c : Char} (member : c ∈ expandTabs text) : c ∈ text ∨ c = ' ' := by
  unfold expandTabs at member
  split at member
  · cases member
  · next last before parts =>
    have among {part : List Char} (inside : part ∈ last :: before) : part ∈ Text.splitOn '\t' text :=
      List.mem_reverse.1 (parts ▸ inside)
    rcases List.mem_append.1 member with earlier | final
    · obtain ⟨part, inside, within⟩ := List.mem_flatMap.1 earlier
      simp only [Function.comp_apply, padToTab, pad, List.mem_append, List.mem_singleton, List.mem_replicate] at within
      rcases within with (first | blank) | ⟨-, blank⟩
      · exact .inl (Text.mem_of_mem_splitOn (among (List.mem_cons_of_mem _ (List.mem_reverse.1 inside))) first)
      · exact .inr blank
      · exact .inr blank
    · exact .inl (Text.mem_of_mem_splitOn (among List.mem_cons_self) final)

/-- No line is broken again. -/
theorem newline_notMem_wrap {available : Nat} {text line : List Char} (member : line ∈ wrap available text) :
    '\n' ∉ line := by
  intro inside
  obtain ⟨whole, among, parts⟩ := List.mem_flatMap.1 member
  obtain ⟨part, divided, rfl⟩ := List.mem_map.1 parts
  rcases mem_cut inside with kept | blank
  · rcases mem_expandTabs (subset_divide divided (List.mem_of_mem_take kept)) with original | blank
    · exact Text.separator_notMem_splitOn among original
    · exact absurd blank (by decide)
  · exact absurd blank (by decide)

end Bookbinder.Terminal
