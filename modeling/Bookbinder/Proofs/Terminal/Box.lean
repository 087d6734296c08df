import Bookbinder.Proofs.Duration.Reading
import Bookbinder.Proofs.Terminal.Wrapping
import Bookbinder.Summary

/-!
The box around the report of a build. Main statement: in every terminal with room for a wide character the
box is closed, its lines are as wide as the terminal, but for those whose text ends in a joiner, and it holds what the
report says, blanks aside, in its order.
-/

set_option autoImplicit false

namespace Bookbinder.Terminal

/-! ### Rows of a box -/

theorem isPlain_narrow {text : List Char} (narrow : ∀ c ∈ text, Text.cellWidth c = 1) : IsPlain text :=
  fun c member => .inr (by rw [narrow c member]; decide)

/-- Characters that take up one cell each, behind another text. -/
theorem cellsFrom_narrow (last : Option Char) (joining : Bool) {text : List Char}
    (narrow : ∀ c ∈ text, Text.cellWidth c = 1) :
    cellsFrom last joining text = text.length - joining.toNat := by
  have plain := isPlain_narrow narrow
  have each {text : List Char} (narrow : ∀ c ∈ text, Text.cellWidth c = 1) :
      (text.map Text.cellWidth).sum = text.length := by
    rw [List.map_congr_left narrow, List.map_const', List.sum_replicate_nat, Nat.mul_one]
  cases joining with
  | false => rw [cellsFrom_plain last plain, each narrow]; rfl
  | true =>
    cases text with
    | nil => rfl
    | cons c rest =>
      rw [cellsFrom, cellsFrom_plain last (isPlain_cons.1 plain).2, each (List.forall_mem_cons.1 narrow).2]
      rfl

theorem cells_narrow {text : List Char} (narrow : ∀ c ∈ text, Text.cellWidth c = 1) : cells text = text.length := by
  rw [cells, cellsFrom_narrow none false narrow]
  rfl

theorem cellWidth_replicate (count : Nat) {single : Char} (narrow : Text.cellWidth single = 1) :
    ∀ c ∈ List.replicate count single, Text.cellWidth c = 1 := by
  intro c member
  rw [List.eq_of_mem_replicate member, narrow]

theorem cells_replicate (count : Nat) {single : Char} (narrow : Text.cellWidth single = 1) :
    cells (List.replicate count single) = count := by
  rw [cells_narrow (cellWidth_replicate count narrow), List.length_replicate]

theorem cells_blanks (count : Nat) : cells (List.replicate count ' ') = count :=
  cells_replicate count (by decide)

theorem cells_pad_le (width : Nat) (text : List Char) : cells (pad width text) ≤ max (cells text) width := by
  have blanks := cellsFrom_narrow (standing none false text).1 (standing none false text).2
    (cellWidth_replicate (width - cells text) (by decide : Text.cellWidth ' ' = 1))
  rw [List.length_replicate] at blanks
  rw [pad, cells, cellsFrom_append, blanks, ← cells]
  omega

/-- Borders are drawn with narrow characters. -/
theorem cellWidth_border : ∀ c ∈ ['│', '─', '╭', '╮', '╰', '╯'], Text.cellWidth c = 1 := by
  -- The check runs over the list: for `∀ c ∈ _` all characters there are would be gone through.
  have checked : (['│', '─', '╭', '╮', '╰', '╯'].all fun c => Text.cellWidth c == 1) = true := by decide +kernel
  exact fun c member => eq_of_beq (List.all_eq_true.1 checked c member)

theorem measure_border {text : List Char} (drawn : ∀ c ∈ text, c ∈ ['│', '─', '╭', '╮', '╰', '╯']) :
    IsPlain text ∧ cells text = text.length := by
  have narrow : ∀ c ∈ text, Text.cellWidth c = 1 := fun c member => cellWidth_border c (drawn c member)
  exact ⟨isPlain_narrow narrow, cells_narrow narrow⟩

/-- A text between the side borders, two blanks before it and some behind it. -/
def bordered (shown : List Char) (blanks : Nat) : List Char :=
  '│' :: ' ' :: ' ' :: shown ++ (List.replicate blanks ' ' ++ ['│'])

/-- The joiner at the end of a text takes over what stands behind the text. -/
theorem cells_bordered (shown : List Char) (blanks : Nat) :
    cells (bordered shown blanks) = cells shown + blanks + 4 - (standing none false shown).2.toNat := by
  have wide : Text.cellWidth '│' = 1 := cellWidth_border '│' (by decide)
  have blank : Text.cellWidth ' ' = 1 := by decide
  obtain ⟨same, joins⟩ := measure_of_not_widens (by decide : widens ' ' = false) false shown
  have narrow : ∀ c ∈ List.replicate blanks ' ' ++ ['│'], Text.cellWidth c = 1 :=
    List.forall_mem_append.2 ⟨cellWidth_replicate blanks blank, by simpa using wide⟩
  have behind := cellsFrom_narrow (standing (some ' ') false shown).1 (standing (some ' ') false shown).2 narrow
  have before (c : Char) (last : Option Char) (rest : List Char) (notJoiner : c ≠ joiner)
      (notSelector : c ≠ wideSelector) (narrow : Text.cellWidth c = 1) :
      cellsFrom last false (c :: rest) = 1 + cellsFrom (some c) false rest := by
    rw [cellsFrom_cons, if_neg notJoiner, if_neg notSelector, narrow, if_neg Nat.one_ne_zero]
  rw [bordered, cells, List.cons_append, List.cons_append, List.cons_append,
    before '│' _ _ (by decide) (by decide) wide, before ' ' _ _ (by decide) (by decide) blank,
    before ' ' _ _ (by decide) (by decide) blank, cellsFrom_append, behind, same, joins, cells, List.length_append,
    List.length_replicate, List.length_singleton]
  have := Bool.toNat_le (standing none false shown).2
  omega

namespace Row

@[simp] theorem cells_nil : cells [] = 0 := rfl

@[simp] theorem cells_cons (part : List Char) (row : Row) : cells (part :: row) = Terminal.cells part + cells row :=
  rfl

@[simp] theorem cells_append (row more : Row) : cells (row ++ more) = cells row + cells more := by
  induction row with
  | nil => simp
  | cons part rest ih => simp [ih, Nat.add_assoc]

@[simp] theorem text_cons (part : List Char) (row : Row) : text (part :: row) = part ++ text row := rfl

@[simp] theorem text_append (row more : Row) : text (row ++ more) = text row ++ text more :=
  List.flatten_append

end Row

theorem cells_side : cells ['│'] = 1 := (measure_border (by simp)).2

theorem cells_room : cells [' ', ' '] = 2 := by decide

/-- The row of the terminal in which a row stands between the room and the borders. -/
def framed (available : Nat) (row : Row) : List Char :=
  (((((row.between [' ', ' '] [' ', ' ']).fit (available + 4))).between ['│'] ['│']).crop (available + 6)).text

/-- A row that fills the columns with the room at its sides is bordered as it is. -/
theorem framed_of_fit {available : Nat} {row full : Row}
    (fit : (row.between [' ', ' '] [' ', ' ']).fit (available + 4) = full) (cells : full.cells = available + 4) :
    framed available row = '│' :: full.text ++ ['│'] := by
  have whole : (full.between ['│'] ['│']).cells ≤ available + 6 := by
    rw [Row.between, List.cons_append, Row.cells_cons, Row.cells_append, Row.cells_cons, Row.cells_nil, cells_side]
    omega
  rw [framed, fit, Row.crop_of_le whole]
  simp [Row.between, Row.text]

theorem framed_of_cells {available : Nat} {row : Row} (cells : row.cells = available) :
    framed available row = '│' :: ([' ', ' '] ++ row.text ++ [' ', ' ']) ++ ['│'] := by
  have full : (row.between [' ', ' '] [' ', ' ']).cells = available + 4 := by
    rw [Row.between, List.cons_append, Row.cells_cons, Row.cells_append, Row.cells_cons, Row.cells_nil, cells_room]
    omega
  rw [framed_of_fit (Row.fit_of_eq full) full]
  simp [Row.between, Row.text]

/-- A single text that is at most as wide as the columns and the room behind it takes some of that room. -/
theorem framed_single {available : Nat} (some : 0 < available) {shown : List Char}
    (near : cells shown ≤ available + 2) :
    ∃ blanks, cells shown + blanks = available + 2 ∧ framed available [shown] = bordered shown blanks := by
  have whole : (Row.between [' ', ' '] [' ', ' '] [shown]).cells = cells shown + 4 := by
    simp only [Row.between, List.cons_append, List.nil_append, Row.cells_cons, Row.cells_nil, cells_room]
    omega
  rcases Nat.lt_trichotomy (cells shown) available with narrow | exact | wide
  · refine ⟨available - cells shown + 2, by omega, ?_⟩
    have fit : (Row.between [' ', ' '] [' ', ' '] [shown]).fit (available + 4) =
        [[' ', ' '], shown, [' ', ' '], List.replicate (available - cells shown) ' '] := by
      rw [Row.fit, whole, if_pos (by omega), Nat.add_sub_add_right]
      rfl
    rw [framed_of_fit fit (by simp only [Row.cells_cons, Row.cells_nil, cells_room, cells_blanks]; omega)]
    simp [Row.text, bordered, Nat.add_comm _ 2, List.replicate_add, List.replicate_succ]
  · refine ⟨2, by omega, ?_⟩
    rw [framed_of_cells (by simpa using exact)]
    simp [Row.text, bordered, List.replicate_succ]
  · have fit : (Row.between [' ', ' '] [' ', ' '] [shown]).fit (available + 4) =
        [' ', ' '] :: Row.keepWithin (available + 2) [shown, [' ', ' ']] := by
      rw [Row.fit, whole, if_neg (by omega), Row.crop, whole, if_neg (by omega)]
      simp only [Row.between, List.cons_append, List.nil_append, Row.keepWithin, cells_room]
      rw [if_pos (by omega)]
      rfl
    obtain one | two : cells shown = available + 1 ∨ cells shown = available + 2 := by omega
    · have kept : Row.keepWithin (available + 2) [shown, [' ', ' ']] = [shown, [' ']] := by
        have last : resize 1 [' ', ' '] = [' '] := by decide
        simp only [Row.keepWithin, cells_room, one]
        rw [if_pos (by omega), if_neg (by omega), show available + 2 - (available + 1) = 1 by omega, last]
      refine ⟨1, by omega, ?_⟩
      rw [kept] at fit
      rw [framed_of_fit fit (by
        simp only [Row.cells_cons, Row.cells_nil, cells_room, one, show cells [' '] = 1 by decide]
        omega)]
      simp [Row.text, bordered]
    · have kept : Row.keepWithin (available + 2) [shown, [' ', ' ']] = [shown] := by
        rw [Row.keepWithin, two, if_neg (by omega), resize, if_neg (by omega), cut, if_pos two.le, pad, two,
          Nat.sub_self, List.replicate_zero, List.append_nil]
      refine ⟨0, by omega, ?_⟩
      rw [kept] at fit
      rw [framed_of_fit fit (by simp only [Row.cells_cons, Row.cells_nil, cells_room, two]; omega)]
      simp [Row.text, bordered]

/-- What stands between the borders for a line that is at most two cells too wide: a text, which is the line if
that is not too wide at all, and blanks, so that all the cells are filled. -/
theorem framed_line {available : Nat} (some : 0 < available) {line : List Char}
    (near : cells line ≤ available + 2) :
    ∃ shown blanks, cells shown + blanks = available + 2 ∧ (cells line ≤ available → shown = line) ∧
      (∀ c ∈ shown, c ∈ line ∨ c = ' ') ∧ framed available (Row.fit available [line]) = bordered shown blanks := by
  have single : Row.cells [line] = cells line := by simp
  rcases Nat.lt_trichotomy (cells line) available with narrow | exact | wide
  · refine ⟨line, available - cells line + 2, by omega, fun _ => rfl, fun _ => .inl, ?_⟩
    rw [Row.fit, single, if_pos narrow, framed_of_cells (by simp [cells_blanks]; omega)]
    simp [Row.text, bordered, List.replicate_succ']
  · obtain ⟨blanks, filled, text⟩ := framed_single some near
    refine ⟨line, blanks, filled, fun _ => rfl, fun _ => .inl, ?_⟩
    rw [Row.fit_of_eq (single.trans exact), text]
  · have resized : Row.fit available [line] = [resize available line] := by
      rw [Row.fit, single, if_neg (by omega), Row.crop, single, if_neg (by omega), Row.keepWithin, if_neg (by omega)]
    rw [resized, resize, if_neg (by omega)]
    have still : cells (pad available (cut available line)) ≤ available + 2 := by
      have := cells_pad_le available (cut available line)
      have := cells_cut_le available line
      omega
    obtain ⟨blanks, filled, text⟩ := framed_single some still
    refine ⟨_, blanks, filled, fun narrow => absurd narrow (by omega), fun c member => ?_, text⟩
    rcases List.mem_append.1 member with kept | blank
    · exact mem_cut kept
    · exact .inr (List.eq_of_mem_replicate blank)

/-! ### The whole box -/

theorem cellWidth_rule : Text.cellWidth '─' = 1 := cellWidth_border '─' (by decide)

theorem isPlain_rule (count : Nat) : IsPlain (Panel.rule count) :=
  isPlain_narrow (cellWidth_replicate count cellWidth_rule)

theorem cells_rule (count : Nat) : cells (Panel.rule count) = count := cells_replicate count cellWidth_rule

/-- A line that begins and ends with these characters. -/
def HasEnds (left right : Char) (line : List Char) : Prop := ∃ inner, line = left :: inner ++ [right]

/-- What stands between the ends of a line. -/
def between (line : List Char) : List Char := line.tail.dropLast

/-- Lines as wide as the terminal; one whose text ends in a joiner is a cell narrower, since the joiner takes over
the character behind the text. -/
def Fills (columns : Nat) (line : List Char) : Prop :=
  cells line = columns ∨
    cells line + 1 = columns ∧
      ∃ text blanks, line = '│' :: text ++ joiner :: List.replicate blanks ' ' ++ ['│']

theorem bordered_fills {columns blanks : Nat} {shown : List Char} (filled : cells shown + blanks + 4 = columns) :
    HasEnds '│' '│' (bordered shown blanks) ∧ Fills columns (bordered shown blanks) := by
  refine ⟨⟨' ' :: ' ' :: shown ++ List.replicate blanks ' ', by simp [bordered]⟩, ?_⟩
  have measured := cells_bordered shown blanks
  cases joins : (standing none false shown).2 with
  | false => exact .inl (by rw [measured, joins, filled]; rfl)
  | true =>
    obtain ⟨before, rfl⟩ := ends_of_standing joins
    refine .inr ⟨?_, ' ' :: ' ' :: before, blanks, by simp [bordered]⟩
    rw [measured, joins, filled]
    exact Nat.sub_add_cancel (show 1 ≤ columns by omega)

theorem ink_between_bordered (shown : List Char) (blanks : Nat) :
    ink (between (bordered shown blanks)) = ink shown := by
  have blank : Text.blank ' ' = true := by decide
  rw [bordered, between, List.cons_append, List.tail_cons, ← List.append_assoc, List.dropLast_concat]
  simp [ink_cons, blank, ink_blanks]

/-- The upper border is as wide as the terminal, whatever room there is for the title. -/
theorem cells_topLine {columns : Nat} (wide : 4 < columns) {title : String} (plain : IsPlain title.toList) :
    HasEnds '╭' '╮' (Panel.topLine columns title) ∧ cells (Panel.topLine columns title) = columns := by
  have titlePlain : IsPlain (' ' :: title.toList ++ [' ']) := by
    have blank : IsPlain [' '] := by decide
    exact isPlain_append.2 ⟨isPlain_cons.2 ⟨.inl (by decide), plain⟩, blank⟩
  obtain ⟨shownPlain, within, -⟩ := cut_plain (columns - 4) titlePlain
  have left : IsPlain ['╭', '─'] ∧ cells ['╭', '─'] = 2 := measure_border (by simp)
  have right : IsPlain ['─', '╮'] ∧ cells ['─', '╮'] = 2 := measure_border (by simp)
  rw [Panel.topLine, if_neg (by omega)]
  generalize cut (columns - 4) (' ' :: title.toList ++ [' ']) = shown at shownPlain within ⊢
  refine ⟨⟨['─'] ++ Panel.rule _ ++ shown ++ Panel.rule _ ++ ['─'], by simp; rfl⟩, ?_⟩
  simp only [cells_append, isPlain_append, isPlain_rule, cells_rule, left, right, shownPlain, and_self]
  omega

theorem cells_bottomLine {columns : Nat} (wide : 2 ≤ columns) :
    HasEnds '╰' '╯' (Panel.bottomLine columns) ∧ cells (Panel.bottomLine columns) = columns := by
  have left : IsPlain ['╰'] ∧ cells ['╰'] = 1 := measure_border (by simp)
  have right : IsPlain ['╯'] ∧ cells ['╯'] = 1 := measure_border (by simp)
  refine ⟨⟨_, rfl⟩, ?_⟩
  rw [Panel.bottomLine, List.cons_append, ← List.singleton_append]
  simp only [cells_append, isPlain_append, isPlain_rule, cells_rule, left, right, and_self]
  omega

theorem newline_notMem_borders (columns : Nat) {title : String} (whole : '\n' ∉ title.toList) :
    '\n' ∉ Panel.topLine columns title ∧ '\n' ∉ Panel.bottomLine columns := by
  have rule (count : Nat) : '\n' ∉ Panel.rule count := fun member =>
    absurd (List.eq_of_mem_replicate member) (by decide)
  have shown : '\n' ∉ cut (columns - 4) (' ' :: (title.toList ++ [' '])) := fun member => by
    rcases mem_cut member with inside | blank
    · simp [whole] at inside
    · exact absurd blank (by decide)
  constructor
  · unfold Panel.topLine
    split <;> simp [rule, shown]
  · simp [Panel.bottomLine, rule]

namespace Panel

/-- What is written between the upper and the lower border. -/
def middle (available : Nat) (text : List Char) : List (List Char) :=
  [bordered [] (available + 2)] ++
    (wrap available (withoutMoves text)).map (fun line => framed available (Row.fit available [line])) ++
    [bordered [] (available + 2)]

/-- The lines of a panel where there is room for text. -/
theorem render_eq (panel : Panel) {available : Nat} (some : 0 < available) (plain : IsPlain panel.title.toList) :
    panel.render (available + 6) =
      (topLine (available + 6) panel.title :: middle available (Text.join "\n" panel.lines).toList ++
        [bottomLine (available + 6)]).map String.ofList := by
  have top := (cells_topLine (show 4 < available + 6 by omega) plain).2
  have bottom := (cells_bottomLine (show 2 ≤ available + 6 by omega)).2
  have single {line : List Char} (filled : cells line = available + 6) :
      Row.crop (available + 6) [line] = [line] :=
    Row.crop_of_le (by simp [filled])
  have filling : Row.cells [List.replicate (available + 4) ' '] = available + 4 := by simp [cells_blanks]
  have room : (((Row.fit (available + 4) [List.replicate (available + 4) ' ']).between ['│'] ['│']).crop
      (available + 6)).text = bordered [] (available + 2) := by
    have whole : (Row.between ['│'] ['│'] [List.replicate (available + 4) ' ']).cells ≤ available + 6 := by
      simp only [Row.between, List.cons_append, List.nil_append, Row.cells_cons, Row.cells_nil, cells_side, cells_blanks]
      omega
    rw [Row.fit_of_eq filling, Row.crop_of_le whole]
    simp [Row.between, Row.text, bordered, List.replicate_succ]
  rw [render, if_neg (by omega), rows, inside]
  simp only [borderWidth, roomWidth, Nat.add_sub_cancel, show available + 6 - 2 = available + 4 by omega,
    show available + 4 ≠ 0 by omega, show available ≠ 0 by omega, if_false]
  simp only [List.map_append, List.map_cons, List.map_nil, List.map_map, single top, single bottom, room, middle]
  simp [Row.text, framed, Function.comp_def]

/-- Every line between the borders is one of text in its frame. -/
theorem mem_middle {available : Nat} (some : 0 < available) {text line : List Char}
    (member : line ∈ middle available text) :
    ∃ shown blanks, cells shown + blanks = available + 2 ∧ '\n' ∉ shown ∧ line = bordered shown blanks := by
  have empty : ∃ shown blanks, cells shown + blanks = available + 2 ∧ '\n' ∉ shown ∧
      bordered [] (available + 2) = bordered shown blanks :=
    ⟨[], available + 2, Nat.zero_add _, by simp, rfl⟩
  rcases List.mem_append.1 member with start | final
  · rcases List.mem_append.1 start with first | among
    · exact List.mem_singleton.1 first ▸ empty
    · obtain ⟨wrapped, within, rfl⟩ := List.mem_map.1 among
      have near : cells wrapped ≤ available + 2 := by
        obtain ⟨whole, -, parts⟩ := List.mem_flatMap.1 within
        obtain ⟨part, -, rfl⟩ := List.mem_map.1 parts
        exact cells_cut_le available _
      obtain ⟨shown, blanks, filled, -, from_line, framed⟩ := framed_line some near
      refine ⟨shown, blanks, filled, fun inside => ?_, framed⟩
      exact (from_line _ inside).elim (newline_notMem_wrap within) (by decide)
  · exact List.mem_singleton.1 final ▸ empty

/-- The text of a panel is in its lines, blanks aside, if it is plain. -/
theorem ink_middle {available : Nat} (narrow : 2 ≤ available) {text : List Char} (plain : IsPlain text) :
    (middle available text).flatMap (fun line => ink (between line)) = ink text := by
  have still : IsPlain (withoutMoves text) ∧ ink (withoutMoves text) = ink text := by
    refine ⟨plain.subset List.filter_sublist.subset, ?_⟩
    rw [withoutMoves, ink, List.filter_filter]
    refine List.filter_congr fun c member => ?_
    have gone : movesCursor c = true → Text.blank c = true := by
      intro moves
      refine (plain c member).resolve_right ?_
      simp only [movesCursor, Bool.or_eq_true, beq_iff_eq] at moves
      rcases moves with (((rfl | rfl) | rfl) | rfl) | rfl <;> decide
    cases moves : movesCursor c with
    | false => simp
    | true => simp [gone moves]
  obtain ⟨kept, within⟩ := wrap_plain narrow still.1
  have framedInk : ∀ line ∈ wrap available (withoutMoves text),
      ink (between (framed available (Row.fit available [line]))) = ink line := by
    intro line member
    obtain ⟨shown, blanks, -, same, -, framed⟩ :=
      framed_line (by omega) (Nat.le_add_right_of_le (within line member) : cells line ≤ available + 2)
    rw [framed, ink_between_bordered, same (within line member)]
  have lines : (wrap available (withoutMoves text)).flatMap
      (fun line => ink (between (framed available (Row.fit available [line])))) = ink text := by
    rw [← still.2, ← kept, ← ink_flatMap framedInk, ink, List.filter_flatMap]
    rfl
  simp [middle, ink_between_bordered, List.flatMap_map, lines]

end Panel

end Bookbinder.Terminal

/-! ### The report of a build -/

namespace Bookbinder

open Terminal

/-- Lines that are printed one after another are read back. -/
theorem Text.lines_printed {lines : List (List Char)} (whole : ∀ line ∈ lines, '\n' ∉ line) :
    Text.lines (String.join ((lines.map String.ofList).map (· ++ "\n"))) = lines.map String.ofList ++ [""] := by
  induction lines with
  | nil => decide
  | cons line rest ih =>
    obtain ⟨first, others⟩ := List.forall_mem_cons.1 whole
    have parts := ih others
    rw [Text.lines] at parts ⊢
    rw [List.map_cons, List.map_cons, String.join_cons, String.toList_append, String.toList_append,
      String.toList_ofList, List.append_assoc, show "\n".toList = ['\n'] from rfl, List.singleton_append,
      Text.splitOn_append_separator first, List.map_cons, parts]
    rfl

theorem ink_join (lines : List String) :
    ink (Text.join "\n" lines).toList = lines.flatMap fun line => ink line.toList := by
  induction lines with
  | nil => rfl
  | cons line rest ih =>
    cases rest with
    | nil => simp [Text.join]
    | cons next more =>
      have newline : ink "\n".toList = [] := by decide
      rw [Text.join] at ih ⊢
      rw [String.intercalate_cons_cons, String.toList_append, String.toList_append, ink_append, ink_append, ih, newline,
        List.append_nil]
      simp only [List.flatMap_cons]

theorem isPlain_join {lines : List String} (plain : ∀ line ∈ lines, IsPlain line.toList) :
    IsPlain (Text.join "\n" lines).toList := by
  induction lines with
  | nil => exact isPlain_nil
  | cons line rest ih =>
    obtain ⟨first, others⟩ := List.forall_mem_cons.1 plain
    cases rest with
    | nil => simpa [Text.join] using first
    | cons next more =>
      have newline : IsPlain "\n".toList := by decide
      have joined := ih others
      rw [Text.join] at joined ⊢
      rw [String.intercalate_cons_cons, String.toList_append, String.toList_append]
      exact isPlain_append.2 ⟨isPlain_append.2 ⟨first, newline⟩, joined⟩

theorem isPlain_digits (n : Nat) : IsPlain (Text.digits 10 n).toList := by
  intro c member
  rw [Text.digits, String.toList_ofList] at member
  have digit := Nat.isDigit_of_mem_toDigits (by decide) (by decide) member
  have bounds : 48 ≤ c.toNat ∧ c.toNat ≤ 57 := by
    simpa [Char.isDigit, UInt32.le_iff_toNat_le] using digit
  refine .inr ?_
  rw [Text.cellWidth, if_pos (by simp; omega)]
  exact Nat.one_pos

theorem isPlain_ofInt (n : Int) : IsPlain (Text.ofInt n).toList := by
  cases n with
  | ofNat n => exact isPlain_digits n
  | negSucc n =>
    rw [Text.ofInt, String.toList_append]
    exact isPlain_append.2 ⟨by decide, isPlain_digits _⟩

/-- The text of a duration is plain if there is one. -/
theorem Duration.isPlain_text {duration : Duration} {text : String} (shown : duration.text = .ok text) :
    IsPlain text.toList := by
  have letters : IsPlain "s".toList ∧ IsPlain ".".toList ∧ IsPlain "m ".toList ∧ IsPlain "h ".toList ∧
      IsPlain "-".toList ∧ IsPlain "".toList ∧ IsPlain "-infs".toList := by
    decide
  cases duration with
  | undefined => cases shown
  | infinite negative =>
    cases negative <;> cases shown
    exact letters.2.2.2.2.2.2
  | finite negative mantissa exponent =>
    simp only [Duration.text] at shown
    split at shown <;> cases shown
    · unfold tenthsText
      split <;> simp only [String.toList_append, isPlain_append, isPlain_digits, letters, and_self]
    · simp only [wholeText]
      split <;> simp only [String.toList_append, isPlain_append, isPlain_digits, letters, and_self]

/-- A duration that has a number of seconds has a text. -/
theorem Duration.exists_text {duration : Duration} (finite : duration.seconds?.isSome) :
    ∃ text, duration.text = .ok text := by
  cases duration with
  | infinite negative => cases finite
  | undefined => cases finite
  | finite negative mantissa exponent =>
    simp only [Duration.text]
    split
    · exact ⟨_, rfl⟩
    · exact ⟨_, rfl⟩

namespace Summary

theorem isPlain_title (summary : Summary) : IsPlain summary.title.toList := by
  unfold title
  split <;> decide

theorem newline_notMem_title (summary : Summary) : '\n' ∉ summary.title.toList := by
  unfold title
  split <;> decide

theorem isPlain_lines {summary : Summary} {lines : List String} (told : summary.lines = .ok lines)
    (tool : ∀ text ∈ summary.tool, IsPlain text.toList)
    (step : ∀ text ∈ summary.failedStep, IsPlain text.toList) :
    ∀ line ∈ lines, IsPlain line.toList := by
  have labels : IsPlain "✅ Status: Success".toList ∧ IsPlain "❌ Status: Failed".toList ∧
      IsPlain "⏱  Duration: ".toList ∧ IsPlain "🔧 Tool: ".toList ∧ IsPlain "".toList ∧
      IsPlain "Failed step: ".toList ∧ IsPlain "None".toList ∧ IsPlain "Exit code: ".toList := by
    decide +kernel
  obtain ⟨success, failure, elapsed, used, empty, failed, none, exit⟩ := labels
  have appended {label text : String} (first : IsPlain label.toList) (second : IsPlain text.toList) :
      IsPlain (label ++ text).toList := by
    rw [String.toList_append]
    exact isPlain_append.2 ⟨first, second⟩
  simp only [Summary.lines] at told
  cases shown : summary.duration.text with
  | error fault => rw [shown] at told; cases told
  | ok duration =>
    rw [shown] at told
    cases told
    refine List.forall_mem_append.2 ⟨List.forall_mem_append.2 ⟨List.forall_mem_cons.2 ⟨?_, ?_⟩, ?_⟩, ?_⟩
    · split
      · exact success
      · exact failure
    · exact List.forall_mem_singleton.2 (appended elapsed (Duration.isPlain_text shown))
    · cases given : summary.tool with
      | none => exact fun _ absent => absurd absent List.not_mem_nil
      | some text => exact List.forall_mem_singleton.2 (appended used (tool text given))
    · split
      · exact fun _ absent => absurd absent List.not_mem_nil
      · refine List.forall_mem_cons.2 ⟨empty, List.forall_mem_cons.2 ⟨appended failed ?_,
          List.forall_mem_singleton.2 (appended exit (isPlain_ofInt _))⟩⟩
        cases given : summary.failedStep with
        | none => exact none
        | some text => exact step text given

/-- The report of a build is printed as a closed box. Its lines are as wide as the terminal unless a text ends in
a joiner, and plain texts lose nothing but blanks in it. -/
theorem panel_closed {summary : Summary} (finite : summary.duration.seconds?.isSome) {columns : Nat}
    (wide : 8 ≤ columns) :
    ∃ panel lines middle, summary.panel = .ok panel ∧ summary.lines = .ok lines ∧
      Text.lines (String.join ((panel.render columns).map (· ++ "\n"))) =
        (Panel.topLine columns panel.title :: middle ++ [Panel.bottomLine columns]).map String.ofList ++ [""] ∧
      (HasEnds '╭' '╮' (Panel.topLine columns panel.title) ∧ cells (Panel.topLine columns panel.title) = columns) ∧
      (∀ line ∈ middle, HasEnds '│' '│' line ∧ Fills columns line) ∧
      (HasEnds '╰' '╯' (Panel.bottomLine columns) ∧ cells (Panel.bottomLine columns) = columns) ∧
      ((∀ text ∈ summary.tool, IsPlain text.toList) → (∀ text ∈ summary.failedStep, IsPlain text.toList) →
        (middle.flatMap fun line => ink (between line)) = lines.flatMap fun line => ink line.toList) := by
  obtain ⟨available, rfl⟩ : ∃ available, columns = available + 6 := ⟨columns - 6, by omega⟩
  have narrow : 2 ≤ available := by omega
  obtain ⟨duration, shown⟩ := Duration.exists_text finite
  obtain ⟨lines, told⟩ : ∃ lines, summary.lines = .ok lines := by
    rw [Summary.lines, shown]
    exact ⟨_, rfl⟩
  have built : summary.panel = .ok ⟨summary.title, lines⟩ := by
    rw [panel, told]
    rfl
  have top := cells_topLine (show 4 < available + 6 by omega) summary.isPlain_title
  have bottom := cells_bottomLine (show 2 ≤ available + 6 by omega)
  refine ⟨_, lines, Panel.middle available (Text.join "\n" lines).toList, built, told, ?_, top, fun line member => ?_,
    bottom, fun tool step => ?_⟩
  · rw [Panel.render_eq _ (by omega) summary.isPlain_title]
    obtain ⟨topWhole, bottomWhole⟩ := newline_notMem_borders (available + 6) summary.newline_notMem_title
    refine Text.lines_printed (List.forall_mem_append.2 ⟨List.forall_mem_cons.2 ⟨topWhole, fun line member => ?_⟩,
      List.forall_mem_singleton.2 bottomWhole⟩)
    obtain ⟨text, blanks, -, whole, rfl⟩ := Panel.mem_middle (by omega) member
    simp [bordered, whole]
  · obtain ⟨text, blanks, filled, -, rfl⟩ := Panel.mem_middle (by omega) member
    exact bordered_fills (by omega)
  · rw [Panel.ink_middle narrow (isPlain_join (isPlain_lines told tool step)), ink_join]

/-- Wide characters in a terminal that has room for one of them, and a tab and a line break in a name. -/
def halted : Summary := ⟨false, .finite false 83 0, some "書庫 (/本/書庫)", some "make\tall\nnow", 2⟩

theorem panel_closed_halted :
    halted.duration.seconds?.isSome ∧ 8 ≤ 8 ∧
      ∃ panel lines middle, halted.panel = .ok panel ∧ halted.lines = .ok lines ∧
        Text.lines (String.join ((panel.render 8).map (· ++ "\n"))) =
          (Panel.topLine 8 panel.title :: middle ++ [Panel.bottomLine 8]).map String.ofList ++ [""] ∧
        (∀ line ∈ middle, HasEnds '│' '│' line ∧ Fills 8 line) ∧
        (middle.flatMap fun line => ink (between line)) = lines.flatMap fun line => ink line.toList := by
  have tool : ∀ text ∈ halted.tool, IsPlain text.toList := fun _ is => Option.some.inj is ▸ by decide +kernel
  have step : ∀ text ∈ halted.failedStep, IsPlain text.toList := fun _ is => Option.some.inj is ▸ by decide
  obtain ⟨panel, lines, middle, built, told, printed, -, sides, -, kept⟩ := @panel_closed halted rfl 8 (le_refl 8)
  exact ⟨rfl, le_refl 8, panel, lines, middle, built, told, printed, sides, kept tool step⟩

/-- A tool whose description ends in a joiner. -/
def joined : Summary := ⟨true, .finite false 1 0, some "a\u200d", none, 0⟩

/-- The line of the tool is a cell too narrow. -/
theorem panel_not_always_wide :
    joined.duration.seconds?.isSome ∧ ∃ panel, joined.panel = .ok panel ∧
      ∃ line ∈ panel.render 24, cells line.toList ≠ 24 := by
  refine ⟨rfl, _, rfl, String.ofList (bordered "🔧 Tool: a\u200d".toList 10), ?_, ?_⟩
  · decide +kernel
  · decide +kernel

end Summary

end Bookbinder
