import Mathlib.Algebra.Ring.Nat
import Mathlib.Data.List.Induction
import Bookbinder.Terminal.Cells
import Bookbinder.Text.Ranges

/-!
Measuring a text in cells. A text is measured from the front, and all that is known of what was measured
is where measuring stands: after a text that takes up cells, or behind a joiner, which takes over the
next character. Clusters are found along another way, which differs from this one where a text begins with a
joiner; the main statement on them is that even then the clusters are at most two cells off, so that a text that
was cut is at most two cells too wide.
-/

set_option autoImplicit false

namespace Bookbinder.Terminal

/-! ### Where measuring stands -/

/-- The last character that took up a cell and whether the next character is passed over, behind a text. -/
def standing : Option Char → Bool → List Char → Option Char × Bool
  | last, joining, [] => (last, joining)
  | last, true, _ :: rest => standing last false rest
  | last, false, c :: rest =>
    if c = joiner then standing last true rest
    else if c = wideSelector then standing none false rest
    else if Text.cellWidth c = 0 then standing last false rest
    else standing (some c) false rest

/-- What a character adds that follows a character which is still to be selected. -/
def bonus : Option Char → Nat
  | some base => if widens base then 1 else 0
  | none => 0

theorem cellsFrom_cons (last : Option Char) (c : Char) (rest : List Char) :
    cellsFrom last false (c :: rest) =
      if c = joiner then cellsFrom last true rest
      else if c = wideSelector then bonus last + cellsFrom none false rest
      else if Text.cellWidth c = 0 then cellsFrom last false rest
      else Text.cellWidth c + cellsFrom (some c) false rest := by
  cases last <;> rfl

theorem cellsFrom_append (last : Option Char) (joining : Bool) (text more : List Char) :
    cellsFrom last joining (text ++ more) =
      cellsFrom last joining text +
        cellsFrom (standing last joining text).1 (standing last joining text).2 more := by
  fun_induction standing last joining text <;> grind [cellsFrom, cellsFrom_cons]

theorem standing_append (last : Option Char) (joining : Bool) (text more : List Char) :
    standing last joining (text ++ more) =
      standing (standing last joining text).1 (standing last joining text).2 more := by
  fun_induction standing last joining text <;> grind [standing]

/-- Only a joiner leaves something to take over. -/
theorem ends_of_standing {text : List Char} (joining : (standing none false text).2 = true) :
    ∃ before, text = before ++ [joiner] := by
  have all (last : Option Char) (joined : Bool) (text : List Char)
      (left : (standing last joined text).2 = true) :
      text = [] ∧ joined = true ∨ ∃ before, text = before ++ [joiner] := by
    fun_induction standing last joined text with
    | case1 last joined => exact .inl ⟨rfl, left⟩
    | case2 last c rest ih =>
      rcases ih left with ⟨-, absurd⟩ | ⟨before, rfl⟩
      · cases absurd
      · exact .inr ⟨c :: before, rfl⟩
    | case3 last rest ih =>
      rcases ih left with ⟨rfl, -⟩ | ⟨before, rfl⟩
      · exact .inr ⟨[], rfl⟩
      · exact .inr ⟨joiner :: before, rfl⟩
    | case4 last rest _ ih | case5 last c rest _ _ _ ih | case6 last c rest _ _ _ ih =>
      rcases ih left with ⟨-, absurd⟩ | ⟨before, rfl⟩
      · cases absurd
      · exact .inr ⟨_ :: before, rfl⟩
  rcases all none false text joining with ⟨-, absurd⟩ | ends
  · cases absurd
  · exact ends

/-- What stands before a text matters only if a selector makes it wide. -/
theorem measure_of_not_widens {base : Char} (narrow : widens base = false) (joining : Bool) (text : List Char) :
    cellsFrom (some base) joining text = cellsFrom none joining text ∧
      (standing (some base) joining text).2 = (standing none joining text).2 := by
  induction text generalizing joining with
  | nil => exact ⟨rfl, rfl⟩
  | cons c rest ih =>
    cases joining with
    | true => exact ih false
    | false =>
      simp only [cellsFrom_cons, standing, bonus, narrow]
      grind

/-! ### Clusters and cells -/

/-- The cells of the clusters together. -/
def total (found : List Cluster) : Nat := (found.map Cluster.width).sum

@[simp] theorem total_nil : total [] = 0 := rfl

@[simp] theorem total_cons (cluster : Cluster) (found : List Cluster) :
    total (cluster :: found) = cluster.width + total found := by
  simp [total]

theorem total_reverse (found : List Cluster) : total found.reverse = total found := by
  simp [total, List.sum_reverse]

namespace Clusters

@[simp] theorem attach_last (state : Clusters) (c : Char) (wider : Nat) :
    (state.attach c wider).last = state.last := by
  unfold attach
  split <;> rfl

@[simp] theorem attach_joining (state : Clusters) (c : Char) (wider : Nat) :
    (state.attach c wider).joining = state.joining := by
  unfold attach
  split <;> rfl

@[simp] theorem attach_found_ne_nil (state : Clusters) (c : Char) (wider : Nat) :
    (state.attach c wider).found ≠ [] := by
  unfold attach
  split <;> simp

theorem total_attach {state : Clusters} (some : state.found ≠ []) (c : Char) (wider : Nat) :
    total (state.attach c wider).found = total state.found + wider := by
  unfold attach
  split
  · next none => exact absurd none some
  · next found => simp [found]; omega

/-- A text with so many cells that was measured up to some place, and the clusters found in it. They part
where the text begins with a joiner: there it takes over the next character when it is measured, and does not when
clusters are found, so that for a while either of the two passes over what the other one does not. -/
inductive Tracks (state : Clusters) (count : Nat) (last : Option Char) (joining : Bool) : Prop
  | start (none : state = {}) (empty : count = 0) (fresh : last = .none) (free : joining = false)
  | apart (some : state.found ≠ []) (parted : state.joining = !joining) (none : state.last = .none)
      (empty : count = 0) (fresh : last = .none)
  | together (some : state.found ≠ []) (same : state.joining = joining)
      (near : count ≤ total state.found + 2)
      (nearer : count + bonus last ≤ total state.found + 2 + bonus state.last)

end Clusters

/-- No wide character can be selected to be wide. -/
theorem cellWidth_of_widens {c : Char} (wide : widens c = true) : Text.cellWidth c ≤ 1 := by
  obtain ⟨bases, member, from_base, to_base⟩ := (Text.inRanges_eq_true_iff _ _).1 wide
  have apart : ∀ bases ∈ Text.emojiBaseRanges, ∀ wides ∈ Text.wideRanges,
      bases.2 < wides.1 ∨ wides.2 < bases.1 := by
    decide +kernel
  have narrow : Text.inRanges Text.wideRanges c.toNat = false := by
    refine Bool.eq_false_iff.2 fun within => ?_
    obtain ⟨wides, among, from_wide, to_wide⟩ := (Text.inRanges_eq_true_iff _ _).1 within
    rcases apart bases member wides among with before | after <;> omega
  unfold Text.cellWidth
  rw [narrow]
  split
  · exact Nat.le_refl 1
  · split <;> simp

theorem cellWidth_add_bonus (c : Char) : Text.cellWidth c + bonus (some c) ≤ 2 := by
  simp only [bonus]
  split
  · next wide => exact Nat.add_le_add_right (cellWidth_of_widens wide) 1
  · exact Text.cellWidth_le_two c

namespace Clusters

theorem Tracks.step {state : Clusters} {count : Nat} {last : Option Char} {joining : Bool}
    (tracks : state.Tracks count last joining) (c : Char) :
    (state.step c).Tracks (count + cellsFrom last joining [c]) (standing last joining [c]).1
      (standing last joining [c]).2 := by
  have small := cellWidth_add_bonus c
  cases tracks with
  | start none empty fresh free =>
    subst none empty fresh free
    by_cases joins : c = joiner
    · refine .apart ?_ ?_ ?_ ?_ ?_ <;> simp [Clusters.step, standing, cellsFrom, joins]
    · refine .together ?_ ?_ ?_ ?_ <;>
        simp only [Clusters.step, standing, cellsFrom, joins] <;> grind [attach, total, bonus]
  | apart some parted none empty fresh =>
    subst empty fresh
    have kept := total_attach some c 0
    cases joining with
    | true =>
      by_cases joins : c = joiner
      · refine .apart ?_ ?_ ?_ ?_ ?_ <;>
          simp [Clusters.step, standing, cellsFrom, joins, parted, none, some]
      · refine .together ?_ ?_ ?_ ?_ <;>
          simp only [Clusters.step, standing, cellsFrom, joins, parted, none] <;>
          grind [attach_last, attach_joining, attach_found_ne_nil, total_cons, bonus]
    | false =>
      by_cases joins : c = joiner
      · refine .apart ?_ ?_ ?_ ?_ ?_ <;>
          simp [Clusters.step, standing, cellsFrom, joins, parted, none]
      · refine .together ?_ ?_ ?_ ?_ <;>
          simp only [Clusters.step, standing, cellsFrom, joins, parted, none] <;>
          grind [attach_last, attach_joining, attach_found_ne_nil, bonus]
  | together some same near nearer =>
    subst same
    have kept := total_attach some c 0
    have wider := total_attach some c 1
    cases joins : state.joining <;>
      refine .together ?_ ?_ ?_ ?_ <;>
      simp only [Clusters.step, standing, cellsFrom, joins] <;>
      grind [attach_last, attach_joining, attach_found_ne_nil, total_cons, bonus]

theorem tracks (text : List Char) :
    (text.foldl Clusters.step {}).Tracks (cells text) (standing none false text).1
      (standing none false text).2 := by
  induction text using List.reverseRecOn with
  | nil => exact .start rfl rfl rfl rfl
  | append_singleton text c ih =>
    rw [List.foldl_append, cells, cellsFrom_append, standing_append]
    exact ih.step c

/-- A character goes into the last cluster or begins a new one. -/
theorem found_step (state : Clusters) (c : Char) :
    ∃ cluster more, (state.step c).found = cluster :: more ∧ more <:+ state.found := by
  have attached (wider : Nat) :
      ∃ cluster more, (state.attach c wider).found = cluster :: more ∧ more <:+ state.found := by
    unfold attach
    split
    · next none => exact ⟨_, [], rfl, List.nil_suffix⟩
    · next cluster more found => exact ⟨_, more, rfl, found ▸ List.suffix_cons cluster more⟩
  unfold Clusters.step
  split
  · exact attached 0
  split
  · exact attached 0
  split
  · split
    · split
      · exact attached 1
      · exact attached 0
    · exact attached 0
  split
  · exact attached 0
  · exact ⟨_, _, rfl, List.suffix_rfl⟩

end Clusters

theorem cells_le_total (text : List Char) : cells text ≤ total (clusters text) + 2 := by
  rw [clusters, total_reverse]
  cases Clusters.tracks text with
  | start none empty => omega
  | apart some parted none empty => omega
  | together some same near => exact near

/-- The first clusters of a text are those of the text that they hold. -/
theorem clusters_of_first {text : List Char} {found : List Cluster} (first : found <+: clusters text) :
    clusters (found.flatMap Cluster.chars) = found := by
  induction text using List.reverseRecOn with
  | nil => rw [List.prefix_nil.1 first]; rfl
  | append_singleton text c ih =>
    obtain ⟨cluster, more, step, kept⟩ := Clusters.found_step (text.foldl Clusters.step {}) c
    have whole : clusters (text ++ [c]) = more.reverse ++ [cluster] := by
      simp [clusters, step]
    rw [whole] at first
    rcases List.prefix_concat_iff.1 first with all | before
    · rw [all, ← whole, chars_clusters]
    · exact ih (before.trans (List.reverse_prefix.2 kept))

/-- What is left of clusters that are cut: the first of them, and a blank for the one that would be cut. -/
theorem cutClusters_parts (width : Nat) (found : List Cluster) :
    ∃ first, first <+: found ∧
      (total first ≤ width ∧ cutClusters width found = first.flatMap Cluster.chars ∨
        total first < width ∧ cutClusters width found = first.flatMap Cluster.chars ++ [' ']) := by
  induction found generalizing width with
  | nil => exact ⟨[], List.prefix_rfl, .inl ⟨Nat.zero_le _, rfl⟩⟩
  | cons cluster rest ih =>
    by_cases full : width = 0
    · exact ⟨[], List.nil_prefix, .inl ⟨Nat.zero_le _, by simp [cutClusters, full]⟩⟩
    by_cases fits : cluster.width ≤ width
    · obtain ⟨first, before, parts⟩ := ih (width - cluster.width)
      refine ⟨cluster :: first, List.cons_prefix_cons.2 ⟨rfl, before⟩, ?_⟩
      simp only [cutClusters, full, fits, if_true, if_false, total_cons, List.flatMap_cons, List.append_assoc]
      rcases parts with ⟨within, cut⟩ | ⟨within, cut⟩
      · exact .inl ⟨by omega, by rw [cut]⟩
      · exact .inr ⟨by omega, by rw [cut]⟩
    · refine ⟨[], List.nil_prefix, .inr ⟨Nat.pos_of_ne_zero full, ?_⟩⟩
      simp [cutClusters, full, fits]

theorem cells_blank (last : Option Char) (joining : Bool) : cellsFrom last joining [' '] ≤ 1 := by
  cases joining with
  | true => exact Nat.zero_le 1
  | false =>
    rw [cellsFrom_cons, if_neg (by decide), if_neg (by decide), if_neg (by decide)]
    exact Nat.le_refl 1

/-- A text that was cut is no more than two cells too wide. -/
theorem cells_cut_le (width : Nat) (text : List Char) : cells (cut width text) ≤ width + 2 := by
  unfold cut
  split
  · omega
  · obtain ⟨first, before, parts⟩ := cutClusters_parts width (clusters text)
    have near := cells_le_total (first.flatMap Cluster.chars)
    rw [clusters_of_first before] at near
    rcases parts with ⟨within, cut⟩ | ⟨within, cut⟩
    · rw [cut]; omega
    · have blank := cells_blank (standing none false (first.flatMap Cluster.chars)).1
        (standing none false (first.flatMap Cluster.chars)).2
      rw [cut, cells, cellsFrom_append, ← cells]
      omega

end Bookbinder.Terminal
