import Bookbinder.Proofs.FileSystem.Leads
import Bookbinder.Proofs.FileSystem.Standing

/-!
File systems as trees: every entry stands in a directory. Main statements: what is made or taken away
keeps a tree a tree, and the text of a spot without a link on the way to it leads to that spot alone.
-/

set_option autoImplicit false

namespace Bookbinder.FileSystem

/-- Every entry stands in a directory, under a name that leads down. -/
structure IsTree (files : FileSystem) : Prop where
  parent : ∀ {directory : Spot} {name : String} {entry : Entry},
    files.entryAt? (directory ++ [name]) = some entry → files.isDirectory directory = true
  isSpot : ∀ {spot : Spot} {entry : Entry}, files.entryAt? spot = some entry → IsSpot spot

theorem entryAt?_of_isDirectory {files : FileSystem} {spot : Spot}
    (directory : files.isDirectory spot = true) :
    ∃ serial mode, files.entryAt? spot = some (.directory serial mode) := by
  unfold isDirectory at directory
  split at directory
  · next serial mode present => exact ⟨serial, mode, present⟩
  · cases directory

theorem mem_entries {files : FileSystem} {spot : Spot} {entry : Entry}
    (present : files.entryAt? spot = some entry) : (spot, entry) ∈ files.entries := by
  rw [entryAt?] at present
  generalize files.entries = pairs at present
  induction pairs with
  | nil => cases present
  | cons pair rest ih =>
    obtain ⟨other, value⟩ := pair
    rw [Pairs.get?] at present
    split at present
    · next same =>
      cases present
      rw [same]
      exact List.mem_cons_self
    · exact List.mem_cons_of_mem _ (ih present)

namespace IsTree

variable {files after : FileSystem} {spot : Spot}

theorem of_entries (above : ∀ pair ∈ files.entries, IsSpot pair.1 ∧
    (pair.1 = [] ∨ files.isDirectory pair.1.dropLast = true)) : files.IsTree where
  parent present := by
    have directory := (above _ (mem_entries present)).2
    rwa [List.dropLast_concat, or_iff_right (by simp)] at directory
  isSpot present := (above _ (mem_entries present)).1

/-- Above an entry there are directories only. -/
theorem isDirectory_of_prefix (tree : files.IsTree) {place : Spot} {entry : Entry}
    (present : files.entryAt? spot = some entry) (above : place <+: spot) (proper : place ≠ spot) :
    files.isDirectory place = true := by
  obtain ⟨names, rfl⟩ := above
  induction names generalizing place with
  | nil => simp at proper
  | cons name rest ih =>
    rw [List.append_cons] at present
    by_cases last : rest = []
    · rw [last, List.append_nil] at present
      exact tree.parent present
    · have below := ih present (by simpa using last)
      obtain ⟨serial, mode, here⟩ := entryAt?_of_isDirectory below
      exact tree.parent here

/-- There is nothing below what is not a directory. -/
theorem isBare (tree : files.IsTree) (notDirectory : files.isDirectory spot = false) :
    files.IsBare spot := by
  intro name more
  cases present : files.entryAt? (spot ++ name :: more) with
  | none => rfl
  | some entry =>
    have directory := tree.isDirectory_of_prefix present (List.prefix_append spot _) (by simp)
    rw [notDirectory] at directory
    cases directory

theorem leadsDown (tree : files.IsTree) {entry : Entry} (present : files.entryAt? spot = some entry) :
    Descends spot := by
  intro name member
  obtain ⟨valid, notUp, _⟩ := tree.isSpot present name member
  exact LeadsDown.of_isName valid notUp

theorem leadsDown_of_signAt? (tree : files.IsTree) {sign : Sign}
    (present : files.signAt? spot = some sign) : Descends spot := by
  rw [signAt?, Option.map_eq_some_iff] at present
  obtain ⟨entry, held, _⟩ := present
  exact tree.leadsDown held

theorem of_gains (tree : files.IsTree) {directory : Spot} {name : String} {entry : Entry}
    (gains : Gains files after (directory ++ [name]) entry) (vacancy : files.Vacancy directory name) :
    after.IsTree where
  parent {place other held} present := by
    rw [gains.entryAt?] at present
    split at present
    · next same =>
      obtain ⟨rfl, _⟩ := List.append_inj' same rfl
      exact gains.isDirectory_of_true vacancy.present
    · exact gains.isDirectory_of_true (tree.parent present)
  isSpot {place held} present := by
    rw [gains.entryAt?] at present
    split at present
    · next same =>
      obtain ⟨serial, mode, above⟩ := entryAt?_of_isDirectory vacancy.present
      rw [← same]
      intro part member
      rcases List.mem_append.1 member with inside | last
      · exact tree.isSpot above part inside
      · rw [List.mem_singleton.1 last]
        exact ⟨vacancy.isName, vacancy.notUp, vacancy.short⟩
    · exact tree.isSpot present

theorem of_loses (tree : files.IsTree) (loses : Loses files after spot)
    (notDirectory : files.isDirectory spot = false) : after.IsTree where
  parent {place name entry} present := by
    obtain ⟨serial, mode, here⟩ := entryAt?_of_isDirectory (tree.parent (loses.entryAt?_of_some present))
    have kept : place ≠ spot := by
      rintro rfl
      rw [tree.parent (loses.entryAt?_of_some present)] at notDirectory
      cases notDirectory
    have still := loses.entryAt? place
    rw [if_neg kept, here] at still
    simp [isDirectory, still]
  isSpot present := tree.isSpot (loses.entryAt?_of_some present)

theorem congr (tree : files.IsTree) (same : ∀ spot, after.signAt? spot = files.signAt? spot) :
    after.IsTree := by
  have before {spot : Spot} {entry : Entry} (present : after.entryAt? spot = some entry) :
      ∃ held, files.entryAt? spot = some held := by
    have sign := same spot
    cases held : files.entryAt? spot with
    | none => simp [signAt?, held, present] at sign
    | some entry => exact ⟨entry, rfl⟩
  constructor
  · intro directory name entry present
    obtain ⟨held, there⟩ := before present
    rw [isDirectory_congr same]
    exact tree.parent there
  · intro spot entry present
    obtain ⟨held, there⟩ := before present
    exact tree.isSpot there

end IsTree

/-- No link stands at a spot or on the way to it. -/
def IsClear (files : FileSystem) (spot : Spot) : Prop :=
  ∀ place, place <+: spot → ∀ target, files.signAt? place ≠ some (.link target)

namespace IsClear

variable {files : FileSystem} {spot : Spot}

theorem of_prefix (clear : files.IsClear spot) {place : Spot} (above : place <+: spot) :
    files.IsClear place :=
  fun other before => clear other (before.trans above)

theorem snoc (clear : files.IsClear spot) {name : String}
    (noLink : ∀ target, files.signAt? (spot ++ [name]) ≠ some (.link target)) :
    files.IsClear (spot ++ [name]) := by
  intro place above
  rcases List.prefix_concat_iff.1 above with rfl | before
  · exact noLink
  · exact clear place before

theorem leads (clear : files.IsClear spot) {start : Spot} {names : List String}
    (down : Descends names) (way : start ++ names = spot) :
    Leads files (fun place => place <+: spot) 0 start names spot := by
  induction names generalizing start with
  | nil =>
    rw [← way, List.append_nil]
    exact .done start
  | cons name rest ih =>
    rw [List.append_cons] at way
    have above : start ++ [name] <+: spot := ⟨rest, way⟩
    refine .plain (down name (by simp)) above (clear (start ++ [name]) above) ?_
    exact ih (fun other member => down other (List.mem_cons_of_mem _ member)) way

end IsClear

/-- There is no link on the way to a directory. -/
theorem IsTree.isClear {files : FileSystem} (tree : files.IsTree) {spot : Spot}
    (standing : files.isDirectory spot = true) : files.IsClear spot := by
  intro place above target link
  have directory : files.isDirectory place = true := by
    by_cases same : place = spot
    · rw [same]
      exact standing
    · obtain ⟨serial, mode, present⟩ := entryAt?_of_isDirectory standing
      exact tree.isDirectory_of_prefix present above same
  rw [isDirectory_eq_true_iff, link] at directory
  cases directory

end Bookbinder.FileSystem
