import Bookbinder.Text.CellWidth

/-!
Text measured in the cells of a terminal. Characters that belong together form a cluster, which is
never cut: marks and selectors join the cluster before them, a joiner also what follows it.
-/

set_option autoImplicit false

namespace Bookbinder.Terminal

def joiner : Char := '\u200d'

/-- The selector that asks for the wide form of the character before it. -/
def wideSelector : Char := '\ufe0f'

def widens (c : Char) : Bool := Text.inRanges Text.emojiBaseRanges c.toNat

/-- Characters that are shown as one, and the cells they take up together. -/
structure Cluster where
  chars : List Char
  width : Nat
  deriving DecidableEq, Repr

/-- The clusters found so far, the last one first; the last character that takes up a cell; and
whether the next character is joined to the cluster before it. -/
structure Clusters where
  found : List Cluster := []
  last : Option Char := none
  joining : Bool := false
  deriving Repr

namespace Clusters

/-- Adds a character to the last cluster. -/
def attach (state : Clusters) (c : Char) (wider : Nat) : Clusters :=
  match state.found with
  | [] => { state with found := [⟨[c], 0⟩] }
  | cluster :: more =>
    { state with found := ⟨cluster.chars ++ [c], cluster.width + wider⟩ :: more }

def step (state : Clusters) (c : Char) : Clusters :=
  if state.joining then { state.attach c 0 with joining := false }
  else if c = joiner then { state.attach c 0 with joining := !state.found.isEmpty }
  else if c = wideSelector then
    match state.last with
    | some base =>
      if widens base then { state.attach c 1 with last := none } else state.attach c 0
    | none => state.attach c 0
  else if Text.cellWidth c = 0 then state.attach c 0
  else { state with found := ⟨[c], Text.cellWidth c⟩ :: state.found, last := some c }

end Clusters

def clusters (text : List Char) : List Cluster :=
  (text.foldl Clusters.step {}).found.reverse

/-- The clusters of a text hold its characters in their order. -/
theorem chars_clusters (text : List Char) : (clusters text).flatMap Cluster.chars = text := by
  have attach (state : Clusters) (c : Char) (wider : Nat) :
      ((state.attach c wider).found.reverse).flatMap Cluster.chars =
        state.found.reverse.flatMap Cluster.chars ++ [c] := by
    unfold Clusters.attach
    split <;> next h => simp [h]
  have step (state : Clusters) (c : Char) :
      ((state.step c).found.reverse).flatMap Cluster.chars =
        state.found.reverse.flatMap Cluster.chars ++ [c] := by
    unfold Clusters.step
    split
    · exact attach state c 0
    split
    · exact attach state c 0
    split
    · split
      · split
        · exact attach state c 1
        · exact attach state c 0
      · exact attach state c 0
    split
    · exact attach state c 0
    · simp
  have all (state : Clusters) :
      ((text.foldl Clusters.step state).found.reverse).flatMap Cluster.chars =
        state.found.reverse.flatMap Cluster.chars ++ text := by
    induction text generalizing state with
    | nil => simp
    | cons c rest ih => simp [ih, step]
  simpa [clusters] using all {}

/-- Where measuring stands: the last character that takes up a cell, and whether the next one is
passed over. -/
def cellsFrom : Option Char → Bool → List Char → Nat
  | _, _, [] => 0
  | last, true, _ :: rest => cellsFrom last false rest
  | last, false, c :: rest =>
    if c = joiner then cellsFrom last true rest
    else if c = wideSelector then
      (match last with
        | some base => if widens base then 1 else 0
        | none => 0) + cellsFrom none false rest
    else if Text.cellWidth c = 0 then cellsFrom last false rest
    else Text.cellWidth c + cellsFrom (some c) false rest

/-- The cells that a text takes up. -/
def cells (text : List Char) : Nat := cellsFrom none false text

/-- The longest clusters from the front that fit into `width` cells; a cluster that would be cut
leaves a blank. -/
def cutClusters (width : Nat) : List Cluster → List Char
  | [] => []
  | cluster :: rest =>
    if width = 0 then []
    else if cluster.width ≤ width then cluster.chars ++ cutClusters (width - cluster.width) rest
    else [' ']

/-- The text cut to so many cells. -/
def cut (width : Nat) (text : List Char) : List Char :=
  if cells text ≤ width then text else cutClusters width (clusters text)

/-- The text filled up with blanks to so many cells. -/
def pad (width : Nat) (text : List Char) : List Char :=
  text ++ List.replicate (width - cells text) ' '

/-- Clusters in rows of at most `width` cells; `row` holds the current one, `size` cells wide. -/
def chopFrom (width : Nat) : List Char → Nat → List Cluster → List (List Char)
  | row, size, [] => if size = 0 then [] else [row]
  | row, size, cluster :: rest =>
    if size + cluster.width > width then row :: chopFrom width cluster.chars cluster.width rest
    else chopFrom width (row ++ cluster.chars) (size + cluster.width) rest

/-- A text in rows of at most `width` cells. -/
def chop (width : Nat) (text : List Char) : List (List Char) := chopFrom width [] 0 (clusters text)

end Bookbinder.Terminal
