import Bookbinder.Text.Split

/-!
Words that may have been meant by a word that is not known. The likeness of two words is the share of
their characters that lie in common runs: the longest run first, then the longest ones on both sides
of it.
-/

set_option autoImplicit false

namespace Bookbinder.CommandLine

/-- The length of the common beginning of two texts. -/
def commonStart : List Char → List Char → Nat
  | a :: as, b :: bs => if a = b then commonStart as bs + 1 else 0
  | _, _ => 0

/-- A run that two texts have in common: where it starts in each, and its length. -/
structure Run where
  left : Nat
  right : Nat
  size : Nat
  deriving DecidableEq, Repr

/-- The longest run, the first of several. -/
def longestRun (left right : List Char) : Run :=
  let starts := (List.range left.length).flatMap fun i =>
    (List.range right.length).map fun j => (i, j)
  starts.foldl
    (fun best start =>
      let size := commonStart (left.drop start.1) (right.drop start.2)
      if size > best.size then ⟨start.1, start.2, size⟩ else best)
    ⟨0, 0, 0⟩

/-- The number of characters in common runs, looked for at most so many levels deep. -/
def commonCount : Nat → List Char → List Char → Nat
  | 0, _, _ => 0
  | depth + 1, left, right =>
    let run := longestRun left right
    if run.size = 0 then 0
    else
      run.size + commonCount depth (left.take run.left) (right.take run.right) +
        commonCount depth (left.drop (run.left + run.size)) (right.drop (run.right + run.size))

/-- A word that is known, how many characters it has in common with the word that is not, and how
many both have together. -/
structure Likeness where
  word : String
  common : Nat
  total : Nat
  deriving DecidableEq, Repr

def likeness (unknown known : String) : Likeness :=
  ⟨known, 2 * commonCount known.length known.toList unknown.toList, known.length + unknown.length⟩

/-- At least three fifths of the characters have to be in common. -/
def Likeness.isClose (likeness : Likeness) : Bool := 5 * likeness.common ≥ 3 * likeness.total

/-- The order of preference: the greater share, then the word that comes later. -/
def Likeness.isPreferred (a b : Likeness) : Bool :=
  b.common * a.total < a.common * b.total ||
    (a.common * b.total == b.common * a.total && b.word ≤ a.word)

/-- The three closest words, in alphabetical order. -/
def suggestions (unknown : String) (known : List String) : List String :=
  let close := (known.map (likeness unknown)).filter Likeness.isClose
  let best := (close.mergeSort Likeness.isPreferred).take 3
  (best.map Likeness.word).mergeSort fun a b => a ≤ b

end Bookbinder.CommandLine
