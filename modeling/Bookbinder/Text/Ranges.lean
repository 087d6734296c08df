/-!
Sets of characters given by ranges of code points, both ends included; among them the blank characters, which
separate words where text is laid out.
-/

set_option autoImplicit false

namespace Bookbinder.Text

def inRanges (ranges : List (Nat × Nat)) (code : Nat) : Bool :=
  ranges.any fun range => range.1 ≤ code && code ≤ range.2

theorem inRanges_eq_true_iff (ranges : List (Nat × Nat)) (code : Nat) :
    inRanges ranges code = true ↔ ∃ range ∈ ranges, range.1 ≤ code ∧ code ≤ range.2 := by
  simp [inRanges]

end Bookbinder.Text

namespace Bookbinder.Text

/-- The blank characters of all scripts, the four information separators included. -/
def blankRanges : List (Nat × Nat) :=
  [
    (0x0009, 0x000d), (0x001c, 0x0020), (0x0085, 0x0085), (0x00a0, 0x00a0), (0x1680, 0x1680),
    (0x2000, 0x200a), (0x2028, 0x2029), (0x202f, 0x202f), (0x205f, 0x205f), (0x3000, 0x3000) ]

def blank (c : Char) : Bool := inRanges blankRanges c.toNat

theorem blank_of_isWhitespace {c : Char} (white : c.isWhitespace = true) : blank c = true := by
  simp only [Char.isWhitespace, Bool.or_eq_true, decide_eq_true_eq] at white
  rcases white with ((h | h) | h) | h <;> subst h <;> decide

end Bookbinder.Text
