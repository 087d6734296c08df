/-!
Control sequences that colour or move text on a terminal. Where there is no terminal they are left
out. A sequence is an escape character and an opening bracket, then parameters, then intermediate
characters, then one final character; each of the three kinds has a stretch of ASCII of its own.
-/

set_option autoImplicit false

namespace Bookbinder.Terminal

def isParameter (c : Char) : Bool := 0x30 ≤ c.toNat && c.toNat ≤ 0x3f

def isIntermediate (c : Char) : Bool := 0x20 ≤ c.toNat && c.toNat ≤ 0x2f

def isFinal (c : Char) : Bool := 0x40 ≤ c.toNat && c.toNat ≤ 0x7e

/-- The text after the rest of a sequence, if the text goes on with one. Every kind of character
stands before the next, so the first one that is neither parameter nor intermediate has to end it. -/
def afterSequence? (text : List Char) : Option (List Char) :=
  match (text.dropWhile isParameter).dropWhile isIntermediate with
  | c :: rest => if isFinal c then some rest else none
  | [] => none

theorem length_afterSequence? {text rest : List Char} (found : afterSequence? text = some rest) :
    rest.length < text.length := by
  unfold afterSequence? at found
  split at found
  next c after reached =>
    have first := (List.dropWhile_suffix (l := text) isParameter).length_le
    have second := (List.dropWhile_suffix (l := text.dropWhile isParameter) isIntermediate).length_le
    rw [reached] at second
    split at found
    · simp only [Option.some.injEq] at found
      simp only [List.length_cons, found] at second
      omega
    · simp at found
  · simp at found

def withoutSequences (text : List Char) : List Char :=
  match text with
  | [] => []
  | '\x1b' :: '[' :: others =>
    match found : afterSequence? others with
    | some rest =>
      have := length_afterSequence? found
      withoutSequences rest
    | none => '\x1b' :: '[' :: withoutSequences others
  | c :: others => c :: withoutSequences others
termination_by text.length

theorem withoutSequences_of_notMem {text : List Char} (plain : '\x1b' ∉ text) :
    withoutSequences text = text := by
  induction text with
  | nil => simp [withoutSequences]
  | cons c others ih =>
    have different : c ≠ '\x1b' := by rintro rfl; simp at plain
    rw [withoutSequences, ih (by simp_all)]
    rintro _ same
    exact absurd same different

end Bookbinder.Terminal
