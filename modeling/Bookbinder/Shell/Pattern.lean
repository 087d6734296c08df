import Bookbinder.Shell.Syntax

/-!
Patterns for text. A star stands for any text, a question mark for any character, and brackets for one of
several; what is quoted stands for itself.
-/

set_option autoImplicit false

namespace Bookbinder.Shell

/-- A character and whether it is quoted. -/
abbrev Mark := Char × Bool

abbrev Pattern := List Mark

namespace Pattern

def literal (text : Chars) : Pattern := text.map fun c => (c, true)

def text (pattern : Pattern) : Chars := pattern.map Prod.fst

def isActive (mark : Mark) (c : Char) : Bool := mark == (c, false)

/-- Whether a pattern may stand for more than itself. -/
def isOpen (pattern : Pattern) : Bool := pattern.any fun mark => !mark.2 && "*?[".toList.contains mark.1

/-- The classes of characters that have names. -/
def classHolds (name : String) (c : Char) : Bool :=
  match name with
  | "alnum" => c.isAlphanum
  | "alpha" => c.isAlpha
  | "blank" => isBlank c
  | "cntrl" => c.toNat < 0x20 || c.toNat = 0x7f
  | "digit" => c.isDigit
  | "graph" => 0x21 ≤ c.toNat && c.toNat < 0x7f
  | "lower" => c.isLower
  | "print" => 0x20 ≤ c.toNat && c.toNat < 0x7f
  | "punct" => 0x21 ≤ c.toNat && c.toNat < 0x7f && !c.isAlphanum
  | "space" => c == ' ' || (0x09 ≤ c.toNat && c.toNat ≤ 0x0d)
  | "upper" => c.isUpper
  | "xdigit" => c.isDigit || ('a' ≤ c && c ≤ 'f') || ('A' ≤ c && c ≤ 'F')
  | _ => false

/-- The name of a class at the beginning of a pattern, and what follows it. -/
def readClass? (pattern : Pattern) : Option (String × Pattern) :=
  match pattern with
  | ('[', false) :: (':', _) :: rest =>
    let name := rest.takeWhile fun mark => mark.1.isAlpha
    match rest.drop name.length with
    | (':', _) :: (']', _) :: rest => some (String.ofList (text name), rest)
    | _ => none
  | _ => none

/-- Whether a character is one of those in brackets, and what follows them. There is none if they stay
open. The first character in them does not close them. -/
def readSet (c : Char) : Nat → Bool → Pattern → Option (Bool × Pattern)
  | 0, _, _ => none
  | _ + 1, _, [] => none
  | fuel + 1, isFirst, mark :: rest => do
    if !isFirst && isActive mark ']' then return (false, rest)
    match readClass? (mark :: rest) with
    | some (name, rest) =>
      let (others, after) ← readSet c fuel false rest
      return (classHolds name c || others, after)
    | none =>
      match rest with
      | ('-', false) :: last :: more =>
        if isActive last ']' then
          let (others, after) ← readSet c fuel false rest
          return (c == mark.1 || others, after)
        else
          let (others, after) ← readSet c fuel false more
          return ((mark.1 ≤ c && c ≤ last.1) || others, after)
      | _ =>
        let (others, after) ← readSet c fuel false rest
        return (c == mark.1 || others, after)

/-- Whether a character fits brackets that have been opened, and what follows them. -/
def fitsSet? (c : Char) (pattern : Pattern) : Option (Bool × Pattern) :=
  match pattern with
  | ('!', false) :: rest => (readSet c (rest.length + 1) true rest).map fun (found, after) => (!found, after)
  | rest => readSet c (rest.length + 1) true rest

/-- Every step takes something from the pattern or from the text, which bounds their number. -/
def fitsWithin : Nat → Pattern → Chars → Bool
  | 0, _, _ => false
  | _ + 1, [], rest => rest.isEmpty
  | fuel + 1, mark :: pattern, rest =>
    if isActive mark '*' then
      fitsWithin fuel pattern rest ||
        match rest with
        | [] => false
        | _ :: others => fitsWithin fuel (mark :: pattern) others
    else
      match rest with
      | [] => false
      | c :: others =>
        if isActive mark '?' then fitsWithin fuel pattern others
        else
          let set := if isActive mark '[' then fitsSet? c pattern else none
          match set with
          | some (found, after) => found && fitsWithin fuel after others
          | none => mark.1 == c && fitsWithin fuel pattern others

/-- Whether a pattern stands for the whole of a text. -/
def fits (pattern : Pattern) (whole : Chars) : Bool :=
  fitsWithin (pattern.length + whole.length + 1) pattern whole

/-- A text without what a pattern stands for at one end, the shortest or the longest there is. -/
def trim (pattern : Pattern) (atFront isLongest : Bool) (whole : Chars) : Chars :=
  let lengths := List.range (whole.length + 1)
  let lengths := if isLongest then lengths.reverse else lengths
  let removed (length : Nat) : Chars :=
    if atFront then whole.take length else whole.drop (whole.length - length)
  match lengths.find? fun length => fits pattern (removed length) with
  | none => whole
  | some length => if atFront then whole.drop length else whole.take (whole.length - length)

end Pattern

example : Pattern.fits [('a', false), ('*', false), ('[', false), ('x', false), ('-', false),
    ('z', false), (']', false)] "abcy".toList = true := by
  decide +kernel

end Bookbinder.Shell
