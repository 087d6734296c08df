import Bookbinder.Path

/-!
Operations on paths as they are written, without a look at what exists. Main statement: what two rows
of names have in common at their beginning is a beginning of both.
-/

set_option autoImplicit false

namespace Bookbinder.PathText

def isAnchored (path : String) : Bool := path.toList.head? == some '/'

def endsInSlash (path : String) : Bool := path.toList.getLast? == some '/'

/-- A text without the slashes at its end. -/
def withoutFinalSlashes (path : String) : String :=
  String.ofList (path.toList.reverse.dropWhile (· = '/')).reverse

/-- What stands before and after the last slash. The first part keeps slashes at its end only if it
consists of nothing else. -/
def split (path : String) : String × String :=
  let reversed := path.toList.reverse
  let head := String.ofList (reversed.dropWhile (· != '/')).reverse
  let trimmed := withoutFinalSlashes head
  (if trimmed = "" then head else trimmed, String.ofList (reversed.takeWhile (· != '/')).reverse)

/-- The directory that a path stands in. -/
def parent (path : String) : String := (split path).1

/-- A name in a directory; an anchored one stands for itself. -/
def join (directory name : String) : String :=
  if isAnchored name then name
  else if directory = "" ∨ endsInSlash directory then directory ++ name
  else directory ++ "/" ++ name

/-- The parts of a text between its slashes, empty ones included. -/
def parts (path : String) : List String :=
  (Text.splitOn '/' path.toList).map String.ofList

/-- One more part after names, of which the last one comes first. -/
def addPart (anchored : Bool) (names : List String) (part : String) : List String :=
  if part = "" ∨ part = "." then names
  else if part = ".." then
    match names with
    | [] => if anchored then [] else [".."]
    | last :: others => if last = ".." then ".." :: last :: others else others
  else part :: names

/-- The shortest text for a path if no name in it is a link. Exactly two leading slashes stay. -/
def normalise (path : String) : String :=
  let anchor := Path.anchorOf path.toList
  let names := ((parts path).foldl (addPart (anchor != .here)) []).reverse
  let text := String.ofList anchor.text ++ "/".intercalate names
  if text = "" then "." else text

/-- The names that two rows have in common at their beginning. -/
def commonNames : List String → List String → List String
  | first :: others, second :: more =>
    if first = second then first :: commonNames others more else []
  | _, _ => []

theorem commonNames_self (names : List String) : commonNames names names = names := by
  induction names with
  | nil => rfl
  | cons name others ih => simp [commonNames, ih]

theorem commonNames_prefix (first second : List String) :
    commonNames first second <+: first ∧ commonNames first second <+: second := by
  fun_induction commonNames first second with
  | case1 _ _ _ ih => exact ⟨List.prefix_cons_inj _ |>.2 ih.1, List.prefix_cons_inj _ |>.2 ih.2⟩
  | case2 => simp
  | case3 => simp

/-- Whether a directory, written with one leading slash and without dots, is on the way to a place. -/
def leadsInto (directory place : String) : Bool :=
  let names (path : String) := (parts path).filter fun part => part != "" && part != "."
  "/" ++ "/".intercalate (commonNames (names place) (names directory)) == directory

end Bookbinder.PathText
