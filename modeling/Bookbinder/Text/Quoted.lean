import Bookbinder.Text.Number
import Bookbinder.Text.Printable

/-!
Quoted text, as error messages and the debug log show it. A text stands between apostrophes, or
between quotation marks if it holds an apostrophe and no quotation mark; what would not show is
written as an escape.
-/

set_option autoImplicit false

namespace Bookbinder.Text

def quoteMark (text : List Char) : Char :=
  if '\'' ∈ text ∧ '"' ∉ text then '"' else '\''

/-- An escape gives the code point in two, four or eight digits, the fewest that hold it. -/
def codeEscape (code : Nat) : List Char :=
  if code < 0x100 then '\\' :: 'x' :: hexDigits 2 code
  else if code < 0x10000 then '\\' :: 'u' :: hexDigits 4 code
  else '\\' :: 'U' :: hexDigits 8 code

def quotedChar (shows : Char → Bool) (mark c : Char) : List Char :=
  if c = mark ∨ c = '\\' then ['\\', c]
  else if c = '\n' then ['\\', 'n']
  else if c = '\r' then ['\\', 'r']
  else if c = '\t' then ['\\', 't']
  else if shows c then [c]
  else codeEscape c.toNat

def quotedBy (shows : Char → Bool) (text : String) : String :=
  let mark := quoteMark text.toList
  String.ofList (mark :: text.toList.flatMap (quotedChar shows mark) ++ [mark])

/-- Quoted, with every printable character as itself. -/
def quoted (text : String) : String := quotedBy printable text

/-- Quoted in ASCII alone. -/
def quotedAscii (text : String) : String :=
  quotedBy (fun c => printable c && c.toNat < 0x80) text

/-- Bytes quoted in ASCII, each as the character of its number. -/
def quotedBytes (bytes : List UInt8) : String :=
  let text := String.ofList (bytes.map fun byte => Char.ofNat byte.toNat)
  "b" ++ quotedBy (fun c => 0x20 ≤ c.toNat && c.toNat < 0x7f) text

/-- Code points quoted. Those that are no characters are always escaped. -/
def quotedCodes (codes : List Nat) : String :=
  let mark := quoteMark (codes.map Char.ofNat)
  let shown := codes.flatMap fun code =>
    if code.isValidChar then quotedChar printable mark (Char.ofNat code) else codeEscape code
  String.ofList (mark :: shown ++ [mark])

/-- Several quoted texts between brackets. -/
def quotedList (texts : List String) : String :=
  "[" ++ ", ".intercalate (texts.map quoted) ++ "]"

theorem codeEscape_isAscii (code : Nat) : ∀ d ∈ codeEscape code, d.toNat < 0x80 := by
  have digit : ∀ value, value < 16 → (hexDigit value).toNat < 0x80 := by decide
  have row : ∀ count n, ∀ d ∈ hexDigits count n, d.toNat < 0x80 := by
    intro count
    induction count with
    | zero => simp [hexDigits]
    | succ count ih =>
      intro n d member
      rcases List.mem_append.1 member with high | low
      · exact ih _ d high
      · rw [List.mem_singleton.1 low]
        exact digit _ (Nat.mod_lt _ (by decide))
  intro d member
  unfold codeEscape at member
  split at member <;> try split at member
  all_goals
    rcases List.mem_cons.1 member with rfl | member
    · decide
    rcases List.mem_cons.1 member with rfl | member
    · decide
    exact row _ _ d member

end Bookbinder.Text
