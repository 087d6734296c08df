import Bookbinder.Toml.Fault
import Bookbinder.Text.Split

/-!
Strings as a configuration text writes them: literal ones between apostrophes, basic ones between
quotation marks with escapes, and both over several lines between three marks. Main statement:
reading a written basic string gives the string back.
-/

set_option autoImplicit false

namespace Bookbinder.Toml

def isControl (c : Char) : Bool := c.toNat < 0x20 || c.toNat == 0x7f

/-- A tab may stand anywhere in a string, a line feed only in one over several lines. -/
def isLegal (multiline : Bool) (c : Char) : Bool :=
  !isControl c || c == '\t' || multiline && c == '\n'

def isBlank (c : Char) : Bool := c == ' ' || c == '\t'

def isBlankOrNewline (c : Char) : Bool := isBlank c || c == '\n'

/-- What the letter after a backslash stands for. -/
def shortEscape? : Char → Option Char
  | 'b' => some '\x08'
  | 't' => some '\t'
  | 'n' => some '\n'
  | 'f' => some '\x0c'
  | 'r' => some '\r'
  | '"' => some '"'
  | '\\' => some '\\'
  | _ => none

/-- Where a reader stands in a basic string. -/
inductive QuotePlace where
  /-- Among the characters; blanks and newlines are passed over if `trim` is set. -/
  | body (trim : Bool)
  | escaped
  /-- After a backslash that ends its line but for blanks. -/
  | lineEnd
  /-- In a numeric escape: so many digits are to come, this is their value so far, and `start` is
  the text from the first digit on. -/
  | hex (digits : Nat) (value : Nat) (start : List Char)

def isScalar (code : Nat) : Bool := code < 0xd800 || 0xe000 ≤ code && code < 0x110000

/-- Reads to the end of a basic string. `sofar` holds what is read, last character first. -/
def readBasicFrom (multiline : Bool) :
    QuotePlace → List Char → List Char → Except Stop (List Char × List Char)
  | .body _, _, [] => .error ⟨.stringUnterminated, []⟩
  | .body trim, sofar, c :: rest =>
    if trim && isBlankOrNewline c then readBasicFrom multiline (.body true) sofar rest
    else if c = '"' then
      if multiline then
        match rest with
        | '"' :: '"' :: after => .ok (sofar.reverse, after)
        | _ => readBasicFrom multiline (.body false) ('"' :: sofar) rest
      else .ok (sofar.reverse, rest)
    else if c = '\\' then readBasicFrom multiline .escaped sofar rest
    else if isLegal multiline c then readBasicFrom multiline (.body false) (c :: sofar) rest
    else .error ⟨.illegalCharacter c, c :: rest⟩
  | .escaped, _, [] => .error ⟨.badEscape, []⟩
  | .escaped, sofar, c :: rest =>
    if multiline && isBlank c then readBasicFrom multiline .lineEnd sofar rest
    else if multiline && c == '\n' then readBasicFrom multiline (.body true) sofar rest
    else if c = 'u' then readBasicFrom multiline (.hex 4 0 rest) sofar rest
    else if c = 'U' then readBasicFrom multiline (.hex 8 0 rest) sofar rest
    else
      match shortEscape? c with
      | some meant => readBasicFrom multiline (.body false) (meant :: sofar) rest
      | none => .error ⟨.badEscape, rest⟩
  | .lineEnd, _, [] => .error ⟨.stringUnterminated, []⟩
  | .lineEnd, sofar, c :: rest =>
    if isBlank c then readBasicFrom multiline .lineEnd sofar rest
    else if c = '\n' then readBasicFrom multiline (.body true) sofar rest
    else .error ⟨.badEscape, c :: rest⟩
  | .hex _ _ start, _, [] => .error ⟨.badHex, start⟩
  | .hex digits value start, sofar, c :: rest =>
    match Text.hexValue? c with
    | none => .error ⟨.badHex, start⟩
    | some digit =>
      if digits ≤ 1 then
        if isScalar (value * 16 + digit) then
          readBasicFrom multiline (.body false) (Char.ofNat (value * 16 + digit) :: sofar) rest
        else .error ⟨.notScalar, rest⟩
      else readBasicFrom multiline (.hex (digits - 1) (value * 16 + digit) start) sofar rest

def readBasic (multiline : Bool) (text : List Char) : Except Stop (List Char × List Char) :=
  readBasicFrom multiline (.body false) [] text

/-- The text up to a delimiter, which has to come. All of it has to be legal. -/
def readUntil (multiline : Bool) (delimiter : String) (text : List Char) :
    Except Stop (List Char × List Char) :=
  match Text.cutAtText delimiter.toList text with
  | none => .error ⟨.delimiterExpected delimiter, []⟩
  | some (inside, rest) =>
    match inside.find? fun c => !isLegal multiline c with
    | none => .ok (inside, rest)
    | some c => .error ⟨.invalidCharacter c, text.dropWhile (isLegal multiline)⟩

/-- After the three closing marks up to two more belong to the string. -/
def takeExtraMarks (mark : Char) (read : List Char × List Char) : List Char × List Char :=
  match read with
  | (inside, c :: d :: rest) =>
    if c = mark then
      if d = mark then (inside ++ [mark, mark], rest) else (inside ++ [mark], d :: rest)
    else read
  | (inside, [c]) => if c = mark then (inside ++ [mark], []) else read
  | _ => read

/-- A line feed right after the opening marks is not part of the string. -/
def dropFirstNewline : List Char → List Char
  | '\n' :: rest => rest
  | text => text

/-- A string whose first mark has been read, on one line. -/
def readOneLine (mark : Char) (text : List Char) : Except Stop (List Char × List Char) :=
  if mark = '"' then readBasic false text else readUntil false "'" text

/-- A string at the start of a value; three marks open one over several lines. -/
def readQuoted (mark : Char) (text : List Char) : Except Stop (List Char × List Char) :=
  match text with
  | a :: b :: rest =>
    if a = mark ∧ b = mark then
      if mark = '"' then
        (readBasic true (dropFirstNewline rest)).map (takeExtraMarks mark)
      else (readUntil true "'''" (dropFirstNewline rest)).map (takeExtraMarks mark)
    else readOneLine mark text
  | _ => readOneLine mark text

/-- How a character is written in a basic string. -/
def writeChar (c : Char) : List Char :=
  if c = '"' then ['\\', '"']
  else if c = '\\' then ['\\', '\\']
  else if c = '\x08' then ['\\', 'b']
  else if c = '\t' then ['\\', 't']
  else if c = '\n' then ['\\', 'n']
  else if c = '\x0c' then ['\\', 'f']
  else if c = '\r' then ['\\', 'r']
  else if isControl c then '\\' :: 'u' :: Text.hexDigits 4 c.toNat
  else [c]

def writeBasic (text : List Char) : List Char := '"' :: text.flatMap writeChar ++ ['"']

theorem readBasicFrom_hexDigits (multiline : Bool) (sofar start rest : List Char) (code : Nat)
    (small : code < 0x10000) (scalar : isScalar code = true) :
    readBasicFrom multiline (.hex 4 0 start) sofar (Text.hexDigits 4 code ++ rest) =
      readBasicFrom multiline (.body false) (Char.ofNat code :: sofar) rest := by
  have digit (n : Nat) := Text.hexValue?_hexDigit (n % 16) (Nat.mod_lt n (by decide))
  have whole : (((code / 16 / 16 / 16 % 16) * 16 + code / 16 / 16 % 16) * 16 + code / 16 % 16) * 16 +
      code % 16 = code := by omega
  simp [Text.hexDigits, readBasicFrom, digit, whole, scalar]

theorem readBasicFrom_writeChar (sofar rest : List Char) (c : Char) :
    readBasicFrom false (.body false) sofar (writeChar c ++ rest) =
      readBasicFrom false (.body false) (c :: sofar) rest := by
  unfold writeChar
  by_cases quote : c = '"'
  · simp [quote, readBasicFrom, shortEscape?]
  by_cases backslash : c = '\\'
  · simp [backslash, readBasicFrom, shortEscape?]
  by_cases backspace : c = '\x08'
  · simp [backspace, readBasicFrom, shortEscape?]
  by_cases tab : c = '\t'
  · simp [tab, readBasicFrom, shortEscape?]
  by_cases newline : c = '\n'
  · simp [newline, readBasicFrom, shortEscape?]
  by_cases feed : c = '\x0c'
  · simp [feed, readBasicFrom, shortEscape?]
  by_cases return' : c = '\r'
  · simp [return', readBasicFrom, shortEscape?]
  by_cases control : isControl c = true
  · have small : c.toNat < 0x10000 := by
      simp [isControl] at control
      omega
    have scalar : isScalar c.toNat = true := by
      simp [isControl] at control
      simp [isScalar]
      omega
    have read := readBasicFrom_hexDigits false sofar (Text.hexDigits 4 c.toNat ++ rest) rest c.toNat
      small scalar
    simp [quote, backslash, backspace, tab, newline, feed, return', control, readBasicFrom, read,
      Char.ofNat_toNat]
  · simp [quote, backslash, backspace, tab, newline, feed, return', control, readBasicFrom, isLegal]

theorem readBasicFrom_flatMap_writeChar (sofar rest text : List Char) :
    readBasicFrom false (.body false) sofar (text.flatMap writeChar ++ '"' :: rest) =
      .ok (sofar.reverse ++ text, rest) := by
  induction text generalizing sofar with
  | nil => simp [readBasicFrom]
  | cons c more ih =>
    simp only [List.flatMap_cons, List.append_assoc, readBasicFrom_writeChar, ih]
    simp

theorem readBasic_writeBasic (text rest : List Char) :
    readBasic false ((writeBasic text).tail ++ rest) = .ok (text, rest) := by
  simp [readBasic, writeBasic, readBasicFrom_flatMap_writeChar]

end Bookbinder.Toml
