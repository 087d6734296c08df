import Bookbinder.Text.Utf8

/-!
Scripts for the command interpreter: words, commands and what joins them. A script is made of bytes, and
each of them counts as one character. A text is written so that it stands for itself in single quotes, and
single quotes that are in it in double ones.
-/

set_option autoImplicit false

namespace Bookbinder.Shell

/-- Text as the interpreter sees it: a character for every byte. -/
abbrev Chars := List Char

def Chars.ofBytes (bytes : Text.Bytes) : Chars := bytes.map fun byte => Char.ofNat byte.toNat

def Chars.bytes (text : Chars) : Text.Bytes := text.map fun c => UInt8.ofNat c.toNat

def Chars.ofText (text : String) : Chars := .ofBytes (Text.encodeUtf8 text.toList)

def Chars.shown (text : Chars) : String := String.ofList (Text.decodeUtf8Lossy text.bytes)

/-- What is done about a parameter that is not set. -/
inductive Remedy where
  | useWord
  | assignWord
  | complain
  /-- The other way round: the word stands for a parameter that is set. -/
  | replace
  deriving DecidableEq, Repr

/-- How a file is opened. -/
inductive OpenMode where
  | reading
  /-- Whether a file that is there is kept from harm if the interpreter is asked to. -/
  | writing (isCareful : Bool)
  | appending
  | both
  deriving DecidableEq, Repr

mutual

/-- A part of a word. What is quoted is neither split into fields nor a pattern. -/
inductive Part where
  | text (value : Chars) (isQuoted : Bool)
  | parameter (name : Chars) (change : Change) (isQuoted : Bool)
  /-- What a script writes. -/
  | output (script : Script) (isQuoted : Bool)
  /-- The value of an expression. -/
  | number (expression : List Part) (isQuoted : Bool)

/-- What is made of the value of a parameter. -/
inductive Change where
  | nothing
  | length
  | remedy (remedy : Remedy) (ifEmpty : Bool) (word : List Part)
  /-- The shortest or the longest match of a pattern at one end is taken away. -/
  | trim (atFront isLongest : Bool) (pattern : List Part)
  /-- There is no such change. -/
  | bad

inductive Redirection where
  | openFile (stream : Nat) (mode : OpenMode) (name : List Part)
  | duplicate (stream : Nat) (source : List Part)
  /-- Text that stands in the script itself. -/
  | document (stream : Nat) (content : List Part)

/-- What is done if a text fits one of some patterns. -/
inductive Branch where
  | mk (patterns : List (List Part)) (body : Script)

inductive Script where
  | nothing
  /-- Assignments, the words of a command and redirections, with the line on which they start. -/
  | simple (line : Nat) (assignments : List (Chars × List Part)) (words : List (List Part))
      (redirections : List Redirection)
  | redirected (line : Nat) (body : Script) (redirections : List Redirection)
  | subshell (line : Nat) (body : Script) (redirections : List Redirection)
  | background (line : Nat) (body : Script)
  /-- Commands each of which reads what the one before it writes. -/
  | pipeline (stages : List Script)
  | negation (body : Script)
  | both (first second : Script)
  /-- The second part runs if the first one succeeds. -/
  | onSuccess (first second : Script)
  /-- The second part runs if the first one fails. -/
  | onFailure (first second : Script)
  | each (line : Nat) (name : Chars) (items : List (List Part)) (body : Script)
  | choice (condition yes no : Script)
  /-- Repeats while, or until, the condition succeeds. -/
  | loop (isUntil : Bool) (condition body : Script)
  | cases (line : Nat) (subject : List Part) (branches : List Branch)
  | define (name : Chars) (body : Script)

end

abbrev Word := List Part

instance : Inhabited Script := ⟨.nothing⟩

def Part.isQuoted : Part → Bool
  | .text _ isQuoted | .parameter _ _ isQuoted | .output _ isQuoted | .number _ isQuoted => isQuoted

/-- The text of a word in which nothing is quoted or replaced. -/
def plainText? (word : Word) : Option Chars :=
  match word with
  | [.text value false] => some value
  | _ => none

def isBlank (c : Char) : Bool := c == ' ' || c == '\t'

def isNameStart (c : Char) : Bool := c.isAlpha || c == '_'

def isNameCharacter (c : Char) : Bool := c.isAlphanum || c == '_'

def isName (text : Chars) : Bool :=
  match text with
  | [] => false
  | c :: rest => isNameStart c && rest.all isNameCharacter

/-- Parameters whose name is one of these characters stand for something of their own. -/
def isSpecial (c : Char) : Bool := c.isDigit || "@*#?$!-".toList.contains c

/-- The characters that end a word unless they are quoted. -/
def endsWord (c : Char) : Bool := isBlank c || "\n;&|<>()".toList.contains c

/-- Words that stand for themselves only where no command starts. -/
def keywords : List String :=
  ["!", "case", "do", "done", "elif", "else", "esac", "fi", "for", "if", "in", "then", "until",
    "while", "\x7b", "\x7d"]

/-- Commands in which a mistake ends the interpreter, and whose assignments stay. -/
def specialCommands : List String :=
  [".", ":", "break", "continue", "eval", "exec", "exit", "export", "local", "readonly", "return", "set",
    "shift", "times", "trap", "unset"]

/-- The other commands that the interpreter runs itself. -/
def ordinaryCommands : List String :=
  ["[", "alias", "bg", "cd", "chdir", "command", "echo", "false", "fg", "getopts", "hash", "jobs", "kill",
    "printf", "pwd", "read", "test", "true", "type", "ulimit", "umask", "unalias", "wait"]

end Bookbinder.Shell

/-! ### Quotation -/

namespace Bookbinder.Shell

/-- The quoted form of what is left of a text, of which a part in single or double quotes is open. -/
def quotedRest (isSingle : Bool) : Chars → Chars
  | [] => [if isSingle then '\'' else '"']
  | c :: rest =>
    if c = '\'' then
      if isSingle then '\'' :: '"' :: c :: quotedRest false rest else c :: quotedRest false rest
    else if isSingle then c :: quotedRest true rest
    else '"' :: '\'' :: c :: quotedRest true rest

def quoted (text : Chars) : Chars := '\'' :: quotedRest true text

/-- A name with a text that is its value. -/
def quotedPair (name : Chars) (value : Option Chars) : Chars :=
  match value with
  | some value => name ++ '=' :: quoted value
  | none => name

/-- Quotes are all that is added. -/
theorem filter_quotedRest (isSingle : Bool) (text : Chars) :
    (quotedRest isSingle text).filter (fun c => c != '\'' && c != '"') =
      text.filter fun c => c != '\'' && c != '"' := by
  induction text generalizing isSingle with
  | nil => cases isSingle <;> rfl
  | cons c rest ih =>
    by_cases isQuote : c = '\''
    · subst isQuote
      cases isSingle <;> simp [quotedRest, ih]
    · cases isSingle <;> simp [quotedRest, isQuote, ih, List.filter_cons]

example : quoted "it's".toList = "'it'\"'\"'s'".toList := by decide +kernel

end Bookbinder.Shell
