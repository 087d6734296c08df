import Bookbinder.Pairs
import Bookbinder.Shell.Syntax

/-!
The text of a script while it is read: what is left of it, the line, and a token that was looked at
already.
-/

set_option autoImplicit false

namespace Bookbinder.Shell

/-- The operators before what a stream is redirected to. -/
inductive Arrow where
  | openFile (mode : OpenMode)
  | duplicate
  /-- The text follows in the script. Whether tabs at the beginnings of its lines are dropped. -/
  | document (dropsTabs : Bool)
  deriving DecidableEq, Repr

inductive Token where
  | endOfText
  | newline
  | semicolon
  | background
  | andThen
  | orElse
  | pipe
  | opening
  | closing
  | endOfBranch
  | arrow (stream : Nat) (arrow : Arrow)
  | word (value : Word)
  | keyword (text : String)

/-- A token as complaints name it. -/
def Token.shown : Token → String
  | .endOfText => "end of file"
  | .newline => "newline"
  | .semicolon => "\";\""
  | .background => "\"&\""
  | .andThen => "\"&&\""
  | .orElse => "\"||\""
  | .pipe => "\"|\""
  | .opening => "\"(\""
  | .closing => "\")\""
  | .endOfBranch => "\";;\""
  | .arrow _ _ => "redirection"
  | .word _ => "word"
  | .keyword text => "\"" ++ text ++ "\""

/-- Whether a list of commands ends at a token. -/
def Token.endsList : Token → Bool
  | .endOfText | .closing | .endOfBranch => true
  | .keyword text =>
    ["do", "done", "elif", "else", "esac", "fi", "then", "\x7d"].contains text
  | _ => false

def Token.isKeyword (token : Token) (text : String) : Bool :=
  match token with
  | .keyword found => found == text
  | _ => false

structure Source where
  text : Chars
  line : Nat
  /-- Lines that were taken out of the text after the one that is read. -/
  skipped : Nat
  pending : Option Token
  /-- Words with what they stand for where a command starts. -/
  aliases : List (Chars × Chars)
  /-- The words that have just been replaced, each with the length of the text after it: none of them is
  replaced again in what stands for it. -/
  replaced : List (Chars × Nat)

def Source.start (text : Chars) (aliases : List (Chars × Chars)) : Source :=
  ⟨text, 1, 0, none, aliases, []⟩

/-- What a word stands for where a command starts. -/
def Source.alias? (source : Source) (word : Chars) : Option Chars :=
  if source.replaced.any fun (other, rest) => other == word && rest ≤ source.text.length then none
  else Pairs.get? source.aliases word

/-- What is wrong with a script, and where. -/
structure SyntaxFault where
  line : Nat
  message : String
  deriving DecidableEq, Repr

/-- Reading from a place in a script on. -/
abbrev Reading (α : Type) := StateT Source (Except SyntaxFault) α

namespace Reading

def fail {α : Type} (message : String) : Reading α := fun source => .error ⟨source.line, message⟩

def unexpected {α : Type} (token : Token) : Reading α := fail (token.shown ++ " unexpected")

def unexpectedFor {α : Type} (token : Token) (expected : String) : Reading α :=
  fail (token.shown ++ " unexpected (expecting " ++ expected ++ ")")

/-- Takes so many characters, and the lines that end among them. -/
def take (count : Nat) : Reading Chars := do
  let source ← get
  let taken := source.text.take count
  let ends := taken.count '\n'
  let skipped := if ends = 0 then 0 else source.skipped
  set {
    source with
    text := source.text.drop count
    line := source.line + ends + skipped
    skipped := source.skipped - skipped }
  return taken

def takeWhile (condition : Char → Bool) : Reading Chars := do
  take ((← get).text.takeWhile condition).length

/-- Passes over lines that are joined to the next one. -/
def joinLines : Nat → Reading Unit
  | 0 => pure ()
  | fuel + 1 => do
    match (← get).text with
    | '\\' :: '\n' :: _ =>
      let _ ← take 2
      joinLines fuel
    | _ => pure ()

/-- The character that comes next, lines being joined. -/
def peek : Reading (Option Char) := do
  joinLines (← get).text.length
  return (← get).text.head?

/-- Takes the next character if it is the one given. -/
def accept (c : Char) : Reading Bool := do
  if (← peek) = some c then
    let _ ← take 1
    return true
  return false

/-- Name characters, lines being joined. -/
def name : Nat → Reading Chars
  | 0 => return []
  | fuel + 1 => do
    match ← peek with
    | some c =>
      if isNameCharacter c then
        let _ ← take 1
        return c :: (← name fuel)
      else return []
    | none => return []

/-- Puts what a word stands for in front of the text. -/
def replace (word value : Chars) : Reading Unit :=
  modify fun source => {
    source with
    text := value ++ source.text
    replaced := (word, source.text.length) :: source.replaced }

/-- Reads a text from its beginning, with the same aliases. -/
def within {α : Type} (text : Chars) (reading : Reading α) : Reading α := do
  let source ← get
  set (Source.start text source.aliases)
  let result ← reading
  set source
  return result

def unread (token : Token) : Reading Unit := modify fun source => { source with pending := token }

/-- Whether a line is joined to the next one. -/
def joinsNext (line : Chars) : Bool := (line.reverse.takeWhile (· = '\\')).length % 2 = 1

/-- The lines of a document, how many they are with the mark that ends it, and the text after them. Where
lines may be joined, a mark that is joined to the line before it is none. -/
def documentLines (dropsTabs mayJoin : Bool) (mark : Chars) : Nat → Bool → Chars → Chars × Nat × Chars
  | 0, _, text => ([], 0, text)
  | fuel + 1, isJoined, text =>
    if text.isEmpty then ([], 0, [])
    else
      let line := text.takeWhile (· ≠ '\n')
      let rest := text.drop (line.length + 1)
      let ending := (text.drop line.length).take 1
      let line := if dropsTabs && !isJoined then line.dropWhile (· = '\t') else line
      if line = mark ∧ !isJoined then ([], 1, rest)
      else
        let (more, count, after) :=
          documentLines dropsTabs mayJoin mark fuel (mayJoin && joinsNext line) rest
        (line ++ ending ++ more, count + 1, after)

/-- Cuts a document out of the lines after the current one. -/
def document (dropsTabs mayJoin : Bool) (mark : Chars) : Reading Chars := do
  let source ← get
  let here := source.text.takeWhile (· ≠ '\n')
  let below := source.text.drop (here.length + 1)
  let (content, count, after) :=
    documentLines dropsTabs mayJoin mark (below.length + 1) false below
  let text := if here.length < source.text.length then here ++ '\n' :: after else here
  set { source with text := text, skipped := source.skipped + count }
  return content

/-- The word that marks the end of a document, and whether it is quoted. -/
def mark : Nat → Reading (Chars × Bool)
  | 0 => return ([], false)
  | fuel + 1 => do
    match ← peek with
    | none => return ([], false)
    | some c =>
      if endsWord c then return ([], false)
      let _ ← take 1
      if c = '\\' then
        let escaped ← take 1
        let (rest, _) ← mark fuel
        return (escaped ++ rest, true)
      else if c = '\'' ∨ c = '"' then
        let inside ← takeWhile (· ≠ c)
        let _ ← take 1
        let (rest, _) ← mark fuel
        return (inside ++ rest, true)
      else
        let (rest, isQuoted) ← mark fuel
        return (c :: rest, isQuoted)

end Reading

end Bookbinder.Shell
