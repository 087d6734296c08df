import Bookbinder.Shell.Source

/-!
How scripts are read: words with what is replaced in them, commands, and what joins commands. One line with
all that belongs to it is read at a time, since a mistake in a later line does not keep the ones before it
from running.
-/

set_option autoImplicit false

namespace Bookbinder.Shell

/-- What a row of parts stands in. -/
inductive Enclosure where
  | bare
  | quotes
  /-- A text that stands in the script itself. -/
  | document
  /-- A word in the braces of a parameter. -/
  | braces (isQuoted : Bool)
  /-- An expression, within so many parentheses of its own. -/
  | number (depth : Nat)
  deriving DecidableEq, Repr

namespace Enclosure

def isQuoted : Enclosure → Bool
  | .bare => false
  | .braces isQuoted => isQuoted
  | .quotes | .document | .number _ => true

/-- Whether a character may mean more than itself. -/
def stops (enclosure : Enclosure) (c : Char) : Bool :=
  "\\$\x60".toList.contains c ||
    match enclosure with
    | .bare => endsWord c || c == '\'' || c == '"'
    | .quotes => c == '"'
    | .document => false
    | .braces true => c == '"' || c == '\x7d'
    | .braces false => "'\"\n\x7d".toList.contains c
    | .number _ => c == '(' || c == ')'

/-- Whether a backslash takes the meaning from a character. -/
def escapes (enclosure : Enclosure) (c : Char) : Bool :=
  !enclosure.isQuoted || "\\$\x60".toList.contains c || (c == '"' && enclosure != .document) ||
    (c == '\x7d' && enclosure == .braces true)

/-- What is missing where a text ends too early. -/
def missing? : Enclosure → Option String
  | .bare | .document => none
  | .quotes => some "Unterminated quoted string"
  | .braces _ => some "Missing '\x7d'"
  | .number _ => some "Missing '))'"

end Enclosure

/-- The text up to the other back quote. A backslash may stand before some characters. -/
def readBackQuoted (isQuoted : Bool) : Nat → Reading Chars
  | 0 => return []
  | fuel + 1 => do
    match ← Reading.take 1 with
    | [] => Reading.fail "EOF in backquote substitution"
    | ['\x60'] => return []
    | ['\\'] =>
      let next ← Reading.take 1
      let dropped := next.all fun c => "\\$\x60".toList.contains c || (isQuoted && c == '"')
      let kept := if dropped then next else if next = ['\n'] then [] else '\\' :: next
      return kept ++ (← readBackQuoted isQuoted fuel)
    | taken => return taken ++ (← readBackQuoted isQuoted fuel)

/-- The number of the stream before an arrow. -/
def arrowStream? (text : Chars) : Option Nat :=
  match text with
  | c :: '<' :: _ | c :: '>' :: _ => if c.isDigit then some (c.toNat - '0'.toNat) else none
  | _ => none

/-- An arrow, with the stream that it is for unless that is given. -/
def readArrow (stream : Option Nat) : Reading Token := do
  if ← Reading.accept '>' then
    let stream := stream.getD 1
    if ← Reading.accept '>' then return .arrow stream (.openFile .appending)
    if ← Reading.accept '|' then return .arrow stream (.openFile (.writing false))
    if ← Reading.accept '&' then return .arrow stream .duplicate
    return .arrow stream (.openFile (.writing true))
  let _ ← Reading.take 1
  let stream := stream.getD 0
  if ← Reading.accept '<' then return .arrow stream (.document (← Reading.accept '-'))
  if ← Reading.accept '&' then return .arrow stream .duplicate
  if ← Reading.accept '>' then return .arrow stream (.openFile .both)
  return .arrow stream (.openFile .reading)

/-- An assignment: a name, an equals sign and a value. -/
def assignment? (word : Word) : Option (Chars × Word) :=
  match word with
  | .text value false :: parts =>
    let name := value.takeWhile (· ≠ '=')
    match value.drop name.length with
    | _ :: first =>
      if isName name then some (name, if first.isEmpty then parts else .text first false :: parts)
      else none
    | [] => none
  | _ => none

/-- A word in double quotes. All arguments in quotes are no word at all if there are none; otherwise what is
quoted is a word, if an empty one. -/
def quotedParts (parts : Word) : Word :=
  match parts with
  | [.parameter ['@'] .nothing _] => parts
  | _ => .text [] true :: parts

/-- All arguments, as the items of a loop. -/
def allArguments : List Word := [[.parameter ['@'] .nothing true]]

/-- The words of a simple command as far as they are read. -/
structure Simple where
  assignments : List (Chars × Word) := []
  words : List Word := []
  redirections : List Redirection := []

/-- Both scripts, unless there is none before. -/
def after (before : Option Script) (next : Script) : Script :=
  match before with
  | none => next
  | some first => .both first next

def redirectedBy (line : Nat) (redirections : List Redirection) (script : Script) : Script :=
  match script, redirections with
  | script, [] => script
  | .subshell line body _, redirections => .subshell line body redirections
  | script, redirections => .redirected line script redirections

mutual

/-- Parts up to the end of what they stand in, which is taken too. -/
def readParts : Nat → Enclosure → Reading Word
  | 0, _ => return []
  | fuel + 1, enclosure => do
    let more (part : Part) : Reading Word := return part :: (← readParts fuel enclosure)
    match ← Reading.peek with
    | none =>
      match enclosure.missing? with
      | some message => Reading.fail message
      | none => return []
    | some '\\' =>
      let _ ← Reading.take 1
      match ← Reading.take 1 with
      | [c] => more (.text (if enclosure.escapes c then [c] else ['\\', c]) true)
      | _ => more (.text ['\\'] true)
    | some '$' => more (← readDollar fuel enclosure.isQuoted)
    | some '\x60' =>
      let _ ← Reading.take 1
      let text ← readBackQuoted enclosure.isQuoted (← get).text.length.succ
      let script ← Reading.within text (readList fuel true)
      more (.output script enclosure.isQuoted)
    | some c =>
      if !enclosure.stops c then
        more (.text (← Reading.takeWhile fun c => !enclosure.stops c) enclosure.isQuoted)
      else if c = '"' then
        let _ ← Reading.take 1
        if enclosure = .quotes then return []
        let parts ← readParts fuel .quotes
        return quotedParts parts ++ (← readParts fuel enclosure)
      else if c = '\'' then
        let _ ← Reading.take 1
        let inside ← Reading.takeWhile (· ≠ '\'')
        if (← Reading.take 1).isEmpty then Reading.fail "Unterminated quoted string"
        more (.text inside true)
      else
        match enclosure with
        | .bare => return []
        | .number depth =>
          let _ ← Reading.take 1
          if c = '(' then
            return .text [c] true :: (← readParts fuel (.number (depth + 1)))
          else if depth > 0 then
            return .text [c] true :: (← readParts fuel (.number (depth - 1)))
          else if ← Reading.accept ')' then return []
          else more (.text [c] true)
        | _ =>
          if c = '\n' then Reading.fail "Missing '\x7d'"
          let _ ← Reading.take 1
          return []

/-- What a dollar sign introduces. -/
def readDollar : Nat → Bool → Reading Part
  | 0, isQuoted => return .text [] isQuoted
  | fuel + 1, isQuoted => do
    let _ ← Reading.take 1
    match ← Reading.peek with
    | some '(' =>
      let _ ← Reading.take 1
      if ← Reading.accept '(' then return .number (← readParts fuel (.number 0)) isQuoted
      let script ← readList fuel true
      match ← readToken fuel with
      | .closing => return .output script isQuoted
      | token => Reading.unexpectedFor token "\")\""
    | some '\x7b' =>
      let _ ← Reading.take 1
      readBraces fuel isQuoted
    | some c =>
      if isNameStart c then
        return .parameter (← Reading.name (← get).text.length) .nothing isQuoted
      else if isSpecial c then return .parameter (← Reading.take 1) .nothing isQuoted
      else return .text ['$'] isQuoted
    | none => return .text ['$'] isQuoted

/-- A parameter in braces, and what is made of it. -/
def readBraces : Nat → Bool → Reading Part
  | 0, isQuoted => return .text [] isQuoted
  | fuel + 1, isQuoted => do
    let nameOf (c : Char) : Reading Chars :=
      if isNameStart c then do Reading.name (← get).text.length
      else if c.isDigit then Reading.takeWhile Char.isDigit
      else Reading.take 1
    let bad : Reading Part := do
      let _ ← readParts fuel (.braces isQuoted)
      return .parameter [] .bad isQuoted
    match ← Reading.peek with
    | some '#' =>
      let _ ← Reading.take 1
      match (← Reading.peek), ((← get).text.drop 1).head? with
      | some c, following =>
        let isName := isNameStart c || c.isDigit
        if isName ∨ (following = some '\x7d' ∧ c ≠ '\x7d') then
          if !isName && !isSpecial c then bad
          else
            let name ← nameOf c
            if ← Reading.accept '\x7d' then return .parameter name .length isQuoted
            else bad
        else readChange fuel ['#'] isQuoted
      | none, _ => bad
    | some c =>
      if isNameStart c || isSpecial c then
        let name ← nameOf c
        readChange fuel name isQuoted
      else bad
    | none => bad

/-- What is made of a parameter, up to the closing brace. -/
def readChange : Nat → Chars → Bool → Reading Part
  | 0, _, isQuoted => return .text [] isQuoted
  | fuel + 1, name, isQuoted => do
    let ifEmpty ← Reading.accept ':'
    let remedied (remedy : Remedy) : Reading Part := do
      let _ ← Reading.take 1
      let word ← readParts fuel (.braces isQuoted)
      return .parameter name (.remedy remedy ifEmpty word) isQuoted
    let trimmed (atFront : Bool) (c : Char) : Reading Part := do
      let _ ← Reading.take 1
      let isLongest ← Reading.accept c
      let pattern ← readParts fuel (.braces false)
      return .parameter name (.trim atFront isLongest pattern) isQuoted
    match ← Reading.peek with
    | some '-' => remedied .useWord
    | some '=' => remedied .assignWord
    | some '?' => remedied .complain
    | some '+' => remedied .replace
    | some c =>
      if ifEmpty then
        let _ ← readParts fuel (.braces isQuoted)
        return .parameter name .bad isQuoted
      else if c = '#' then trimmed true '#'
      else if c = '%' then trimmed false '%'
      else if c = '\x7d' then
        let _ ← Reading.take 1
        return .parameter name .nothing isQuoted
      else
        let _ ← readParts fuel (.braces isQuoted)
        return .parameter name .bad isQuoted
    | none =>
      let _ ← readParts fuel (.braces isQuoted)
      return .parameter name .bad isQuoted

/-- The next token, in which no keyword is seen. -/
def readToken : Nat → Reading Token
  | 0 => return .endOfText
  | fuel + 1 => do
    let source ← get
    if let some token := source.pending then
      set { source with pending := none }
      return token
    match ← Reading.peek with
    | none => return .endOfText
    | some c =>
      if isBlank c then
        let _ ← Reading.take 1
        readToken fuel
      else if c = '#' then
        let _ ← Reading.takeWhile (· ≠ '\n')
        readToken fuel
      else if c = '<' ∨ c = '>' then readArrow none
      else if let some stream := arrowStream? (← get).text then
        let _ ← Reading.take 1
        readArrow stream
      else if endsWord c then
        let _ ← Reading.take 1
        match c with
        | '\n' => return .newline
        | '&' => return if ← Reading.accept '&' then .andThen else .background
        | '|' => return if ← Reading.accept '|' then .orElse else .pipe
        | ';' => return if ← Reading.accept ';' then .endOfBranch else .semicolon
        | '(' => return .opening
        | _ => return .closing
      else return .word (← readParts fuel .bare)

/-- The next token, with keywords. Ends of lines may be passed over. -/
def nextToken : Nat → Bool → Reading Token
  | 0, _ => return .endOfText
  | fuel + 1, overNewlines => do
    match ← readToken fuel with
    | .newline => if overNewlines then nextToken fuel overNewlines else return .newline
    | .word value =>
      match plainText? value with
      | some text =>
        let keyword := String.ofList text
        if keywords.contains keyword then return .keyword keyword
        match (← get).alias? text with
        | some replacement =>
          Reading.replace text replacement
          nextToken fuel overNewlines
        | none => return .word value
      | none => return .word value
    | token => return token

/-- A token that has to be a keyword. -/
def expectKeyword : Nat → Bool → String → Reading Unit
  | 0, _, _ => return
  | fuel + 1, overNewlines, text => do
    let token ← nextToken fuel overNewlines
    if !token.isKeyword text then Reading.unexpectedFor token ("\"" ++ text ++ "\"")

/-- What comes after an arrow. -/
def readRedirection : Nat → Nat → Arrow → Reading Redirection
  | 0, stream, _ => return .duplicate stream []
  | fuel + 1, stream, .document dropsTabs => do
    let _ ← Reading.takeWhile isBlank
    match (← Reading.peek).filter fun c => !endsWord c with
    | none => Reading.unexpected (← readToken fuel)
    | some _ =>
      let (mark, isQuoted) ← Reading.mark (← get).text.length
      let content ← Reading.document dropsTabs (!isQuoted) mark
      if isQuoted then return .document stream [.text content true]
      return .document stream (← Reading.within content (readParts fuel .document))
  | fuel + 1, stream, arrow => do
    match ← readToken fuel with
    | .word value =>
      return match arrow with
        | .openFile mode => .openFile stream mode value
        | _ => .duplicate stream value
    | token => Reading.unexpected token

/-- Redirections after a command that is more than words. -/
def readRedirections : Nat → Reading (List Redirection)
  | 0 => return []
  | fuel + 1 => do
    match ← nextToken fuel false with
    | .arrow stream arrow =>
      let redirection ← readRedirection fuel stream arrow
      return redirection :: (← readRedirections fuel)
    | token =>
      Reading.unread token
      return []

/-- The rest of a simple command that starts on a line. -/
def readSimple : Nat → Nat → Simple → Reading Script
  | 0, _, _ => return .nothing
  | fuel + 1, line, simple => do
    match ← readToken fuel with
    | .word word =>
      let source ← get
      let known := if simple.words.isEmpty then (plainText? word).bind source.alias? else none
      match known, assignment? word, simple.words with
      | some replacement, _, _ =>
        Reading.replace ((plainText? word).getD []) replacement
        readSimple fuel line simple
      | none, some assignment, [] =>
        readSimple fuel line { simple with assignments := simple.assignments ++ [assignment] }
      | _, _, _ => readSimple fuel line { simple with words := simple.words ++ [word] }
    | .arrow stream arrow =>
      let redirection ← readRedirection fuel stream arrow
      readSimple fuel line { simple with redirections := simple.redirections ++ [redirection] }
    | token =>
      match token, simple with
      | .opening, ⟨[], [word], []⟩ =>
        let token ← readToken fuel
        let .closing := token | Reading.unexpectedFor token "\")\""
        let name := (plainText? word).getD []
        if !isName name || specialCommands.contains (String.ofList name) then
          Reading.fail "Bad function name"
        return .define name (← readCommand fuel true)
      | token, simple =>
        Reading.unread token
        return .simple line simple.assignments simple.words simple.redirections

/-- The items of a loop, up to the end of the line or a semicolon. -/
def readItems : Nat → Reading (List Word)
  | 0 => return []
  | fuel + 1 => do
    match ← readToken fuel with
    | .word word => return word :: (← readItems fuel)
    | .newline | .semicolon => return []
    | token => Reading.unexpected token

/-- The loop over items, after its keyword. -/
def readEach : Nat → Nat → Reading Script
  | 0, _ => return .nothing
  | fuel + 1, line => do
    let name := match ← readToken fuel with
      | .word value => (plainText? value).getD []
      | _ => []
    if !isName name then Reading.fail "Bad for loop variable"
    let token ← nextToken fuel true
    let items ←
      if token.isKeyword "in" then readItems fuel
      else
        match token with
        | .semicolon => pure allArguments
        | token =>
          Reading.unread token
          pure allArguments
    expectKeyword fuel true "do"
    return .each line name items (← readList fuel false)

/-- The patterns of a branch, of which the first token has been read. -/
def readPatterns : Nat → Token → Reading (List Word)
  | 0, _ => return []
  | fuel + 1, token => do
    let pattern : Word := match token with
      | .word value => value
      | .keyword text => [.text text.toList false]
      | _ => []
    match ← readToken fuel with
    | .closing => return [pattern]
    | .pipe => return pattern :: (← readPatterns fuel (← readToken fuel))
    | token => Reading.unexpectedFor token "\")\""

def readBranches : Nat → Reading (List Branch)
  | 0 => return []
  | fuel + 1 => do
    let token ← nextToken fuel true
    if token.isKeyword "esac" then return []
    let first ← match token with
      | .opening => readToken fuel
      | token => pure token
    let patterns ← readPatterns fuel first
    let body ← readList fuel true
    let branch := Branch.mk patterns body
    let token ← nextToken fuel true
    match token with
    | .endOfBranch => return branch :: (← readBranches fuel)
    | token =>
      if token.isKeyword "esac" then return [branch]
      else Reading.unexpectedFor token "\";;\""

/-- A choice after its keyword, up to the keyword that ends it. -/
def readChoice : Nat → Reading Script
  | 0 => return .nothing
  | fuel + 1 => do
    let condition ← readList fuel false
    expectKeyword fuel false "then"
    let yes ← readList fuel false
    let token ← nextToken fuel false
    if token.isKeyword "elif" then return .choice condition yes (← readChoice fuel)
    else if token.isKeyword "else" then return .choice condition yes (← readList fuel false)
    else
      Reading.unread token
      return .choice condition yes .nothing

/-- A command that starts with a keyword, without the keyword at its end, which comes with it. -/
def readCompound : Nat → Nat → String → Reading (Script × Option String)
  | 0, _, _ => return (.nothing, none)
  | fuel + 1, line, keyword => do
    match keyword with
    | "if" => return (← readChoice fuel, some "fi")
    | "while" | "until" =>
      let condition ← readList fuel false
      expectKeyword fuel false "do"
      return (.loop (keyword == "until") condition (← readList fuel false), some "done")
    | "for" => return (← readEach fuel line, some "done")
    | "case" =>
      match ← readToken fuel with
      | .word subject =>
        expectKeyword fuel true "in"
        return (.cases line subject (← readBranches fuel), none)
      | token => Reading.unexpectedFor token "word"
    | "\x7b" => return (← readList fuel false, some "\x7d")
    | _ => Reading.unexpected (.keyword keyword)

def readCommand : Nat → Bool → Reading Script
  | 0, _ => return .nothing
  | fuel + 1, overNewlines => do
    let token ← nextToken fuel overNewlines
    let line := (← get).line
    match token with
    | .word _ | .arrow _ _ =>
      Reading.unread token
      readSimple fuel line {}
    | .opening =>
      let body ← readList fuel false
      let token ← readToken fuel
      let .closing := token | Reading.unexpectedFor token "\")\""
      return .subshell line body (← readRedirections fuel)
    | .keyword keyword =>
      let (script, ending) ← readCompound fuel line keyword
      if let some ending := ending then expectKeyword fuel false ending
      return redirectedBy line (← readRedirections fuel) script
    | token => Reading.unexpected token

/-- Commands that are joined by pipes after a first one. -/
def readStages : Nat → Reading (List Script)
  | 0 => return []
  | fuel + 1 => do
    match ← readToken fuel with
    | .pipe =>
      let stage ← readCommand fuel true
      return stage :: (← readStages fuel)
    | token =>
      Reading.unread token
      return []

def readPipeline : Nat → Bool → Reading Script
  | 0, _ => return .nothing
  | fuel + 1, overNewlines => do
    let token ← nextToken fuel overNewlines
    let isNegated := token.isKeyword "!"
    if !isNegated then Reading.unread token
    let first ← readCommand fuel false
    let script := match ← readStages fuel with
      | [] => first
      | stages => .pipeline (first :: stages)
    return if isNegated then .negation script else script

/-- Commands that are joined by conditions to those before them. -/
def readChain : Nat → Script → Reading Script
  | 0, before => return before
  | fuel + 1, before => do
    match ← readToken fuel with
    | .andThen => readChain fuel (.onSuccess before (← readPipeline fuel true))
    | .orElse => readChain fuel (.onFailure before (← readPipeline fuel true))
    | token =>
      Reading.unread token
      return before

/-- Commands up to a token that ends a list. -/
def readListAfter : Nat → Option Script → Bool → Reading Script
  | 0, before, _ => return before.getD .nothing
  | fuel + 1, before, mayEnd => do
    let token ← nextToken fuel true
    Reading.unread token
    let ends := match token with
      | .endOfText => true
      | token => mayEnd && token.endsList
    if ends then return before.getD .nothing
    let line := (← get).line
    let script ← readChain fuel (← readPipeline fuel false)
    let token ← readToken fuel
    match token with
    | .background => readListAfter fuel (after before (.background line script)) true
    | .semicolon => readListAfter fuel (after before script) true
    | .newline =>
      Reading.unread token
      readListAfter fuel (after before script) true
    | token =>
      Reading.unread token
      return after before script

def readList : Nat → Bool → Reading Script
  | 0, _ => return .nothing
  | fuel + 1, mayBeEmpty => readListAfter fuel none mayBeEmpty

end

/-- What is left of a line after some of its commands. There is nothing at the end of the text. -/
def readLineAfter (fuel : Nat) : Nat → Option Script → Reading (Option Script)
  | 0, before => return before
  | count + 1, before => do
    let token ← nextToken fuel false
    match token with
    | .newline => return some (before.getD .nothing)
    | .endOfText =>
      Reading.unread token
      return before
    | token =>
      Reading.unread token
      let line := (← get).line
      let script ← readChain fuel (← readPipeline fuel false)
      let token ← readToken fuel
      match token with
      | .background => readLineAfter fuel count (after before (.background line script))
      | .semicolon => readLineAfter fuel count (after before script)
      | .newline | .endOfText =>
        Reading.unread token
        readLineAfter fuel count (after before script)
      | token => Reading.unexpected token

/-- A bound on the depth of reading a text: every step takes a character or goes into something, and a word
may be replaced by what it stands for. -/
def readingDepth (source : Source) : Nat :=
  let replacements := (source.aliases.map fun pair => pair.2.length + 1).foldl (· + ·) 1
  8 * (source.text.length + 8) * replacements

/-- Reads one line with all that belongs to it. -/
def readLine : Reading (Option Script) := do
  let depth := readingDepth (← get)
  readLineAfter depth depth none

/-- Reads a text that is no script, but in which parameters are replaced. -/
def readText (text : Chars) : Except SyntaxFault Word :=
  let source := Source.start text []
  StateT.run' (readParts (readingDepth source) .document) source

end Bookbinder.Shell
