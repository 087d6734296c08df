import Bookbinder.CommandLine.Suggestion
import Bookbinder.Pairs
import Bookbinder.Text.Quoted

/-!
Reading the words of a command line: which options are given, with which values, and what is left.
-/

set_option autoImplicit false

namespace Bookbinder.CommandLine

/-- An option that is given. -/
inductive Given where
  | help
  | version
  | bookDir (text : String)
  | dryRun
  | summary (wanted : Bool)
  | force
  deriving DecidableEq, Repr

/-- What an option's spelling stands for: an option, or one that takes the next word as its value. -/
inductive Meaning where
  | flag (given : Given)
  | value (ofText : String → Given)

/-- The options that a command knows, by their spellings. -/
structure Vocabulary where
  /-- Spellings of two dashes and a word. -/
  long : List (String × Meaning)
  /-- Letters that may follow a single dash. -/
  short : List (Char × Given)

/-- What can be wrong with the words of a command line. -/
inductive UsageFault where
  | unknownOption (text : String) (meant : List String)
  | valueMissing (option : String)
  | valueGiven (option : String)
  | unknownCommand (text : String) (meant : List String)
  | missingCommand
  | extraWords (words : List String)
  | notDirectory (option text : String)
  deriving DecidableEq, Repr

def suggestionText : List String → String
  | [] => ""
  | [word] => " Did you mean " ++ Text.quoted word ++ "?"
  | words => " (Did you mean one of: " ++ Text.join ", " (words.map Text.quoted) ++ "?)"

def UsageFault.message : UsageFault → String
  | .unknownOption text meant =>
    "No such option " ++ Text.quoted text ++ "." ++ suggestionText meant
  | .valueMissing option => "Option " ++ Text.quoted option ++ " requires an argument."
  | .valueGiven option => "Option " ++ Text.quoted option ++ " does not take a value."
  | .unknownCommand text meant =>
    "No such command " ++ Text.quoted text ++ "." ++ suggestionText meant
  | .missingCommand => "Missing command."
  | .extraWords words =>
    "Got unexpected extra argument" ++ (if words.length = 1 then " (" else "s (") ++
      Text.join " " words ++ ")"
  | .notDirectory option text =>
    "Invalid value for " ++ Text.quoted option ++ ": Directory " ++ Text.quoted text ++
      " is a file."

/-- A fault in the form of an option is told without a reminder of the command's usage. -/
def UsageFault.showsUsage : UsageFault → Bool
  | .valueMissing _ | .valueGiven _ => false
  | _ => true

/-- Whether a word asks for options: it starts with a dash and does not end there. -/
def isOptionWord (word : String) : Bool :=
  match word.toList with
  | '-' :: _ :: _ => true
  | _ => false

/-- The spelling of an option in a word, and the value that an equals sign gives it. -/
def cutWord (word : String) : String × Option String :=
  let (spelling, value) := Text.cutAt '=' word.toList
  (String.ofList spelling, value.map String.ofList)

/-- Single letters, each of which is an option. -/
def readLetters (vocabulary : Vocabulary) (letters : List Char) : Except UsageFault (List Given) :=
  letters.mapM fun letter =>
    match Pairs.get? vocabulary.short letter with
    | some given => .ok given
    | none => .error (.unknownOption (String.ofList ['-', letter]) [])

/-- Reads one word of options. What needs the next word as its value is given as a function. -/
def readWord (vocabulary : Vocabulary) (word : String) :
    Except UsageFault (List Given ⊕ (String → Given)) :=
  let (spelling, value) := cutWord word
  match Pairs.get? vocabulary.long spelling, value with
  | some (.flag given), none => .ok (.inl [given])
  | some (.flag _), some _ => .error (.valueGiven spelling)
  | some (.value ofText), none => .ok (.inr ofText)
  | some (.value ofText), some text => .ok (.inl [ofText text])
  | none, _ =>
    if "--".toList.isPrefixOf word.toList then
      .error (.unknownOption spelling (suggestions spelling (vocabulary.long.map Prod.fst)))
    else (readLetters vocabulary (word.toList.drop 1)).map .inl

/-- The options that are given and the words that are left. Two dashes end the options, and so does
the first other word unless options and words may be mixed. -/
def readWords (vocabulary : Vocabulary) (mixed : Bool) :
    List String → Except UsageFault (List Given × List String)
  | [] => .ok ([], [])
  | word :: rest =>
    if word = "--" then .ok ([], rest)
    else if isOptionWord word then
      match readWord vocabulary word with
      | .error fault => .error fault
      | .ok (.inl given) => do
        let (others, left) ← readWords vocabulary mixed rest
        return (given ++ others, left)
      | .ok (.inr ofText) =>
        match rest with
        | [] => .error (.valueMissing (cutWord word).1)
        | value :: rest => do
          let (others, left) ← readWords vocabulary mixed rest
          return (ofText value :: others, left)
    else if mixed then do
      let (given, left) ← readWords vocabulary mixed rest
      return (given, word :: left)
    else .ok ([], word :: rest)

end Bookbinder.CommandLine
