import Bookbinder.Shell.Number
import Bookbinder.Shell.State

/-!
Options: the letters that commands take before their other arguments, and the options of the interpreter
itself, which have names as well.
-/

set_option autoImplicit false

namespace Bookbinder.Shell

/-- The options of the interpreter. Two of them have no letter, and nothing comes of them. -/
def optionNames : List (String × Option Char) :=
  [("errexit", some 'e'), ("noglob", some 'f'), ("ignoreeof", some 'I'), ("interactive", some 'i'),
    ("monitor", some 'm'), ("noexec", some 'n'), ("stdin", some 's'), ("xtrace", some 'x'),
    ("verbose", some 'v'), ("vi", some 'V'), ("emacs", some 'E'), ("noclobber", some 'C'),
    ("allexport", some 'a'), ("notify", some 'b'), ("nounset", some 'u'), ("privileged", some 'p'),
    ("nolog", none), ("debug", none)]

/-- The letters of options in the order in which they are shown. -/
def optionLetters : List Char := (optionNames.filterMap Prod.snd).reverse

def State.withOption (state : State) (letter : Char) (isOn : Bool) : State :=
  let kept (other : Char) : Bool := if other == letter then isOn else state.isOn other
  { state with options := optionLetters.filter kept }

theorem State.isOn_withOption (state : State) {letter : Char} (known : letter ∈ optionLetters)
    (isOn : Bool) : (state.withOption letter isOn).isOn letter = isOn := by
  cases isOn <;> simp [State.isOn, State.withOption, known]

namespace Running

/-- A number of at most 31 bits. -/
def natural (text : Chars) : Running Nat := do
  match Number.whole? true text with
  | some value => if 0 ≤ value ∧ value ≤ 0x7fffffff then return value.toNat else failNumber text
  | none => failNumber text

/-- The letters in one word. One that takes a value finds it after itself or in the next word. -/
def letterOptions (known : Chars) : Chars → List Chars → Running (List (Char × Chars) × List Chars)
  | [], others => return ([], others)
  | letter :: rest, others => do
    match known.dropWhile (· ≠ letter) with
    | [] => fail ("Illegal option -" ++ Chars.shown [letter])
    | _ :: ':' :: _ =>
      match rest, others with
      | [], [] => fail ("No arg for -" ++ Chars.shown [letter] ++ " option")
      | [], value :: others => return ([(letter, value)], others)
      | value, others => return ([(letter, value)], others)
    | _ =>
      let (options, others) ← letterOptions known rest others
      return ((letter, []) :: options, others)

/-- The options before the other arguments of a command. A colon in `known` follows a letter that takes a
value. -/
def readOptions (known : Chars) : Nat → List Chars → Running (List (Char × Chars) × List Chars)
  | 0, arguments => return ([], arguments)
  | fuel + 1, arguments =>
    match arguments with
    | ('-' :: letter :: letters) :: others =>
      if letter = '-' ∧ letters.isEmpty then return ([], others)
      else do
        let (options, others) ← letterOptions known (letter :: letters) others
        let (more, others) ← readOptions known fuel others
        return (options ++ more, others)
    | _ => return ([], arguments)

/-- The options of a command, and its other arguments. -/
def optionsOf (known : String) (arguments : List Chars) :
    Running (List (Char × Chars) × List Chars) :=
  readOptions known.toList (arguments.length + 1) arguments

/-- The arguments of a command that has no options. -/
def withoutOptions (arguments : List Chars) : Running (List Chars) :=
  return (← optionsOf "" arguments).2

end Running

/-- All options of the interpreter, as they are or as commands that make them so. -/
def optionListing (state : State) (isForUser : Bool) : Chars :=
  let isOn (letter : Option Char) : Bool := letter.any state.isOn
  let lines := optionNames.map fun (name, letter) =>
    if isForUser then
      (name.toList ++ List.replicate (16 - name.length) ' ' ++ (if isOn letter then "on" else "off").toList)
    else (if isOn letter then "set -o " else "set +o ").toList ++ name.toList
  let lines := if isForUser then "Current option settings".toList :: lines else lines
  lines.flatMap fun line => line ++ ['\n']

/-- What is left of some words after the options of the interpreter. -/
structure Remainder where
  rest : List Chars
  /-- Whether a word has said that there are no more options. -/
  isMarked : Bool
  /-- Whether the text of a script is to follow. -/
  isText : Bool

namespace Running

def setOption (letter : Char) (isOn : Bool) : Running Unit := do
  if !optionLetters.contains letter then fail ("Illegal option -" ++ Chars.shown [letter])
  modify fun state => state.withOption letter isOn

def setNamedOption (name : Chars) (isOn : Bool) : Running Unit := do
  match Pairs.get? optionNames (String.ofList name) with
  | none => fail ("Illegal option -o " ++ name.shown)
  | some none => return
  | some (some letter) => setOption letter isOn

/-- Sets the options whose letters are in one word. Whether the text of a script was asked for comes with
the other words. -/
def setLetters (isStart isOn : Bool) : Chars → List Chars → Running (Bool × List Chars)
  | [], others => return (false, others)
  | 'o' :: rest, others => do
    match others with
    | [] =>
      let _ ← print (optionListing (← get) isOn)
      setLetters isStart isOn rest []
    | name :: others =>
      setNamedOption name isOn
      setLetters isStart isOn rest others
  | letter :: rest, others => do
    if isStart && letter = 'c' then
      let (_, others) ← setLetters isStart isOn rest others
      return (true, others)
    else
      if !(isStart && letter = 'l') then setOption letter isOn
      setLetters isStart isOn rest others

/-- Sets the options at the beginning of some words. -/
def setOptions (isStart : Bool) : Nat → List Chars → Running Remainder
  | 0, words => return ⟨words, false, false⟩
  | fuel + 1, words => do
    match words with
    | ['-'] :: others =>
      if !isStart then
        setOption 'x' false
        setOption 'v' false
      return ⟨others, false, false⟩
    | ['-', '-'] :: others => return ⟨others, true, false⟩
    | (sign :: letters) :: others =>
      if sign ≠ '-' ∧ sign ≠ '+' then return ⟨words, false, false⟩
      let (isText, others) ← setLetters isStart (sign = '-') letters others
      let remainder ← setOptions isStart fuel others
      return { remainder with isText := isText || remainder.isText }
    | _ => return ⟨words, false, false⟩

end Running

end Bookbinder.Shell
