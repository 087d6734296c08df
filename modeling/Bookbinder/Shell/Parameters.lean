import Bookbinder.Shell.Options
import Bookbinder.Shell.Syntax

/-!
Commands on parameters: variables and what is marked about them, arguments, options among arguments, and lines
that are read into variables.
-/

set_option autoImplicit false

namespace Bookbinder.Shell

/-- Variables with their values as a script would set them, in the order of their names. -/
def variableListing (start : Chars) (holdings : List (Chars × Variable)) : Chars :=
  let ordered := holdings.mergeSort fun first second => String.ofList first.1 ≤ String.ofList second.1
  ordered.flatMap fun pair => start ++ quotedPair pair.1 pair.2.value ++ ['\n']

/-- The name in an argument, and the value after an equals sign. -/
def splitAssignment (argument : Chars) : Chars × Option Chars :=
  let name := argument.takeWhile (· ≠ '=')
  match argument.drop name.length with
  | _ :: value => (name, some value)
  | [] => (name, none)

/-- What is marked about a variable. -/
inductive Marking where
  | exported
  | readOnly
  deriving DecidableEq, Repr

def Marking.holds (marking : Marking) (holding : Variable) : Bool :=
  match marking with
  | .exported => holding.isExported
  | .readOnly => holding.isReadOnly

def Marking.add (marking : Marking) (holding : Variable) : Variable :=
  match marking with
  | .exported => { holding with isExported := true }
  | .readOnly => { holding with isReadOnly := true }

theorem Marking.holds_add (marking : Marking) (holding : Variable) :
    marking.holds (marking.add holding) = true := by
  cases marking <;> rfl

namespace Running

/-- Marks variables, which may be set at once, or shows those that are marked. -/
def markVariables (marking : Marking) (command : Chars) (arguments : List Chars) : Running Nat := do
  let (options, rest) ← optionsOf "p" arguments
  if options.isEmpty && !rest.isEmpty then
    rest.forM fun argument => do
      let (name, value) := splitAssignment argument
      let old := (← get).holding? name
      match value, old with
      | none, some old =>
        modify fun state =>
          { state with holdings := Pairs.put state.holdings name (marking.add old) }
      | value, old =>
        let isExported := old.any Variable.isExported || (← get).isOn 'a'
        putVariable name (marking.add ⟨value, isExported, false⟩)
    return 0
  else
    let shown := (← get).holdings.filter fun pair => marking.holds pair.2
    print (variableListing (command ++ [' ']) shown)

/-- Takes variables or functions away. -/
def unset (arguments : List Chars) : Running Nat := do
  let (options, rest) ← optionsOf "vf" arguments
  let ofFunctions := options.getLast?.any fun option => option.1 == 'f'
  rest.forM fun name =>
    if ofFunctions then
      modify fun state => { state with functions := Pairs.erase state.functions name }
    else forget name
  return 0

/-- Keeps what a name stands for, so that it comes back when the innermost function ends. -/
def save (name : Chars) (old : Option Variable) : Running Unit :=
  modify fun state =>
    match state.saved with
    | innermost :: others => { state with saved := ((name, old) :: innermost) :: others }
    | [] => state

/-- The name under which the options of the interpreter are kept. -/
def optionsName : Chars := ['-']

/-- Makes variables those of a function. -/
def declareLocal (arguments : List Chars) : Running Nat := do
  if (← get).saved.isEmpty then fail "not in a function"
  arguments.forM fun argument => do
    let state ← get
    if argument = optionsName then save optionsName (some ⟨some state.options, false, false⟩)
    else
      let (name, value) := splitAssignment argument
      let old := state.holding? name
      match value, old with
      | some value, _ => assign name value
      | none, none => putVariable name ⟨none, false, false⟩
      | none, some _ => pure ()
      save name old
  return 0

/-- Begins to keep what variables were. -/
def openScope : Running Unit := modify fun state => { state with saved := [] :: state.saved }

/-- Gives variables back what they were when this began. -/
def closeScope : Running Unit :=
  modify fun state =>
    let restored (state : State) (pair : Chars × Option Variable) : State :=
      if pair.1 = optionsName then { state with options := (pair.2.bind Variable.value).getD [] }
      else
        match pair.2 with
        | some old => { state with holdings := Pairs.put state.holdings pair.1 old }
        | none => { state with holdings := Pairs.erase state.holdings pair.1 }
    let outer := (state.saved.headD []).foldl restored state
    { outer with saved := state.saved.drop 1 }

/-- Gives the interpreter other arguments. -/
def setArguments (arguments : List Chars) : Running Unit :=
  modify fun state =>
    { state with arguments := arguments, optionIndex := 1, optionOffset := none }

def shiftArguments (arguments : List Chars) : Running Nat := do
  let count ← match arguments with
    | [] => pure 1
    | count :: _ => natural count
  let state ← get
  if count > state.arguments.length then fail "can't shift that many"
  setArguments (state.arguments.drop count)
  return 0

/-- Sets options and arguments, or shows all variables. -/
def setAll (arguments : List Chars) : Running Nat := do
  if arguments.isEmpty then
    let isSet (pair : Chars × Variable) : Bool := pair.2.value.isSome
    print (variableListing [] ((← get).holdings.filter isSet))
  else
    let remainder ← setOptions false (arguments.length + 1) arguments
    if remainder.isMarked || !remainder.rest.isEmpty then setArguments remainder.rest
    return 0

/-- The part of a word in which the next option is looked for: what is left of the word before, or the next
word, with the number of the word after it. There is none at the end of the options. -/
def nextLetters? (words : List Chars) (index : Nat) (offset : Option Nat) : Option (Chars × Nat) :=
  let left := match offset with
    | some offset => if 2 ≤ index then ((words[index - 2]?).getD []).drop offset else []
    | none => []
  match left with
  | _ :: _ => some (left, index)
  | [] =>
    match words[index - 1]? with
    | some ('-' :: letter :: rest) =>
      if letter = '-' ∧ rest.isEmpty then none else some (letter :: rest, index + 1)
    | _ => none

/-- The word after options that have been read up to `index`: two dashes belong to the options. -/
def indexAtEnd (words : List Chars) (index : Nat) : Nat :=
  if words[index - 1]? = some ['-', '-'] then index + 1 else index

/-- How a letter is known among options. -/
inductive Acquaintance where
  | unknown
  | plain
  | withValue
  deriving DecidableEq, Repr

def acquaintance (known : Chars) (letter : Char) : Acquaintance :=
  match (known.dropWhile (· = ':')).dropWhile (· ≠ letter) with
  | [] => .unknown
  | _ :: ':' :: _ => .withValue
  | _ => .plain

/-- Gets the next option among some words, or the arguments. -/
def getOption (arguments : List Chars) : Running Nat := do
  match arguments with
  | known :: name :: words =>
    let state ← get
    let words := if words.isEmpty then state.arguments else words
    let isQuiet := known.head? = some ':'
    let finish (found : Char) (index : Nat) (offset : Option Nat) (status : Nat) : Running Nat := do
      assign "OPTIND".toList (Nat.toDigits 10 index)
      assign name [found]
      modify fun state => { state with optionIndex := index, optionOffset := offset }
      return status
    let setValue (value : Option Chars) : Running Unit :=
      match value with
      | some value => assign "OPTARG".toList value
      | none => forget "OPTARG".toList
    match nextLetters? words state.optionIndex state.optionOffset with
    | none => finish '?' (indexAtEnd words state.optionIndex) none 1
    | some ([], index) => finish '?' index none 1
    | some (letter :: rest, index) =>
      let word := (words[index - 2]?).getD []
      let offset := word.length - rest.length
      match acquaintance known letter, rest, words[index - 1]? with
      | .unknown, _, _ =>
        if isQuiet then setValue (some [letter])
        else
          tell ("Illegal option -".toList ++ [letter])
          setValue none
        finish '?' index (some offset) 0
      | .plain, _, _ =>
        setValue (some [])
        finish letter index (some offset) 0
      | .withValue, [], none =>
        if isQuiet then
          setValue (some [letter])
          finish ':' index (some offset) 0
        else
          tell ("No arg for -".toList ++ [letter] ++ " option".toList)
          setValue none
          finish '?' index (some offset) 0
      | .withValue, [], some value =>
        setValue (some value)
        finish letter (index + 1) none 0
      | .withValue, value, _ =>
        setValue (some value)
        finish letter index none 0
  | _ => fail "Usage: getopts optstring var [arg...]"

end Running

/-- A line as far as it is read: its characters, each with whether it is quoted, how many characters it takes,
and whether it is complete. -/
structure Line where
  marks : List (Char × Bool)
  length : Nat
  isComplete : Bool

def Line.add (line : Line) (mark : Option (Char × Bool)) (length : Nat) : Line :=
  { line with marks := mark.toList ++ line.marks, length := line.length + length }

/-- The first line of a text. Unless it is raw, a backslash quotes a character or joins a line to the next
one. -/
def Line.first (isRaw : Bool) : Chars → Line
  | [] => ⟨[], 0, false⟩
  | ['\\'] => if isRaw then ⟨[('\\', false)], 1, false⟩ else ⟨[], 1, false⟩
  | '\\' :: c :: rest =>
    if isRaw then (Line.first isRaw (c :: rest)).add (some ('\\', false)) 1
    else (Line.first isRaw rest).add (if c = '\n' then none else some (c, true)) 2
  | c :: rest =>
    if c = '\n' then ⟨[], 1, true⟩
    else (Line.first isRaw rest).add (if c = '\x00' then none else some (c, false)) 1

/-- Whether a character stands between fields. -/
def isSeparator (separators : Chars) (mark : Char × Bool) : Bool :=
  !mark.2 && separators.contains mark.1

/-- Whether it may stand there any number of times. -/
def isBlankSeparator (separators : Chars) (mark : Char × Bool) : Bool :=
  isSeparator separators mark && (isBlank mark.1 || mark.1 == '\n')

/-- A field at the beginning, and what follows what ends it. -/
def takeField (separators : Chars) (marks : List (Char × Bool)) :
    List (Char × Bool) × List (Char × Bool) :=
  let field := marks.takeWhile fun mark => !isSeparator separators mark
  let after := (marks.drop field.length).dropWhile (isBlankSeparator separators)
  match after with
  | mark :: rest =>
    if isSeparator separators mark then (field, rest.dropWhile (isBlankSeparator separators))
    else (field, after)
  | [] => (field, [])

/-- So many fields of a line. The last one takes what is left, without the end of a single field or blanks at
its end. -/
def takeFields (separators : Chars) : Nat → List (Char × Bool) → List Chars
  | 0, _ => []
  | count + 1, marks =>
    let marks := marks.dropWhile (isBlankSeparator separators)
    if marks.isEmpty then [] :: takeFields separators count []
    else
      let (field, after) := takeField separators marks
      if count = 0 ∧ !after.isEmpty then
        [((marks.reverse.dropWhile (isBlankSeparator separators)).reverse).map Prod.fst]
      else field.map Prod.fst :: takeFields separators count after

/-- Every variable gets a field. -/
theorem length_takeFields (separators : Chars) (count : Nat) (marks : List (Char × Bool)) :
    (takeFields separators count marks).length = count := by
  induction count generalizing marks with
  | zero => rfl
  | succ count ih =>
    simp only [takeFields]
    split
    · simp [ih]
    · split
      · next last => simp [last.1]
      · simp [ih]

example : takeFields [':'] 2 ("a:b::".toList.map fun c => (c, false)) = ["a".toList, "b::".toList] ∧
    takeFields [':'] 2 ("a:b:".toList.map fun c => (c, false)) = ["a".toList, "b".toList] := by
  decide +kernel

namespace Running

/-- Reads a line into variables. -/
def readVariables (arguments : List Chars) : Running Nat := do
  let (options, names) ← optionsOf "p:r" arguments
  if names.isEmpty then fail "arg count"
  let isRaw := options.any fun option => option.1 == 'r'
  let state ← get
  let line := Line.first isRaw (state.unread 0)
  set (state.advance 0 line.length)
  let fields := takeFields state.separators names.length line.marks
  (names.zip fields).forM fun pair => assign pair.1 pair.2
  return if line.isComplete then 0 else 1

end Running

end Bookbinder.Shell
