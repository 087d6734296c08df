import Bookbinder.Pairs
import Bookbinder.Shell.Floating
import Bookbinder.Text.Split

/-!
Printing by a form: text with escapes, and directives that ask for an argument each. The form is used again
as long as arguments are left that it asks for.
-/

set_option autoImplicit false

namespace Bookbinder.Shell.Format

/-- Up to three octal digits. -/
def takeOctal (text : Chars) : Chars := (text.take 3).takeWhile fun c => '0' ≤ c && c ≤ '7'

/-- What stands for a letter after a backslash. -/
def escapes : List (Char × Char) :=
  [('a', '\x07'), ('b', '\x08'), ('e', '\x1b'), ('f', '\x0c'), ('n', '\n'), ('r', '\r'), ('t', '\t'),
    ('v', '\x0b'), ('\\', '\\')]

/-- The character after a backslash, and what follows it. The backslash stands for itself unless something
is known that it introduces. -/
def readEscape (text : Chars) : Char × Chars :=
  match takeOctal text with
  | [] =>
    match text with
    | c :: rest =>
      match Pairs.get? escapes c with
      | some value => (value, rest)
      | none => ('\\', text)
    | [] => ('\\', [])
  | digits =>
    (Char.ofNat ((Number.readDigits 8 digits).getD (0, [])).1.toUInt8.toNat, text.drop digits.length)

/-- Text in which escapes are replaced, and whether nothing is to be printed after it. Octal digits may follow
a zero. -/
def unescape : Nat → Chars → Chars × Bool
  | 0, _ => ([], false)
  | _ + 1, [] => ([], false)
  | fuel + 1, '\\' :: rest =>
    match rest with
    | 'c' :: _ => ([], true)
    | '0' :: digits =>
      let (c, after) := readEscape (if (takeOctal digits).isEmpty then rest else digits)
      let (others, isLast) := unescape fuel after
      (c :: others, isLast)
    | _ =>
      let (c, after) := readEscape rest
      let (others, isLast) := unescape fuel after
      (c :: others, isLast)
  | fuel + 1, c :: rest =>
    let (others, isLast) := unescape fuel rest
    (c :: others, isLast)

/-- The arguments with blanks between them and a line feed after them, unless that is not wanted. -/
def echoText (arguments : List Chars) : Chars :=
  let (endsLine, arguments) := match arguments with
    | first :: others => if first = "-n".toList then (false, others) else (true, first :: others)
    | [] => (true, [])
  let text := Text.joinWith [' '] arguments
  let (shown, isLast) := unescape (text.length + 1) text
  shown ++ if endsLine && !isLast then ['\n'] else []

/-- What a directive asks for besides its letter. -/
structure Layout where
  flags : Chars
  width : Nat
  precision : Option Nat

def Layout.has (layout : Layout) (flag : Char) : Bool := layout.flags.contains flag

/-- Text that is padded with blanks, or with zeros after its first part. -/
def Layout.pad (layout : Layout) (mayFill : Bool) (front rest : Chars) : Chars :=
  let missing := layout.width - (front.length + rest.length)
  if layout.has '-' then front ++ rest ++ List.replicate missing ' '
  else if mayFill && layout.has '0' then front ++ List.replicate missing '0' ++ rest
  else List.replicate missing ' ' ++ front ++ rest

def Layout.text (layout : Layout) (value : Chars) : Chars :=
  layout.pad false [] (match layout.precision with
    | some length => value.take length
    | none => value)

def Layout.sign (layout : Layout) (isNegative : Bool) : Chars :=
  if isNegative then ['-']
  else if layout.has '+' then ['+']
  else if layout.has ' ' then [' ']
  else []

/-- The digits of a whole number, at least as many as are asked for. -/
def Layout.digits (layout : Layout) (base value : Nat) : Chars :=
  if value = 0 ∧ layout.precision = some 0 then []
  else Floating.padZeros (layout.precision.getD 0) (Nat.toDigits base value)

def Layout.signed (layout : Layout) (value : Int) : Chars :=
  layout.pad layout.precision.isNone (layout.sign (value < 0)) (layout.digits 10 value.natAbs)

def Layout.unsigned (layout : Layout) (form : Char) (value : Nat) : Chars :=
  let mayFill := layout.precision.isNone
  match form with
  | 'o' =>
    let digits := layout.digits 8 value
    let isMarked := layout.has '#' && digits.head? != some '0'
    layout.pad mayFill [] (if isMarked then '0' :: digits else digits)
  | 'x' | 'X' =>
    let digits := layout.digits 16 value
    let front := if layout.has '#' && value ≠ 0 then ['0', 'x'] else []
    let upper (text : Chars) : Chars := if form = 'X' then text.map Char.toUpper else text
    layout.pad mayFill (upper front) (upper digits)
  | _ => layout.pad mayFill [] (layout.digits 10 value)

def Layout.floating (layout : Layout) (form : Char) (value : Floating) : Chars :=
  let text := value.text form.toLower layout.precision (layout.has '#')
  let text := if form.isUpper then text.map Char.toUpper else text
  let (front, text) := if form.toLower = 'a' ∧ value.isFinite then (text.take 2, text.drop 2) else ([], text)
  layout.pad value.isFinite (layout.sign value.isNegative ++ front) text

/-- Why printing stops. -/
inductive Stop where
  /-- This is what was wanted. -/
  | asked
  | fault (message : String)
  deriving DecidableEq, Repr

/-- What is printed so far, what is said about arguments, and the arguments that are left. -/
structure Progress where
  written : Chars
  complaints : List String
  arguments : List Chars

abbrev Printing (α : Type) := ExceptT Stop (StateM Progress) α

namespace Printing

def write (text : Chars) : Printing Unit :=
  modify fun progress => { progress with written := progress.written ++ text }

def complain (argument : Chars) (message : String) : Printing Unit :=
  modify fun progress =>
    { progress with complaints := progress.complaints ++ [argument.shown ++ ": " ++ message] }

/-- The next argument, if there is one. -/
def next? : Printing (Option Chars) := do
  let progress ← get
  set { progress with arguments := progress.arguments.drop 1 }
  return progress.arguments.head?

end Printing

/-- Says what is wrong with an argument that should be a number. -/
def checkNumber (argument : Chars) (rest : Option Chars) (isBeyond : Bool) : Printing Unit := do
  match rest with
  | none => if !argument.isEmpty then Printing.complain argument "expected numeric value"
  | some rest =>
    if !rest.isEmpty then Printing.complain argument "not completely converted"
    else if isBeyond then Printing.complain argument "Numerical result out of range"

/-- The number of a character if an argument is a quote with that character after it. -/
def quotedCharacter? (argument : Chars) : Option Nat :=
  match argument with
  | '"' :: rest | '\'' :: rest => some ((rest.head?.map Char.toNat).getD 0)
  | _ => none

/-- The next argument as a whole number, with or without a sign. -/
def nextWhole (isSigned : Bool) : Printing Int := do
  match ← Printing.next? with
  | none => return 0
  | some argument =>
    match quotedCharacter? argument with
    | some value => return value
    | none =>
      match Number.scan false argument with
      | none =>
        checkNumber argument none false
        return 0
      | some (value, rest) =>
        let greatest : Int := if isSigned then Number.greatest else Number.width - 1
        let least : Int := if isSigned then -(Number.greatest + 1) else -greatest
        checkNumber argument (some rest) (value < least || greatest < value)
        if isSigned then return Number.clamp value
        else if value < least then return greatest
        else return (min value greatest) % Number.width

def nextFloating : Printing Floating := do
  match ← Printing.next? with
  | none => return .finite false 0 0
  | some argument =>
    match quotedCharacter? argument with
    | some value => return .finite false value 0
    | none =>
      match Floating.scan argument with
      | none =>
        checkNumber argument none false
        return .finite false 0 0
      | some (value, isBeyond, rest) =>
        checkNumber argument (some rest) isBeyond
        return value

/-- What a directive asks for before its letter, and the rest of the form. -/
def readLayout (form : Chars) : Printing (Layout × Chars) := do
  let isFlag (c : Char) : Bool := "#-+ 0".toList.contains c
  let isWidth (c : Char) : Bool := c == '*' || c.isDigit
  let flags := form.takeWhile isFlag
  let numbered (text : Chars) : Printing (Int × Chars) := do
    match text with
    | '*' :: rest => return (← nextWhole true, rest)
    | _ =>
      let digits := text.takeWhile isWidth
      return (((Number.readDigits 10 digits).getD (0, [])).1, text.drop digits.length)
  let (width, rest) ← numbered (form.drop flags.length)
  let flags := if width < 0 then '-' :: flags else flags
  match rest with
  | '.' :: rest =>
    let (precision, rest) ← numbered rest
    return (⟨flags, width.natAbs, if precision < 0 then none else some precision.toNat⟩, rest)
  | rest => return (⟨flags, width.natAbs, none⟩, rest)

/-- Prints what a directive asks for, the letter of which is given. -/
def printDirective (layout : Layout) (letter : Char) (shown : Chars) : Printing Unit := do
  match letter with
  | 'b' =>
    let argument := (← Printing.next?).getD []
    let (text, isLast) := unescape (argument.length + 1) argument
    Printing.write (layout.text text)
    if isLast then throw .asked
  | 'c' =>
    let argument := (← Printing.next?).getD []
    Printing.write (layout.pad false [] [argument.headD '\x00'])
  | 's' => Printing.write (layout.text ((← Printing.next?).getD []))
  | 'd' | 'i' => Printing.write (layout.signed (← nextWhole true))
  | 'o' | 'u' | 'x' | 'X' => Printing.write (layout.unsigned letter (← nextWhole false).toNat)
  | 'a' | 'A' | 'e' | 'E' | 'f' | 'F' | 'g' | 'G' =>
    Printing.write (layout.floating letter (← nextFloating))
  | _ => throw (.fault (shown.shown ++ ": invalid directive"))

/-- Prints by a form once. -/
def printOnce : Nat → Chars → Printing Unit
  | 0, _ => return
  | _ + 1, [] => return
  | fuel + 1, '\\' :: rest => do
    let (c, after) := readEscape rest
    Printing.write [c]
    printOnce fuel after
  | fuel + 1, '%' :: '%' :: rest => do
    Printing.write ['%']
    printOnce fuel rest
  | fuel + 1, '%' :: rest => do
    let (layout, after) ← readLayout rest
    match after with
    | [] => throw (.fault "missing format character")
    | letter :: after =>
      printDirective layout letter ('%' :: rest.take (rest.length - after.length))
      printOnce fuel after
  | fuel + 1, c :: rest => do
    Printing.write [c]
    printOnce fuel rest

/-- Prints by a form until no argument is left, or once if it asks for none. -/
def printAll (form : Chars) : Nat → Printing Unit
  | 0 => return
  | rounds + 1 => do
    let before := (← get).arguments.length
    printOnce (form.length + 1) form
    let after := (← get).arguments.length
    if after < before ∧ after > 0 then printAll form rounds

/-- What is printed by a form, what is said meanwhile, and what stopped it if that is wrong. -/
def printed (form : Chars) (arguments : List Chars) : Chars × List String × Option String :=
  let (result, progress) := (printAll form (arguments.length + 1)).run ⟨[], [], arguments⟩
  let fault := match result with
    | .error (.fault message) => some message
    | _ => none
  (progress.written, progress.complaints, fault)

example : printed "%d-%s\\n".toList ["1x".toList, "a".toList, "2".toList] =
    ("1-a\n2-\n".toList, ["1x: not completely converted"], none) := by
  decide +kernel

end Bookbinder.Shell.Format
