import Bookbinder.Shell.Condition
import Bookbinder.Shell.Directory
import Bookbinder.Shell.Format
import Bookbinder.Shell.Lookup
import Bookbinder.Shell.Number
import Bookbinder.Shell.Options
import Bookbinder.Shell.Parameters

/-!
The commands that the interpreter runs itself and that need no other command, with the signals and the
permission bits that they are about. Each command gives its status.
-/

set_option autoImplicit false

/-! ### Signals: their names and numbers, and what is said when one of them ends a process -/

namespace Bookbinder.Shell.Signal

/-- What has a name of its own, from the end of the process on. -/
def ordinaryNames : List String :=
  ["EXIT", "HUP", "INT", "QUIT", "ILL", "TRAP", "ABRT", "BUS", "FPE", "KILL", "USR1", "SEGV", "USR2", "PIPE",
    "ALRM", "TERM", "16", "CHLD", "CONT", "STOP", "TSTP", "TTIN", "TTOU", "URG", "XCPU", "XFSZ", "VTALRM",
    "PROF", "WINCH", "IO", "PWR", "SYS", "32", "33", "RTMIN"]

/-- The other ones are numbered from both ends. -/
def names : List String :=
  ordinaryNames ++ (List.range 15).map (fun place => "RTMIN+" ++ Text.digits 10 (place + 1)) ++
    (List.range 14).map (fun place => "RTMAX-" ++ Text.digits 10 (14 - place)) ++ ["RTMAX"]

def terminate : Nat := 15

def name? (signal : Nat) : Option String := names[signal]?

def isSameWord (first second : Chars) : Bool := first.map Char.toUpper == second.map Char.toUpper

/-- The signal that a number denotes. -/
def ofNumber? (text : Chars) : Option Nat :=
  if text.isEmpty then none else (Text.ofDigits? 10 text).filter (· < names.length)

/-- The signal that a number or a name denotes, of those from one on. -/
def read? (least : Nat) (text : Chars) : Option Nat :=
  match ofNumber? text with
  | some signal => some signal
  | none =>
    if text.all Char.isDigit then none
    else
      ((List.range names.length).drop least).find? fun signal =>
        isSameWord ((name? signal).getD "").toList text

/-- Signals that do nothing to a process that does not care. -/
def isHarmless (signal : Nat) : Bool := [0, 17, 18, 19, 20, 21, 22, 23, 28].contains signal

/-- What is said of a process that a signal has ended. Of some of them nothing is said. -/
def description? (signal : Nat) : Option String :=
  match signal with
  | 1 => some "Hangup"
  | 3 => some "Quit"
  | 4 => some "Illegal instruction"
  | 5 => some "Trace/breakpoint trap"
  | 6 => some "Aborted"
  | 7 => some "Bus error"
  | 8 => some "Floating point exception"
  | 9 => some "Killed"
  | 10 => some "User defined signal 1"
  | 11 => some "Segmentation fault"
  | 12 => some "User defined signal 2"
  | 14 => some "Alarm clock"
  | 15 => some "Terminated"
  | 16 => some "Stack fault"
  | 24 => some "CPU time limit exceeded"
  | 25 => some "File size limit exceeded"
  | 26 => some "Virtual timer expired"
  | 27 => some "Profiling timer expired"
  | 29 => some "I/O possible"
  | 30 => some "Power failure"
  | 31 => some "Bad system call"
  | 2 | 13 => none
  | signal =>
    if 34 ≤ signal then some ("Real-time signal " ++ Text.digits 10 (signal - 34))
    else some ("Unknown signal " ++ Text.digits 10 signal)

example : names.length = 65 ∧ read? 1 "term".toList = some 15 ∧ read? 1 "SIGTERM".toList = none ∧
    read? 1 "exit".toList = none := by
  decide +kernel

end Bookbinder.Shell.Signal

/-! ### The permission bits that new files do not get -/

namespace Bookbinder.Shell

/-- All permission bits. -/
def allPermissions : Nat := 0o777

/-- What one kind of user may do, in letters. -/
def permissionLetters (bits : Nat) : Chars :=
  (if bits &&& 4 ≠ 0 then ['r'] else []) ++ (if bits &&& 2 ≠ 0 then ['w'] else []) ++
    (if bits &&& 1 ≠ 0 then ['x'] else [])

/-- What all kinds of users may do under a mask. -/
def maskLetters (mask : Nat) : Chars :=
  let allowed := allPermissions ^^^ mask
  let part (kind : Char) (shift : Nat) : Chars :=
    kind :: '=' :: permissionLetters ((allowed >>> shift) &&& 7)
  part 'u' 6 ++ ',' :: part 'g' 3 ++ ',' :: part 'o' 0

/-- A mask in base eight, with four digits at least. -/
def maskDigits (mask : Nat) : Chars :=
  let digits := Nat.toDigits 8 mask
  List.replicate (4 - digits.length) '0' ++ digits

/-- The kinds of users that some letters stand for, as the lowest bit of each; all of them without letters. -/
def usersOf (letters : Chars) : Nat :=
  let bits := letters.map fun c =>
    match c with
    | 'u' => 0o100
    | 'g' => 0o010
    | 'o' => 0o001
    | _ => 0o111
  if bits.isEmpty then 0o111 else bits.foldl (· ||| ·) 0

/-- The permissions that some letters stand for, where `allowed` is what is allowed so far. -/
def permissionsOf (allowed : Nat) (letters : Chars) : Nat :=
  (letters.map fun c =>
    match c with
    | 'r' => 4
    | 'w' => 2
    | 'x' => 1
    | 'u' => allowed >>> 6
    | 'g' => allowed >>> 3
    | 'o' => allowed
    | 'X' => if allowed &&& 0o111 ≠ 0 then 1 else 0
    | _ => 0).foldl (· ||| ·) 0 &&& 7

def isUserLetter (c : Char) : Bool := "augo".toList.contains c

def isPermissionLetter (c : Char) : Bool := "rwxugoXs".toList.contains c

/-- What is allowed after some changes to what was allowed. There is nothing if they are malformed. -/
def changePermissions (before : Nat) : Nat → Nat → Option Nat → Chars → Option Nat
  | 0, _, _, _ => none
  | _ + 1, allowed, _, [] => some allowed
  | fuel + 1, allowed, users, text =>
    let letters := if users.isSome then [] else text.takeWhile isUserLetter
    let kinds := users.getD (usersOf letters)
    match text.drop letters.length with
    | operator :: rest =>
      if !"=+-".toList.contains operator then none
      else
        let granted := rest.takeWhile isPermissionLetter
        let bits := permissionsOf before granted * kinds
        let allowed := match operator with
          | '-' => allowed &&& (allPermissions ^^^ bits)
          | '+' => allowed ||| bits
          | _ => (allowed &&& (allPermissions ^^^ (kinds * 7))) ||| bits
        match rest.drop granted.length with
        | ',' :: rest => changePermissions before fuel allowed none rest
        | [] => some allowed
        | rest => changePermissions before fuel allowed (some kinds) rest
    | [] => none

namespace Running

/-- Shows or sets the mask. -/
def setMask (arguments : List Chars) : Running Nat := do
  let (options, rest) ← optionsOf "S" arguments
  let mask := (← get).mask
  match rest with
  | [] => print ((if options.isEmpty then maskDigits mask else maskLetters mask) ++ ['\n'])
  | text :: _ =>
    if text.head?.any Char.isDigit then
      match Text.ofDigits? 8 text with
      | some value => modify fun state => { state with mask := value &&& allPermissions }
      | none => failNumber text
    else
      let allowed := allPermissions ^^^ mask
      match changePermissions allowed (text.length + 1) allowed none text with
      | some allowed => modify fun state => { state with mask := allPermissions ^^^ allowed }
      | none => fail ("Illegal mode: " ++ text.shown)
    return 0

end Running

example : maskLetters 0o022 = "u=rwx,g=rx,o=rx".toList ∧
    changePermissions 0o755 20 0o755 none "u=rwx,go=".toList = some 0o700 := by
  decide +kernel

end Bookbinder.Shell

/-! ### The commands -/

namespace Bookbinder.Shell.Running

def printFormatted (arguments : List Chars) : Running Nat := do
  match ← withoutOptions arguments with
  | [] => fail "usage: printf format [arg ...]"
  | form :: arguments =>
    let (written, complaints, fault) := Format.printed form arguments
    complaints.forM complain
    let status ← print written
    match fault with
    | some message => fail message
    | none => return if complaints.isEmpty then status else 1

/-- Decides a condition. One that is opened by a bracket has to be closed by another. -/
def test (inBrackets : Bool) (arguments : List Chars) : Running Nat := do
  if inBrackets ∧ arguments.getLast? ≠ some [']'] then fail "missing ]"
  match Condition.decide (← get) (if inBrackets then arguments.dropLast else arguments) with
  | .ok result => return if result then 0 else 1
  | .error message => fail message

def killUsage : String :=
  "Usage: kill [-s sigspec | -signum | -sigspec] [pid | job]... or\nkill -l [exitstatus]"

/-- Names the signals, or one of them by its number or a status. -/
def listSignals (arguments : List Chars) : Running Nat := do
  match arguments with
  | [] => print ("0\n".toList ++ (Signal.names.drop 1).flatMap fun name => name.toList ++ ['\n'])
  | text :: _ =>
    let number ← natural text
    let signal := if number > 128 then number - 128 else number
    match if signal = 0 then none else Signal.name? signal with
    | some name => print (name.toList ++ ['\n'])
    | none => fail ("invalid signal number or exit status: " ++ text.shown)

/-- What a signal does to the interpreter. One for which something is to be done waits for that. -/
def receive (signal : Nat) : Running Unit := do
  let state ← get
  let traps := state.mainTraps.getD state.traps
  -- Nothing can be done about this one.
  let isFinal := Signal.name? signal = some "KILL"
  if !isFinal && (state.ignored.contains signal || Signal.isHarmless signal) then return
  match if isFinal then none else Pairs.get? traps signal with
  | some [] => return
  | some _ => set { state with pending := state.pending ++ [signal] }
  | none => throw (.killed signal)

/-- Sends a signal to a process. Those that ran aside have ended, but they are still known. -/
def sendTo (signal : Nat) (process : Chars) : Running Nat := do
  if process.head? = some '%' then fail ("No such job: " ++ process.shown)
  let number ← natural (if process.head? = some '-' then process.drop 1 else process)
  let state ← get
  let isAside := (List.range state.background.length).any fun place => backgroundNumber place == number
  if Nat.toDigits 10 number = processNumber then
    receive signal
    return 0
  else if isAside then return 0
  else
    complain "No such process\n"
    return 1

/-- Sends a signal to processes, or names signals. -/
def sendSignal (arguments : List Chars) : Running Nat := do
  let first := arguments.headD []
  let direct := if first.head? = some '-' then Signal.read? 1 (first.drop 1) else none
  let (options, rest) ←
    if direct.isSome then pure ([], arguments.drop 1)
    else if first.head? = some '-' then optionsOf "ls:" arguments
    else pure ([], arguments)
  let named ← match options.reverse.find? fun option => option.1 == 's' with
    | some (_, name) =>
      match Signal.read? 1 name with
      | some signal => pure (some signal)
      | none => fail ("invalid signal number or name: " ++ name.shown)
    | none => pure none
  let isList := options.any fun option => option.1 == 'l'
  if isList then
    if named.isSome then fail killUsage else listSignals rest
  else if rest.isEmpty then fail killUsage
  else
    let signal := (direct.or named).getD Signal.terminate
    let statuses ← rest.mapM (sendTo signal)
    return statuses.foldl max 0

/-- Sets what is done at signals, or shows it. -/
def setTraps (arguments : List Chars) : Running Nat := do
  let rest ← withoutOptions arguments
  match rest with
  | [] =>
    let traps := (← get).traps.mergeSort fun first second => first.1 ≤ second.1
    print (traps.flatMap fun trap =>
      "trap -- ".toList ++ quoted trap.2 ++ ' ' :: ((Signal.name? trap.1).getD "").toList ++ ['\n'])
  | first :: others =>
    let isReset := others.isEmpty || (Signal.ofNumber? first).isSome
    let action := if isReset || first = ['-'] then none else some first
    let names := if isReset then rest else others
    let known := names.takeWhile fun name => (Signal.read? 0 name).isSome
    known.forM fun name =>
      modify fun state =>
        let signal := (Signal.read? 0 name).getD 0
        let traps := match action with
          | some action => Pairs.put state.traps signal action
          | none => Pairs.erase state.traps signal
        { state with traps := traps }
    match names.drop known.length with
    | [] => return 0
    | name :: _ =>
      modify fun state =>
        (state.write? 2 ("trap: ".toList ++ name ++ ": bad trap\n".toList)).getD state
      return 1

/-- Waits for processes that ran aside, all of which have ended. -/
def wait (arguments : List Chars) : Running Nat := do
  let rest ← withoutOptions arguments
  let statuses ← rest.mapM fun process => do
    if process.head? = some '%' then fail ("No such job: " ++ process.shown)
    let number ← natural process
    let state ← get
    let place := (List.range state.background.length).find? fun place => backgroundNumber place == number
    return ((place.bind fun place => state.background[place]?).map Ending.code).getD 127
  return statuses.getLast?.getD 0

/-- The times that the process has taken are not told. -/
def timesText : Chars :=
  "0m0.000000s 0m0.000000s\n0m0.000000s 0m0.000000s\n".toList

def showLimit (arguments : List Chars) : Running Nat := do
  let (options, rest) ← optionsOf "HSatfdscmlpnvwr" arguments
  match rest with
  | [] =>
    if options.any fun option => option.1 == 'a' then return 0
    else print "unlimited\n".toList
  | value :: _ =>
    if value ≠ "unlimited".toList ∧ !value.all Char.isDigit then fail "bad number"
    return 0

/-- The commands in which a mistake does not end the interpreter. -/
def ordinary (name : String) (arguments : List Chars) : Running Nat :=
  match name with
  | "[" => test true arguments
  | "test" => test false arguments
  | "alias" => setAliases arguments
  | "unalias" => forgetAliases arguments
  | "bg" | "fg" => fail "No current job"
  | "cd" | "chdir" => changeDirectory arguments
  | "echo" => print (Format.echoText arguments)
  | "false" => return 1
  | "getopts" => getOption arguments
  | "hash" => findPrograms arguments
  | "kill" => sendSignal arguments
  | "printf" => printFormatted arguments
  | "pwd" => printDirectory arguments
  | "read" => readVariables arguments
  | "type" => describeAll false arguments
  | "ulimit" => showLimit arguments
  | "umask" => setMask arguments
  | "wait" => wait arguments
  | _ => return 0

/-- Leaves loops, as far as there are any. -/
def leaveLoops (goesOn : Bool) (arguments : List Chars) : Running Nat := do
  let count ← match arguments with
    | [] => pure 1
    | text :: _ => do
      let count ← natural text
      if count = 0 then failNumber text else pure count
  let loops := (← get).loops
  if loops = 0 then return 0
  setStatus 0
  throw (.leaveLoops (min count loops) goesOn)

def leaveFunction (arguments : List Chars) : Running Nat := do
  if let text :: _ := arguments then setStatus (← natural text)
  throw .leaveFunction

def exit (arguments : List Chars) : Running Nat := do
  let state ← get
  let status ← match arguments with
    | text :: _ => natural text
    | [] => pure (state.statusBefore.getD state.status)
  throw (.ended (.exited status))

/-- The commands in which a mistake ends the interpreter, but for those that run others. -/
def special (name : String) (arguments : List Chars) : Running Nat :=
  match name with
  | "break" => leaveLoops false arguments
  | "continue" => leaveLoops true arguments
  | "exit" => exit arguments
  | "export" => markVariables .exported name.toList arguments
  | "readonly" => markVariables .readOnly name.toList arguments
  | "local" => declareLocal arguments
  | "return" => leaveFunction arguments
  | "set" => setAll arguments
  | "shift" => shiftArguments arguments
  | "times" => print timesText
  | "trap" => setTraps arguments
  | "unset" => unset arguments
  | _ => return 0

end Bookbinder.Shell.Running
