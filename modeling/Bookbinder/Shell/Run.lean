import Bookbinder.Shell.Builtin
import Bookbinder.Shell.Environment
import Bookbinder.Shell.Expansion
import Bookbinder.Shell.Reading
import Bookbinder.Shell.Streams

/-!
Running scripts. Commands run one after the other, those that are joined by pipes as well. Parts of a script
that stand in parentheses or whose output is wanted are run by copies of the interpreter, and scripts in files
by others of its kind; what these leave is files and text.
-/

set_option autoImplicit false

namespace Bookbinder.Shell

/-- How a command stands in a script. -/
structure Mode where
  /-- Whether its failure is looked at, so that it does not end the interpreter. -/
  isTested : Bool
  /-- Whether the interpreter has nothing to do after it. -/
  isLast : Bool
  deriving DecidableEq, Repr

namespace Mode

def plain : Mode := ⟨false, false⟩

def tested : Mode := ⟨true, false⟩

def last : Mode := ⟨false, true⟩

/-- What stands before other commands. -/
def inner (mode : Mode) : Mode := { mode with isLast := false }

end Mode

/-- The signal for a program that goes too deep. -/
def overflowSignal : Nat := 11

/-- Functions do not call each other more deeply than this. -/
def greatestCallDepth : Nat := 1000

/-- No loop has more rounds than this. -/
def roundLimit : Nat := 1000000

namespace Running

/-- Repeats a step until it says that it is the last one. -/
def iterate {σ : Type} (step : σ → Running (σ × Bool)) : Nat → σ → Running σ
  | 0, value => return value
  | rounds + 1, value => do
    let (next, goesOn) ← step value
    if goesOn then iterate step rounds next else return next

/-- Runs a part of a loop. If it leaves the loop, this says whether it goes on with the next round. -/
def loopPart (running : Running Unit) : Running (Option Bool) := do
  let loops := (← get).loops
  modify fun state => { state with loops := loops + 1 }
  let result ← attempt running
  modify fun state => { state with loops := loops }
  match result with
  | .ok () => return none
  | .error (.leaveLoops (count + 2) goesOn) => throw (.leaveLoops (count + 1) goesOn)
  | .error (.leaveLoops _ goesOn) => return some goesOn
  | .error interruption => throw interruption

/-- Runs a function or a text up to where it is left. -/
def untilLeft (running : Running Unit) : Running Unit := do
  match ← attempt running with
  | .ok () | .error .leaveFunction => return
  | .error interruption => throw interruption

/-- Says that a signal has ended a process, if it has and that is worth it. -/
def report (ending : Ending) : Running Unit := do
  match ending with
  | .exited _ => return
  | .killed signal =>
    if let some description := Signal.description? signal then tell description.toList

/-- Takes the status of a process. If nothing comes after it, this is how the interpreter ends. -/
def settle (mode : Mode) (ending : Ending) : Running Unit := do
  if mode.isLast && (← get).traps.isEmpty then throw (.ended ending)
  report ending
  setStatus ending.code

/-- Runs as a copy of the interpreter, which keeps to itself all but files and text. -/
def asCopy (running : Running Ending) : Running Ending := do
  let before ← get
  set before.copy
  let result ← attempt running
  let after ← get
  set { before.after after with pending := after.pending }
  ofExcept result

/-- Runs another interpreter. -/
def asProcess (running : Running Ending) : Running Ending := do
  let before ← get
  let (result, after) := running.run (State.start before.environment)
  set (before.after after)
  match result with
  | .ok ending => return ending
  | .error (.killed signal) => return .killed signal
  | .error _ => return .exited faultStatus

/-- Assigns what stands before a command. In a scope of its own it is for that command. -/
def assignBefore (hasScope isExported : Bool) (name value : Chars) : Running Unit := do
  if hasScope then save name ((← get).holding? name)
  if hasScope || isExported then assignExported name value else assign name value

end Running

/-- A command with its arguments. -/
structure Call where
  name : Chars
  arguments : List Chars
  /-- Whether `command` stands before it, which makes it less special. -/
  isPlain : Bool
  deriving DecidableEq, Repr

/-- The words after `command` and its options, if they are to be run. -/
def afterCommandOptions : List Chars → Option (List Chars)
  | [] => none
  | word :: words =>
    match word with
    | ['-', '-'] => if words.isEmpty then none else some words
    | '-' :: letter :: letters =>
      if (letter :: letters).all (· = 'p') then afterCommandOptions words else none
    | _ => some (word :: words)

/-- The command that some fields are. `command` may stand before itself. -/
def Call.ofFields (state : State) (isPlain : Bool) : Nat → List Chars → Option Call
  | _, [] => none
  | 0, name :: arguments => some ⟨name, arguments, isPlain⟩
  | fuel + 1, name :: arguments =>
    let isFunction := !isPlain && (Pairs.get? state.functions name).isSome
    match if name = "command".toList ∧ !isFunction then afterCommandOptions arguments else none with
    | some words => Call.ofFields state true fuel words
    | none => some ⟨name, arguments, isPlain⟩

def State.call? (state : State) (fields : List Chars) : Option Call :=
  Call.ofFields state false fields.length fields

def State.meaningOf (state : State) (call : Call) : Meaning := state.meaning (!call.isPlain) call.name

def Meaning.isSpecial : Meaning → Bool
  | .special => true
  | _ => false

/-- Commands whose arguments may be assignments, which are not cut into fields. -/
def takesAssignments (state : State) (fields : List Chars) : Bool :=
  match state.call? fields with
  | some call =>
    ["alias", "export", "local", "readonly"].contains (String.ofList call.name) &&
      match state.meaningOf call with
      | .special | .ordinary => true
      | _ => false
  | none => false

/-- A row of texts as tracing shows it. -/
def traceLine (start : Chars) (texts : List Chars) : Chars :=
  start ++ Text.joinWith [' '] texts ++ ['\n']

/-- Says what would be run. -/
def Running.describeCommand (arguments : List Chars) : Running Nat := do
  let (options, names) ← optionsOf "pvV" arguments
  match options.find? fun option => option.1 ≠ 'p' with
  | some (letter, _) => describeAll (letter == 'v') (names.take 1)
  | none => return 0

/-- What is left of a script, and the status that it has so far. -/
structure Course where
  source : Source
  status : Nat

mutual

/-- Runs a script. -/
def runScript : Nat → Mode → Script → Running Unit
  | 0, _, _ => throw (.killed overflowSignal)
  | fuel + 1, mode, script => do
    if (← get).isOn 'n' then return
    runTraps fuel
    let isChecked ← runForm fuel mode script
    runTraps fuel
    let state ← get
    if state.isOn 'e' && isChecked && !mode.isTested && state.status ≠ 0 then
      throw (.ended (.exited state.status))

/-- Runs what a script is at its top. It is said whether a failure may end the interpreter. -/
def runForm : Nat → Mode → Script → Running Bool
  | 0, _, _ => throw (.killed overflowSignal)
  | fuel + 1, mode, script => do
    match script with
    | .nothing => return false
    | .simple line assignments words redirections =>
      runSimple fuel mode line assignments words redirections
      return true
    | .redirected line body redirections =>
      modify fun state => { state with line := line }
      let targets ← targetsOf fuel redirections
      let before := (← get).streams
      if ← Running.redirectAll targets then
        Running.keepingStreams (targets.map Prod.fst) before (runScript fuel mode.inner body)
        return false
      else
        Running.setStatus faultStatus
        return true
    | .subshell line body redirections =>
      modify fun state => { state with line := line }
      let targets ← targetsOf fuel redirections
      let ending ← runCopy fuel { mode with isLast := true } targets body
      Running.settle mode ending
      return true
    | .background line body =>
      modify fun state => { state with line := line }
      let before := (← get).streams
      modify fun state => state.setStream 0 (some .nothing)
      let ending ← Running.keepingStreams [0] before (runCopy fuel Mode.last [] body)
      modify fun state => { state with background := state.background ++ [ending], status := 0 }
      return true
    | .pipeline stages =>
      runStages fuel mode none stages
      return true
    | .negation body =>
      runScript fuel Mode.tested body
      let status := (← get).status
      Running.setStatus (if status = 0 then 1 else 0)
      return false
    | .both first second =>
      runScript fuel mode.inner first
      runScript fuel mode second
      return false
    | .onSuccess first second =>
      runScript fuel Mode.tested first
      if (← get).status = 0 then runScript fuel mode second
      return false
    | .onFailure first second =>
      runScript fuel Mode.tested first
      if (← get).status ≠ 0 then runScript fuel mode second
      return false
    | .each line name items body =>
      modify fun state => { state with line := line }
      let values ← items.flatMapM fun item => fieldsOf (capture fuel) item
      if values.isEmpty then Running.setStatus 0
      runEach fuel mode name body values
      return false
    | .choice condition yes no =>
      runScript fuel Mode.tested condition
      if (← get).status = 0 then runScript fuel mode yes
      else
        match no with
        | .nothing => Running.setStatus 0
        | no => runScript fuel mode no
      return false
    | .loop isUntil condition body =>
      runLoop fuel mode isUntil condition body
      return false
    | .cases line subject branches =>
      modify fun state => { state with line := line }
      let text ← textOf (capture fuel) subject
      runBranches fuel mode text branches
      return false
    | .define name body =>
      modify fun state =>
        { state with functions := Pairs.put state.functions name body, status := 0 }
      return false

def runEach : Nat → Mode → Chars → Script → List Chars → Running Unit
  | 0, _, _, _, _ => throw (.killed overflowSignal)
  | fuel + 1, mode, name, body, values => do
    let round (values : List Chars) : Running (List Chars × Bool) := do
      match values with
      | [] => return ([], false)
      | value :: others =>
        Running.assign name value
        let left ← Running.loopPart (runScript fuel mode.inner body)
        return (others, left.getD true)
    let _ ← Running.iterate round (values.length + 1) values

def runLoop : Nat → Mode → Bool → Script → Script → Running Unit
  | 0, _, _, _, _ => throw (.killed overflowSignal)
  | fuel + 1, mode, isUntil, condition, body => do
    let round (status : Nat) : Running (Nat × Bool) := do
      match ← Running.loopPart (runScript fuel Mode.tested condition) with
      | some goesOn => return (status, goesOn)
      | none =>
        if ((← get).status = 0) = isUntil then return (status, false)
        let left ← Running.loopPart (runScript fuel mode.inner body)
        return ((← get).status, left.getD true)
    Running.setStatus (← Running.iterate round roundLimit 0)

/-- Runs the first branch that a text fits. -/
def runBranches : Nat → Mode → Chars → List Branch → Running Unit
  | 0, _, _, _ => throw (.killed overflowSignal)
  | _ + 1, _, _, [] => Running.setStatus 0
  | fuel + 1, mode, text, .mk patterns body :: others => do
    let fits ← patterns.anyM fun pattern => do
      return (← patternOf (capture fuel) pattern).fits text
    if !fits then runBranches fuel mode text others
    else
      match body with
      | .nothing => Running.setStatus 0
      | body => runScript fuel mode body

/-- Runs a script in a copy of the interpreter, with some streams redirected there. -/
def runCopy : Nat → Mode → List (Nat × Target) → Script → Running Ending
  | 0, _, _, _ => throw (.killed overflowSignal)
  | fuel + 1, mode, targets, script =>
    Running.asCopy (finish fuel do
      targets.forM fun target => Running.redirect target.1 target.2
      runScript fuel mode script)

/-- Runs commands each of which reads what the one before it has written. -/
def runStages : Nat → Mode → Option Chars → List Script → Running Unit
  | 0, _, _, _ => throw (.killed overflowSignal)
  | fuel + 1, mode, input, stages => do
    let targets : List (Nat × Target) := match input with
      | some text => [(0, .text text)]
      | none => []
    let copied (stage : Script) : Running Ending :=
      runCopy fuel { mode with isLast := true } targets stage
    match stages with
    | [] => return
    | [stage] =>
      let ending ← copied stage
      Running.report ending
      Running.setStatus ending.code
    | stage :: others =>
      let (written, ending) ← Running.collecting (copied stage)
      Running.report ending
      runStages fuel mode (some written) others

/-- What a script writes, which is run in a copy of the interpreter. -/
def capture : Nat → Script → Running Chars
  | 0, _ => throw (.killed overflowSignal)
  | fuel + 1, script => do
    let (written, ending) ← Running.collecting (runCopy fuel Mode.last [] script)
    Running.report ending
    modify fun state => { state with outputStatus := ending.code }
    return written

/-- Where redirections lead. -/
def targetsOf : Nat → List Redirection → Running (List (Nat × Target))
  | 0, _ => throw (.killed overflowSignal)
  | fuel + 1, redirections =>
    redirections.mapM fun redirection => do
      match redirection with
      | .openFile stream mode name => return (stream, .file mode (← textOf (capture fuel) name))
      | .document stream content => return (stream, .text (← textOf (capture fuel) content))
      | .duplicate stream source =>
        match ← textOf (capture fuel) source with
        | ['-'] => return (stream, .stream none)
        | text =>
          match if text.length = 1 then Text.ofDigits? 10 text else none with
          | some source => return (stream, .stream (some source))
          | none =>
            modify fun state => { state with line := state.readLine }
            Running.fail "Syntax error: Bad fd number"

/-- The fields of the words of a command. -/
def wordFields : Nat → List Chars → List Word → Running (List Chars)
  | 0, _, _ => throw (.killed overflowSignal)
  | _ + 1, before, [] => return before
  | fuel + 1, before, word :: words => do
    let isWhole := (assignment? word).isSome && takesAssignments (← get) before
    let fields ←
      if isWhole then pure [← textOf (capture fuel) word] else fieldsOf (capture fuel) word
    wordFields fuel (before ++ fields) words

/-- The text before what tracing shows. -/
def traceStart : Nat → Running Chars
  | 0 => return []
  | fuel + 1 => do
    let text := ((← get).value? "PS4".toList).getD []
    match readText text with
    | .ok word => textOf (capture fuel) word
    | .error _ => return text

/-- Runs a simple command: words and redirections are worked out first, then what is assigned before it. -/
def runSimple : Nat → Mode → Nat → List (Chars × Word) → List Word → List Redirection → Running Unit
  | 0, _, _, _, _, _ => throw (.killed overflowSignal)
  | fuel + 1, mode, line, assignments, words, redirections => do
    modify fun state => { state with line := line, outputStatus := 0 }
    let fields ← wordFields fuel [] words
    let state ← get
    let call := state.call? fields
    let isSpecial := call.any fun call => !call.isPlain && (state.meaningOf call).isSpecial
    let isReplacing := call.any fun call =>
      call.name = "exec".toList && (state.meaningOf call).isSpecial
    let hasScope := call.isSome && !isSpecial
    let isExported := isReplacing && call.any fun call => !call.arguments.isEmpty
    if hasScope then Running.openScope
    let result ← Running.attempt do
      let targets ← targetsOf fuel redirections
      let before := (← get).streams
      if ← Running.redirectAll targets then
        let perform : Running Unit := do
          let values ← assignments.mapM fun (name, word) => do
            let value ← textOf (capture fuel) word
            Running.assignBefore hasScope isExported name value
            return name ++ '=' :: value
          if (← get).isOn 'x' then
            let start ← traceStart fuel
            modify fun state =>
              (state.writeTo? (Pairs.get? before 2) (traceLine start (values ++ fields))).getD state
          match call with
          | some call => runCall fuel mode isSpecial call
          | none => modify fun state => { state with status := state.outputStatus }
        Running.keepingStreams (if isReplacing then [] else targets.map Prod.fst) before perform
      else
        Running.setStatus faultStatus
        if isSpecial then throw .failed
    if hasScope then Running.closeScope
    Running.ofExcept result

/-- Runs what the name of a command stands for. -/
def runCall : Nat → Mode → Bool → Call → Running Unit
  | 0, _, _, _ => throw (.killed overflowSignal)
  | fuel + 1, mode, isSpecial, call => do
    let state ← get
    match state.meaningOf call with
    | .function body => runFunction fuel mode body call.arguments
    | .special | .ordinary => runBuiltin fuel mode isSpecial call
    | .absent isRefused =>
      Running.complain (call.name.shown ++ ": " ++
        (if isRefused then Errno.accessDenied.text else "not found"))
      Running.setStatus 127
    | .program paths =>
      let words := (call.name :: call.arguments).map Chars.shown
      match startWords state words .noEntry paths with
      | .error errno =>
        Running.complain (call.name.shown ++ ": " ++ startText errno)
        Running.setStatus (startStatus errno)
      | .ok started =>
        let ending ← Running.asProcess (startInterpreter fuel (started.map Chars.ofText))
        Running.settle mode ending

/-- Calls a function. Its arguments, its loops and the options among its arguments are its own. -/
def runFunction : Nat → Mode → Script → List Chars → Running Unit
  | 0, _, _, _ => throw (.killed overflowSignal)
  | fuel + 1, mode, body, arguments => do
    let before ← get
    if before.calls ≥ greatestCallDepth then
      Running.fail ("Maximum function recursion depth (" ++ Text.digits 10 greatestCallDepth ++ ") reached")
    set {
      before with
      arguments := arguments, loops := 0, calls := before.calls + 1, optionIndex := 1, optionOffset := none }
    let result ← Running.attempt (Running.untilLeft (runScript fuel mode.inner body))
    modify fun state => {
      state with
      arguments := before.arguments
      loops := before.loops
      calls := before.calls
      optionIndex := before.optionIndex
      optionOffset := before.optionOffset }
    Running.ofExcept result

/-- Runs a command of the interpreter itself. A mistake in one that is not special is no more than a status. -/
def runBuiltin : Nat → Mode → Bool → Call → Running Unit
  | 0, _, _, _ => throw (.killed overflowSignal)
  | fuel + 1, mode, isSpecial, call => do
    let command := (← get).command
    modify fun state => { state with command := some call.name }
    let name := String.ofList call.name
    let result ← Running.attempt (match name with
      | "eval" => runWords fuel mode call.arguments
      | "." => runFile fuel call.arguments
      | "exec" => runInstead fuel call.arguments
      | "command" => Running.describeCommand call.arguments
      | _ =>
        if (specialCommands.contains name) then Running.special name call.arguments
        else Running.ordinary name call.arguments)
    modify fun state => { state with command := command }
    match result with
    | .ok status => Running.setStatus status
    | .error .failed => if isSpecial then throw .failed
    | .error interruption => throw interruption

/-- Runs words as a script. -/
def runWords : Nat → Mode → List Chars → Running Nat
  | 0, _, _ => throw (.killed overflowSignal)
  | fuel + 1, mode, words => do
    runText fuel mode.inner false (Text.joinWith [' '] words)
    return (← get).status

/-- Runs the script in a file as a part of this one. -/
def runFile : Nat → List Chars → Running Nat
  | 0, _ => throw (.killed overflowSignal)
  | fuel + 1, arguments => do
    match ← Running.withoutOptions arguments with
    | [] => return 0
    | name :: _ =>
      let state ← get
      let isFile (path : String) : Bool := (state.files.readFile state.cwd path).isOk
      let found := if name.contains '/' then some name.shown
        else (Process.candidates state.searchPath name.shown).find? isFile
      match found with
      | none => Running.fail (name.shown ++ ": not found")
      | some path =>
        match state.files.readFile state.cwd path with
        | .error errno =>
          if errno = .isDirectory then return 0
          Running.fail (refusalText .reading (Chars.ofText path) errno)
        | .ok bytes =>
          modify fun state => { state with command := some (Chars.ofText path) }
          Running.untilLeft (runText fuel Mode.plain true (Chars.ofBytes bytes))
          return (← get).status

/-- Runs a program in place of the interpreter, which ends as the program does. -/
def runInstead : Nat → List Chars → Running Nat
  | 0, _ => throw (.killed overflowSignal)
  | fuel + 1, arguments => do
    match ← Running.withoutOptions arguments with
    | [] => return 0
    | name :: others =>
      let state ← get
      let words := (name :: others).map Chars.shown
      match startWords state words .noEntry (Process.candidates state.searchPath name.shown) with
      | .error errno =>
        Running.complain (name.shown ++ ": " ++ startText errno)
        Running.setStatus (startStatus errno)
        throw (.ended (.exited (startStatus errno)))
      | .ok started =>
        let ending ← Running.asProcess (startInterpreter fuel (started.map Chars.ofText))
        modify fun state => { state with traps := [] }
        throw (.ended ending)

/-- Does what is to be done about signals that have come. -/
def runTraps : Nat → Running Unit
  | 0 => throw (.killed overflowSignal)
  | fuel + 1 => do
    let state ← get
    if state.pending.isEmpty || state.mainTraps.isSome then return
    set { state with pending := [] }
    (state.pending.eraseDups.mergeSort (· ≤ ·)).forM fun signal => do
      let before ← get
      match Pairs.get? before.traps signal with
      | none => return
      | some text =>
        set { before with statusBefore := some (before.statusBefore.getD before.status) }
        let result ← Running.attempt (runText fuel Mode.plain false text)
        modify fun state => { state with statusBefore := before.statusBefore }
        match result with
        | .ok () => Running.setStatus before.status
        | .error interruption => throw interruption

/-- Runs a text line by line. -/
def runText : Nat → Mode → Bool → Chars → Running Unit
  | 0, _, _, _ => throw (.killed overflowSignal)
  | fuel + 1, mode, isFile, text => do
    let readLine := (← get).readLine
    let step (course : Course) : Running (Course × Bool) := do
      let source := { course.source with aliases := (← get).aliases }
      match Shell.readLine.run source with
      | .error fault =>
        modify fun state => { state with line := fault.line }
        Running.fail ("Syntax error: " ++ fault.message)
      | .ok (none, source) => return (⟨source, course.status⟩, false)
      | .ok (some script, after) =>
        modify fun state => { state with readLine := after.line }
        if isFile && (← get).isOn 'v' then
          let shown := source.text.take (source.text.length - after.text.length)
          modify fun state => (state.write? 2 shown).getD state
        let isAtEnd := match after.pending with
          | some .endOfText => true
          | _ => false
        runScript fuel { mode with isLast := mode.isLast && isAtEnd } script
        match script with
        | .nothing => return (⟨after, course.status⟩, true)
        | _ => return (⟨after, (← get).status⟩, true)
    let course ← Running.iterate step (text.length + 2) ⟨Source.start text [], 0⟩
    modify fun state => { state with status := course.status, readLine := readLine }

/-- Runs the interpreter, or a copy of it, to its end, with what is to be done there. -/
def finish : Nat → Running Unit → Running Ending
  | 0, _ => throw (.killed overflowSignal)
  | fuel + 1, running => do
    match ← Running.attempt running with
    | .error (.killed signal) => throw (.killed signal)
    | .error (.ended (.killed signal)) => return .killed signal
    | result =>
      let state ← get
      let status := match result with
        | .error (.ended ending) => ending.code
        | _ => state.status
      match Pairs.get? state.traps 0 with
      | none => return .exited status
      | some text =>
        set {
          state with
          status := status, traps := Pairs.erase state.traps 0, statusBefore := some status }
        match ← Running.attempt (runText fuel Mode.plain false text) with
        | .error (.killed signal) => throw (.killed signal)
        | .error (.ended ending) => return ending
        | .error .failed => return .exited faultStatus
        | _ => return .exited status

/-- Starts the interpreter with some words, of which the first one is its name. -/
def startInterpreter : Nat → List Chars → Running Ending
  | 0, _ => throw (.killed overflowSignal)
  | fuel + 1, words =>
    finish fuel do
      modify fun state => { state with name := words.headD [] }
      let remainder ← Running.setOptions true words.length (words.drop 1)
      let named (name : Chars) (arguments : List Chars) : Running Unit :=
        modify fun state => { state with name := name, arguments := arguments }
      match remainder.isText, remainder.rest with
      | true, [] => Running.fail "-c requires an argument"
      | true, text :: rest =>
        match rest with
        | name :: arguments => named name arguments
        | [] => pure ()
        Running.untilLeft (runText fuel (if (← get).isOn 's' then Mode.plain else Mode.last) false text)
      | false, rest =>
        let state ← get
        match if state.isOn 's' then [] else rest with
        | [] =>
          named state.name rest
          let text := state.unread 0
          modify fun state => state.advance 0 text.length
          Running.untilLeft (runText fuel Mode.plain true text)
        | name :: arguments =>
          match state.files.readFile state.cwd name.shown with
          | .error errno =>
            if errno ≠ .isDirectory then Running.fail (refusalText .reading name errno)
          | .ok bytes =>
            named name arguments
            Running.untilLeft (runText fuel Mode.plain true (Chars.ofBytes bytes))

end

/-- Scripts are not nested more deeply than this. -/
def runningDepth : Nat := 20000

/-- Runs the interpreter with its words, the first of which is its own name. -/
def run (environment : Environment) (words : List String) : Environment × Ending :=
  let (result, state) :=
    (startInterpreter runningDepth (words.map Chars.ofText)).run (State.start environment)
  let ending := match result with
    | .ok ending => ending
    | .error (.killed signal) => .killed signal
    | .error _ => .exited faultStatus
  (state.environment, ending)

end Bookbinder.Shell
