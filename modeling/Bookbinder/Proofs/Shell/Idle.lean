import Bookbinder.Proofs.Machine.Operations
import Bookbinder.Workbench.System

/-!
Scripts that hold nothing to run. Main statement: a command that starts such a script exits with zero and
changes nothing but what is told.
-/

set_option autoImplicit false

namespace Bookbinder

open Action (perform)

/-- A file with a line that names the system's interpreter is started as its script. -/
theorem Process.start_of_interpreterLine {files : FileSystem} {cwd : WorkingDirectory}
    {path interpreter program : String} {words : List String} {content : Content}
    (script : files.status cwd path = .ok (.file content)) (may : mayExecute content = true)
    (line : interpreterLine? content.bytes = some (interpreter, none))
    (shell : files.status cwd interpreter = .ok .shell) (depth : Nat) :
    start files cwd (depth + 1) path (program :: words) = .ok (interpreter :: path :: words) := by
  rw [start, script]
  simp only [bind, Except.bind, may, line]
  rw [start, shell]
  rfl

namespace Shell

namespace Running

variable {α β : Type}

theorem run_pure (value : α) (state : State) : (pure value : Running α).run state = (.ok value, state) :=
  rfl

theorem run_get (state : State) : (get : Running State).run state = (.ok state, state) := rfl

theorem run_modify (step : State → State) (state : State) :
    (modify step : Running Unit).run state = (.ok (), step state) := rfl

theorem run_attempt (running : Running α) (state : State) :
    (attempt running).run state = (.ok (running.run state).1, (running.run state).2) := rfl

theorem run_bind (running : Running α) (next : α → Running β) (state : State) :
    (running >>= next).run state =
      match running.run state with
      | (.ok value, after) => (next value).run after
      | (.error interruption, after) => (.error interruption, after) := by
  simp only [run, bind, ExceptT.bind, ExceptT.mk, ExceptT.run, StateT.run, StateT.bind,
    ExceptT.bindCont]
  rcases running state with ⟨result, after⟩
  cases result <;> rfl

end Running

/-- A text in which the interpreter finds nothing but the end. -/
def HoldsNothing (text : Chars) : Prop := ∃ after, readLine.run (Source.start text []) = .ok (none, after)

/-- Nothing is set by which a text is read, or its end met, in another way. -/
structure State.IsPlain (state : State) : Prop where
  aliases : state.aliases = []
  options : state.options = []
  traps : state.traps = []

theorem run_runText_of_holdsNothing {text : Chars} (nothing : HoldsNothing text) (state : State)
    (aliases : state.aliases = []) (fuel : Nat) (mode : Mode) (isFile : Bool) :
    (runText (fuel + 1) mode isFile text).run state = (.ok (), { state with status := 0 }) := by
  obtain ⟨after, read⟩ := nothing
  have here : readLine.run { Source.start text [] with aliases := state.aliases } = .ok (none, after) := by
    rw [aliases]
    exact read
  rw [runText]
  simp only [Running.run_bind, Running.run_get, Running.iterate, here, Running.run_modify]
  rfl

variable {state : State} {interpreter path : Chars} {bytes : Text.Bytes}

/-- The name of a script is no option. -/
theorem run_setOptions_of_name {first : Char} {letters : Chars} (name : path = first :: letters)
    (noOption : first ≠ '-' ∧ first ≠ '+') (fuel : Nat) :
    (Running.setOptions true (fuel + 1) [path]).run state = (.ok ⟨[path], false, false⟩, state) := by
  subst name
  rw [Running.setOptions]
  · simp only [noOption.1, noOption.2, ne_eq, not_false_eq_true, and_self, if_true]
    rfl
  · exact fun same _ => noOption.1 same
  · exact fun same _ => noOption.1 same

theorem run_startInterpreter_of_holdsNothing (plain : state.IsPlain) {first : Char} {letters : Chars}
    (name : path = first :: letters) (noOption : first ≠ '-' ∧ first ≠ '+')
    (read : state.files.readFile state.cwd path.shown = .ok bytes)
    (nothing : HoldsNothing (Chars.ofBytes bytes)) (fuel : Nat) :
    ∃ last, (startInterpreter (fuel + 3) [interpreter, path]).run state = (.ok (.exited 0), last) ∧
      last.files = state.files := by
  have started : (Running.setOptions true [interpreter, path].length [path]).run
      { state with name := interpreter } = _ := run_setOptions_of_name name noOption 1
  have ran := run_runText_of_holdsNothing nothing { state with name := path, arguments := [] } plain.aliases
    (fuel + 1) Mode.plain true
  have off : state.options.contains 's' = false := by rw [plain.options, List.contains_nil]
  have untrapped : Pairs.get? state.traps 0 = none := by rw [plain.traps, Pairs.get?]
  rw [startInterpreter, finish]
  simp only [Running.run_bind, Running.run_attempt, Running.run_get, Running.run_modify, List.headD_cons,
    List.drop_succ_cons, List.drop_zero, started, State.isOn, off, Bool.false_eq_true, if_false, read,
    Running.untilLeft, ran]
  simp only [Running.run_pure, Running.run_bind, Running.run_get, untrapped]
  exact ⟨_, rfl, rfl⟩

/-- What the interpreter starts with where it only gets variables and streams. -/
theorem State.start_shellEnvironment (machine : Machine) (place : WorkingDirectory)
    (exported : List (String × String)) {started : State}
    (starts : started = State.start (Workbench.shellEnvironment machine place exported)) :
    started.IsPlain ∧ started.files = machine.files ∧ started.cwd = place := by
  rw [starts, State.start]
  simp only
  split
  · exact ⟨⟨rfl, rfl, rfl⟩, rfl, rfl⟩
  · exact ⟨⟨rfl, rfl, rfl⟩, rfl, rfl⟩

/-- The interpreter with such a script exits with zero and leaves all files as they are. -/
theorem run_of_holdsNothing {machine : Machine} {place : WorkingDirectory} {script shell : String}
    {first : Char} {letters : Chars} (exported : List (String × String))
    (name : Chars.ofText script = first :: letters) (noOption : first ≠ '-' ∧ first ≠ '+')
    (read : machine.files.readFile place (Chars.ofText script).shown = .ok bytes)
    (nothing : HoldsNothing (Chars.ofBytes bytes)) :
    ∃ left, run (Workbench.shellEnvironment machine place exported) [shell, script] = (left, .exited 0) ∧
      left.files = machine.files := by
  obtain ⟨started, starts⟩ :
    ∃ started, started = State.start (Workbench.shellEnvironment machine place exported) := ⟨_, rfl⟩
  obtain ⟨plain, files, cwd⟩ := State.start_shellEnvironment machine place exported starts
  rw [← files, ← cwd] at read
  obtain ⟨last, ran, kept⟩ : ∃ last, (startInterpreter runningDepth
      ([shell, script].map Chars.ofText)).run started = (.ok (.exited 0), last) ∧
      last.files = started.files :=
    run_startInterpreter_of_holdsNothing plain name noOption read nothing 19997
  refine ⟨last.environment, ?_, kept.trans files⟩
  rw [run, ← starts, ran]

end Shell

namespace Workbench

variable {machine : Machine} {directory : Path} {place : WorkingDirectory}
  {exported : List (String × String)} {program script shell : String} {words : List String}
  {bytes : Text.Bytes}

/-- A command that starts a script with nothing to run exits with zero, and only what is told is changed. -/
theorem perform_runCommand_of_holdsNothing
    (noNul : ((program :: words).any holdsNul || holdsNul directory.text) = false)
    (enters : machine.files.enter machine.cwd directory.text = .ok place)
    (launches : Process.launch machine.files place (searchPath exported) program (program :: words) =
      .ok [shell, script])
    {first : Char} {letters : Shell.Chars} (name : Shell.Chars.ofText script = first :: letters)
    (noOption : first ≠ '-' ∧ first ≠ '+')
    (read : machine.files.readFile place (Shell.Chars.ofText script).shown = .ok bytes)
    (nothing : Shell.HoldsNothing (Shell.Chars.ofBytes bytes)) :
    ∃ emissions, perform (runCommand exported (program :: words) directory) machine =
      (.ok 0, { machine with emissions := emissions }) := by
  -- what is told before is in the machine in which the interpreter runs
  obtain ⟨line, told⟩ : ∃ line, line = Action.trace commandOrigin ("Running command: " ++
    Text.quotedList (program :: words) ++ " (cwd=" ++ directory.text ++ ")") := ⟨_, rfl⟩
  obtain ⟨emission, emitted⟩ : ∃ emission, line = Action.emit emission := ⟨_, told⟩
  obtain ⟨left, ran, kept⟩ : ∃ left, Shell.run (shellEnvironment
      { machine with emissions := machine.emissions ++ [emission] } place exported) [shell, script] =
      (left, .exited 0) ∧ left.files = machine.files :=
    Shell.run_of_holdsNothing exported name noOption read nothing
  rw [runCommand, ← told, emitted]
  simp only [Action.perform_bind, Action.perform_emit, noNul, Bool.false_eq_true, if_false,
    Action.perform_pure, Action.perform_get, enters, launches, runShell, ran, Action.perform_set, kept]
  exact ⟨_, rfl⟩

end Workbench

end Bookbinder
