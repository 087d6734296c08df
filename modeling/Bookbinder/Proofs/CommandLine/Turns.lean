import Bookbinder.Proofs.CommandLine.Building
import Bookbinder.Proofs.Delivery.Reports
import Bookbinder.Proofs.Workbench.Outside

/-!
How each part of a build turned out, as seen from outside of the program: from what the operating system
makes of a command, and from what comes of a fetch. Main statement: the status that comes of the steps of a
build is that of the first part that did not go well.
-/

set_option autoImplicit false

namespace Bookbinder

open Action (perform)

/-- How a part of a build turned out. -/
inductive Turn where
  | done
  | exited (code : Nat)
  | killed (signal : Nat)
  | notFound
  | notExecutable
  | failed
  | stopped
  /-- The program ends without a status of its own. -/
  | crashed
  deriving DecidableEq, Repr

namespace Turn

def isGood : Turn → Bool
  | .done | .exited 0 => true
  | _ => false

/-- The status of a program that ends because of it. -/
def status? : Turn → Option Int
  | .done => some 0
  | .exited code => some code
  | .killed signal => some (128 + signal)
  | .notFound => some 127
  | .notExecutable => some 126
  | .failed => some 1
  | .stopped => some 130
  | .crashed => none

/-- The status after some turns: that of the first one that is not good. -/
def firstStatus? : List Turn → Option Int
  | [] => some 0
  | turn :: rest => if turn.isGood then firstStatus? rest else turn.status?

def ofEnding : Shell.Ending → Turn
  | .exited status => .exited (status % 256)
  | .killed signal => .killed signal

def ofErrno : Errno → Turn
  | .noEntry => .notFound
  | .accessDenied | .notPermitted => .notExecutable
  | _ => .crashed

/-- Exit codes are bytes, and there are 64 signals. -/
def InBounds : Turn → Prop
  | .exited code => code < 256
  | .killed signal => signal ≤ 64
  | _ => True

theorem firstStatus?_of_bad {turn : Turn} (bad : turn.isGood = false) (rest : List Turn) :
    firstStatus? (turn :: rest) = turn.status? := by
  simp [firstStatus?, bad]

theorem firstStatus?_of_good {turn : Turn} (good : turn.isGood = true) (rest : List Turn) :
    firstStatus? (turn :: rest) = firstStatus? rest := by
  simp [firstStatus?, good]

/-- Nothing that went wrong counts as success. -/
theorem isGood_iff (turn : Turn) : turn.isGood = true ↔ turn.status? = some 0 := by
  cases turn with
  | exited code => cases code <;> simp [isGood, status?]; omega
  | killed signal => simp [isGood, status?]; omega
  | _ => simp [isGood, status?]

theorem firstStatus?_eq_zero (turns : List Turn) :
    firstStatus? turns = some 0 ↔ ∀ turn ∈ turns, turn.isGood = true := by
  induction turns with
  | nil => simp [firstStatus?]
  | cons turn rest ih =>
    cases good : turn.isGood with
    | true => simp [firstStatus?_of_good good, good, ih]
    | false =>
      have lost : turn.status? ≠ some 0 := by simp [← isGood_iff, good]
      simp [firstStatus?_of_bad good, good, lost]

theorem status?_bounds {turn : Turn} {code : Int} (bounds : turn.InBounds)
    (status : turn.status? = some code) : 0 ≤ code ∧ code ≤ 255 := by
  cases turn <;> simp [status?, InBounds] at status bounds <;> omega

theorem firstStatus?_bounds {turns : List Turn} {code : Int} (bounds : ∀ turn ∈ turns, turn.InBounds)
    (status : firstStatus? turns = some code) : 0 ≤ code ∧ code ≤ 255 := by
  induction turns with
  | nil =>
    cases status
    decide
  | cons turn rest ih =>
    cases good : turn.isGood with
    | true =>
      rw [firstStatus?_of_good good] at status
      exact ih (fun other member => bounds other (List.mem_cons_of_mem _ member)) status
    | false =>
      rw [firstStatus?_of_bad good] at status
      exact status?_bounds (bounds turn List.mem_cons_self) status

theorem ofErrno_inBounds (errno : Errno) : (ofErrno errno).InBounds := by
  cases errno <;> trivial

end Turn

/-! ### What a turn says about an answer -/

namespace CommandLine

/-- The status of a program whose build ends in some way, if it has one. -/
def statusOf? (ending : Except Failure Build.Outcome) : Option Int :=
  (exitOf (settled ending >>= concluded)).toOption

theorem statusOf?_archive (fault : Archive.Fault) :
    statusOf? (.error (.archive fault)) = if isAbort (.archive fault) then some 1 else none := by
  have taken : statusOf? (.error (.archive fault)) =
      (if isAbort (.archive fault) then .ok 1 else .error (.archive fault) : Except Failure Int).toOption := rfl
  rw [taken]
  split <;> rfl

/-- The status that comes of the exit code of a command, or of its failure. -/
def replyStatus? : Except Failure Int → Option Int
  | .ok code => some code
  | .error failure => statusOf? (.error failure)

end CommandLine

open CommandLine (statusOf? replyStatus?)

/-- A turn tells what a command answers: whether all goes on, and if not, with which status the program ends. -/
structure Turn.Tells (turn : Turn) (reply : Except Failure Int) : Prop where
  good : turn.isGood = true ↔ reply = .ok 0
  status : turn.status? = replyStatus? reply

theorem Turn.tells_crashed {failure : Failure} (none : statusOf? (.error failure) = none) :
    Turn.crashed.Tells (.error failure) :=
  ⟨by simp [Turn.isGood], none.symm⟩

theorem Turn.tells_code {turn : Turn} {code : Int} (status : turn.status? = some code) :
    turn.Tells (.ok code) :=
  ⟨by simp [turn.isGood_iff, status], status⟩

theorem Turn.tells_ofErrno (program : String) (errno : Errno) (subject : Subject) (machine : Machine) :
    (Turn.ofErrno errno).Tells (perform (Workbench.reportStart program errno subject) machine).1 := by
  cases errno with
  | noEntry => exact Turn.tells_code rfl
  | accessDenied => exact Turn.tells_code rfl
  | notPermitted => exact Turn.tells_code rfl
  | _ => exact Turn.tells_crashed rfl

theorem Turn.tells_ofEnding (ending : Shell.Ending) : (Turn.ofEnding ending).Tells (.ok ending.code) := by
  apply Turn.tells_code
  cases ending <;> rfl

/-- What is brought is there. Data that end too early are a failure to bring it. -/
def Turn.ofFetch : Except Failure Unit → Turn
  | .ok () => .done
  | .error (.delivery _) => .failed
  | .error failure => if CommandLine.isAbort failure then .failed else .crashed

theorem Turn.ofFetch_archive (fault : Archive.Fault) :
    (Turn.ofFetch (.error (.archive fault))).isGood = false ∧
      (Turn.ofFetch (.error (.archive fault))).status? = statusOf? (.error (.archive fault)) := by
  rw [CommandLine.statusOf?_archive, Turn.ofFetch]
  · cases CommandLine.isAbort (.archive fault) <;> exact ⟨rfl, rfl⟩
  · intro told same
    cases same

/-! ### Commands -/

namespace Outside

open Workbench (commandOrigin searchPath shellEnvironment)

def told (words : List String) (directory : Path) (machine : Machine) : Machine :=
  { machine with emissions := machine.emissions ++
      [.trace commandOrigin
        ("Running command: " ++ Text.quotedList words ++ " (cwd=" ++ directory.text ++ ")")] }

/-- Where a command is started, and with which words; or why it is not. -/
def starts (outside : Outside) (machine : Machine) (directory : Path) :
    List String → Except Turn (WorkingDirectory × List String)
  | [] => .error .crashed
  | program :: rest => do
    if (program :: rest).any holdsNul || holdsNul directory.text then throw .crashed
    let place ← (machine.files.enter machine.cwd directory.text).mapError Turn.ofErrno
    let arguments ← (outside.launch machine.files place (searchPath outside.exported) program
      (program :: rest)).mapError Turn.ofErrno
    return (place, arguments)

section

variable {outside : Outside} {machine : Machine} {directory : Path} {program : String} {rest : List String}

theorem starts_of_holdsNul (unclean : ((program :: rest).any holdsNul || holdsNul directory.text) = true) :
    outside.starts machine directory (program :: rest) = .error .crashed := by
  simp only [starts, unclean, if_true]
  rfl

variable (clean : ((program :: rest).any holdsNul || holdsNul directory.text) = false)

include clean

theorem starts_of_refused {errno : Errno} (refused : machine.files.enter machine.cwd directory.text = .error errno) :
    outside.starts machine directory (program :: rest) = .error (.ofErrno errno) := by
  simp only [starts, clean, refused, Bool.false_eq_true, if_false]
  rfl

theorem starts_of_enter {place : WorkingDirectory}
    (entered : machine.files.enter machine.cwd directory.text = .ok place) :
    outside.starts machine directory (program :: rest) =
      match outside.launch machine.files place (searchPath outside.exported) program (program :: rest) with
      | .error errno => .error (.ofErrno errno)
      | .ok arguments => .ok (place, arguments) := by
  simp only [starts, clean, entered, Bool.false_eq_true, if_false]
  change (outside.launch machine.files place (searchPath outside.exported) program
    (program :: rest)).mapError Turn.ofErrno >>= (fun arguments => pure (place, arguments)) = _
  cases outside.launch machine.files place (searchPath outside.exported) program (program :: rest) <;> rfl

end

/-- How a command turns out that nobody stops. -/
def runTurn (outside : Outside) (machine : Machine) (words : List String) (directory : Path) : Turn :=
  match outside.starts machine directory words with
  | .error turn => turn
  | .ok (place, arguments) =>
    .ofEnding
      (outside.run (shellEnvironment (told words directory machine) place outside.exported) arguments).2

def commandTurn (outside : Outside) (machine : Machine) (words : List String) (directory : Path) : Turn :=
  match outside.stops machine (.command words directory) with
  | some _ => .stopped
  | none => outside.runTurn machine words directory

variable (outside : Outside) (machine : Machine)

theorem tells_runCommand (words : List String) (directory : Path) :
    (outside.runTurn machine words directory).Tells
      (perform (outside.runCommand words directory) machine).1 := by
  have begun : perform (Action.trace commandOrigin
      ("Running command: " ++ Text.quotedList words ++ " (cwd=" ++ directory.text ++ ")")) machine =
      (.ok (), told words directory machine) := rfl
  unfold runCommand runTurn
  rw [Action.perform_bind, begun]
  cases words with
  | nil => exact Turn.tells_crashed rfl
  | cons program rest =>
    simp only
    cases unclean : (program :: rest).any holdsNul || holdsNul directory.text with
    | true =>
      rw [starts_of_holdsNul unclean]
      exact Turn.tells_crashed rfl
    | false =>
      simp only [Bool.false_eq_true, if_false, Action.perform_bind, Action.perform_get]
      have files : (told (program :: rest) directory machine).files = machine.files := rfl
      have cwd : (told (program :: rest) directory machine).cwd = machine.cwd := rfl
      rw [files, cwd]
      cases entered : machine.files.enter machine.cwd directory.text with
      | error errno =>
        rw [starts_of_refused unclean entered]
        exact Turn.tells_ofErrno program errno _ _
      | ok place =>
        simp only [starts_of_enter unclean entered]
        cases launched : outside.launch machine.files place (searchPath outside.exported) program
            (program :: rest) with
        | error errno => exact Turn.tells_ofErrno program errno _ _
        | ok arguments => exact Turn.tells_ofEnding _

theorem tells_run (words : List String) (directory : Path) :
    (outside.commandTurn machine words directory).Tells
      (perform (outside.workbench.run words directory) machine).1 := by
  simp only [workbench, perform_unlessStopped, commandTurn]
  cases stopped : outside.stops machine (.command words directory) with
  | some left => exact ⟨by simp [Turn.isGood], rfl⟩
  | none => exact outside.tells_runCommand machine words directory

/-! ### The tool -/

def fetchTurn (outside : Outside) (release : Release) (directory : Path) (machine : Machine) : Turn :=
  match release.url with
  | .error _ => .crashed
  | .ok url =>
    match outside.stops machine (.fetch url directory) with
    | some _ => .stopped
    | none => .ofFetch (perform (Delivery.fetch outside.supply url directory) machine).1

def installed? (outside : Outside) (release : Release) (machine : Machine) : Option String :=
  Process.which machine.files machine.cwd (searchPath outside.exported) release.name

/-- How the tool turns out: it is there, or its release is asked for. -/
def toolTurn (outside : Outside) (release : Release) (directory : Path) (machine : Machine) : Turn :=
  match outside.stops machine (.lookup release.name) with
  | some _ => .stopped
  | none =>
    match outside.installed? release machine with
    | some _ => .done
    | none =>
      outside.fetchTurn release directory
        (Tool.announced release (perform (outside.workbench.findTool release.name) machine).2)

theorem perform_findTool (release : Release) :
    (perform (outside.workbench.findTool release.name) machine).1 =
      match outside.stops machine (.lookup release.name) with
      | some _ => .error .interrupted
      | none => .ok (outside.installed? release machine) := by
  simp only [workbench, perform_unlessStopped]
  cases stopped : outside.stops machine (.lookup release.name) with
  | some left => rfl
  | none => rfl

/-- What comes of a fetch, and what its turn says about it. -/
theorem fetch_cases {release : Release} {url : String} (address : release.url = .ok url) (directory : Path) :
    ((outside.fetchTurn release directory machine).isGood = true ∧
      (perform (outside.workbench.fetch url directory) machine).1 = .ok ()) ∨
    ((outside.fetchTurn release directory machine) = .failed ∧
      ∃ fault, (perform (outside.workbench.fetch url directory) machine).1 = .error (.delivery fault)) ∨
    ((outside.fetchTurn release directory machine).isGood = false ∧ ∃ failure,
      (perform (outside.workbench.fetch url directory) machine).1 = .error failure ∧
      (∀ fault, failure ≠ .delivery fault) ∧
      (outside.fetchTurn release directory machine).status? = statusOf? (.error failure)) := by
  simp only [fetchTurn, address, workbench, perform_unlessStopped]
  cases stopped : outside.stops machine (.fetch url directory) with
  | some left => exact .inr (.inr ⟨rfl, _, rfl, by simp, rfl⟩)
  | none =>
    have ends := (Delivery.failsOnly_fetch_unchosen outside.supply url directory).ends machine
    simp only
    generalize (perform (Delivery.fetch outside.supply url directory) machine).1 = reply at ends ⊢
    cases reply with
    | ok done => exact .inl ⟨rfl, rfl⟩
    | error failure =>
      simp only at ends
      cases failure with
      | delivery fault => exact .inr (.inl ⟨rfl, _, rfl⟩)
      -- a fetch that nobody stops neither is interrupted nor exits
      | interrupted => exact absurd rfl ends.1
      | exit status => exact absurd rfl (ends.2 status)
      | archive fault =>
        obtain ⟨bad, status⟩ := Turn.ofFetch_archive fault
        exact .inr (.inr ⟨bad, _, rfl, by simp, status⟩)
      | _ => exact .inr (.inr ⟨rfl, _, rfl, by simp, rfl⟩)

end Outside

namespace Build

variable {context : Context}

theorem resolveTool_fst (directory : Path) (machine : Machine) :
    (perform (resolveTool context directory) machine).1 =
      taken (perform (Tool.resolve context.workbench context.settings.release directory) machine).1 := by
  rw [resolveTool, Action.perform_bind, Action.perform_attempt]
  rcases perform (Tool.resolve context.workbench context.settings.release directory) machine with
    ⟨result, after⟩
  cases result with
  | ok tool => rfl
  | error failure => cases failure <;> rfl

variable {outside : Outside} (others : context.workbench = outside.workbench)

include others

theorem resolveTool_cases (directory : Path) (machine : Machine) :
    ((outside.toolTurn context.settings.release directory machine).isGood = true ∧
      (perform (resolveTool context directory) machine).1 =
        .ok (some (toolOf context.settings.release (outside.installed? context.settings.release machine)))) ∨
    ((outside.toolTurn context.settings.release directory machine).isGood = false ∧
      (perform (resolveTool context directory) machine).1 = .ok none ∧
      (outside.toolTurn context.settings.release directory machine).status? = some resolveExitCode) ∨
    ((outside.toolTurn context.settings.release directory machine).isGood = false ∧ ∃ failure,
      (perform (resolveTool context directory) machine).1 = .error failure ∧
      (outside.toolTurn context.settings.release directory machine).status? =
        statusOf? (.error failure)) := by
  have looked := outside.perform_findTool machine context.settings.release
  unfold Outside.toolTurn
  rw [resolveTool_fst, others]
  cases stopped : outside.stops machine (.lookup context.settings.release.name) with
  | some left =>
    rw [stopped] at looked
    refine .inr (.inr ⟨rfl, .interrupted, ?_, rfl⟩)
    rw [Tool.resolve, Action.perform_bind]
    generalize perform (outside.workbench.findTool context.settings.release.name) machine = found at looked
    rcases found with ⟨result, after⟩
    cases looked
    rfl
  | none =>
    rw [stopped] at looked
    simp only at looked ⊢
    obtain ⟨after, found⟩ : ∃ after, perform (outside.workbench.findTool context.settings.release.name)
        machine = (.ok (outside.installed? context.settings.release machine), after) :=
      ⟨_, Prod.ext looked rfl⟩
    rw [found]
    cases path : outside.installed? context.settings.release machine with
    | some path =>
      rw [path] at found
      obtain ⟨emissions, resolved⟩ := Tool.perform_resolve_of_found directory found
      rw [resolved]
      exact .inl ⟨rfl, rfl⟩
    | none =>
      rw [path] at found
      simp only
      cases address : context.settings.release.url with
      | error fault =>
        refine .inr (.inr ⟨by simp [Outside.fetchTurn, address, Turn.isGood], .template fault, ?_, ?_⟩)
        · simp only [Tool.resolve, Action.perform_bind, found, Tool.urlOf, address]
          rfl
        · simp only [Outside.fetchTurn, address]
          rfl
      | ok url =>
        obtain ⟨emissions, resolved⟩ := Tool.perform_resolve_of_missing directory found address
        rw [resolved]
        have fetched := outside.fetch_cases (Tool.announced context.settings.release after) address
          directory
        generalize perform (outside.workbench.fetch url directory)
          (Tool.announced context.settings.release after) = brought at fetched ⊢
        rcases brought with ⟨result, last⟩
        rcases fetched with ⟨good, rfl⟩ | ⟨failed, fault, rfl⟩ | ⟨bad, failure, rfl, other, status⟩
        · exact .inl ⟨good, rfl⟩
        · rw [failed]
          exact .inr (.inl ⟨rfl, rfl, rfl⟩)
        · refine .inr (.inr ⟨bad, failure, ?_, status⟩)
          cases failure with
          | delivery fault => exact absurd rfl (other fault)
          | _ => rfl

end Build

end Bookbinder
