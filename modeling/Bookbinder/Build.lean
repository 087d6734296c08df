import Bookbinder.Tool

/-!
A build: the pre-build command, the tool, and the tool's own build, all inside the book directory.
The first step that fails ends it.
-/

set_option autoImplicit false

namespace Bookbinder

/-- What a build depends on. -/
structure Context where
  workbench : Workbench
  settings : Settings
  /-- The current directory at the start. -/
  cwd : Path
  /-- Whether the workbench only says what it would do. -/
  dryRun : Bool

namespace Context

def bookDir (context : Context) : Path := context.settings.bookDirFrom context.cwd

def withBookDir (context : Context) (bookDir : Path) : Context :=
  { context with settings := context.settings.withBookDir bookDir }

/-- The context of the current directory, with the settings that lie there. -/
def create (workbench : Workbench) : Action Context := do
  let cwd ← Action.currentDirectory
  let settings ← Action.loadSettings cwd
  return ⟨workbench, settings, cwd, false⟩

/-- The same context without effects. A context that has none already stays as it is. -/
def asDryRun (context : Context) : Context :=
  if context.dryRun then context
  else { context with workbench := context.workbench.announcing, dryRun := true }

end Context

namespace Build

inductive Step where
  | prebuild
  | resolveTool
  | build
  deriving DecidableEq, Repr

def Step.text : Step → String
  | .prebuild => "prebuild"
  | .resolveTool => "resolve-tool"
  | .build => "build"

/-- The name of a step in traces. -/
def Step.label : Step → String
  | .prebuild => "BuildStep.PREBUILD"
  | .resolveTool => "BuildStep.RESOLVE_TOOL"
  | .build => "BuildStep.BUILD"

/-- How a build ended. The exit code is that of the step that failed, or zero. -/
structure Outcome where
  exitCode : Int
  failedStep : Option Step
  tool : Option Tool
  deriving DecidableEq, Repr

def Outcome.success (outcome : Outcome) : Bool := outcome.failedStep.isNone

/-- The exit code of a build whose tool cannot be brought. -/
def resolveExitCode : Int := 1

def origin : String := "bookbuild.core.orchestrator"

def runPrebuild (context : Context) (directory : Path) : Action Int := do
  let words := context.settings.prebuild
  Action.trace origin ("Pre-build starting: " ++ Text.quotedList words)
  let exitCode ← context.workbench.run words directory
  Action.trace origin ("Pre-build finished: exit_code=" ++ Text.ofInt exitCode)
  return exitCode

def runTool (context : Context) (tool : Tool) (directory : Path) : Action Int := do
  Action.tellLine "Building book.."
  let exitCode ← context.workbench.run [tool.command, "build"] directory
  Action.trace origin
    ("Build finished: tool=" ++ tool.command ++ ", exit_code=" ++ Text.ofInt exitCode)
  return exitCode

/-- The tool, unless it cannot be brought: then the user is told why. -/
def resolveTool (context : Context) (directory : Path) : Action (Option Tool) := do
  match ← Action.attempt (Tool.resolve context.workbench context.settings.release directory) with
  | .ok tool => return some tool
  | .error (.delivery fault) =>
    Action.tellError fault.message
    return none
  | .error failure => throw failure

def runSteps (context : Context) (directory : Path) : Action Outcome := do
  let prebuilt ← runPrebuild context directory
  if prebuilt ≠ 0 then return ⟨prebuilt, some .prebuild, none⟩
  match ← resolveTool context directory with
  | none => return ⟨resolveExitCode, some .resolveTool, none⟩
  | some tool =>
    let built ← runTool context tool directory
    if built ≠ 0 then return ⟨built, some .build, some tool⟩
    return ⟨0, none, some tool⟩

def run (context : Context) : Action Outcome := do
  let outcome ← Action.inDirectory context.bookDir (runSteps context)
  let step := match outcome.failedStep with
    | some step => step.label
    | none => "None"
  Action.trace origin
    ("Run finished: exit_code=" ++ Text.ofInt outcome.exitCode ++ ", failed_step=" ++ step)
  return outcome

end Build

end Bookbinder
