import Bookbinder.Build
import Bookbinder.CommandLine.Help
import Bookbinder.Summary

/-!
The program as it is called: one word names what to do, and options say how.
-/

set_option autoImplicit false

namespace Bookbinder.CommandLine

def programName : String := "bookbuild"

def programVersion : String := "0.1.0"

inductive Command where
  | build
  | init
  | which
  deriving DecidableEq, Repr

def Command.name : Command → String
  | .build => "build"
  | .init => "init"
  | .which => "which"

def Command.all : List Command := [.build, .init, .which]

def Command.ofName? (name : String) : Option Command :=
  Command.all.find? fun command => command.name == name

theorem Command.ofName?_name (command : Command) : ofName? command.name = some command := by
  cases command <;> decide

def bookDirOption : String × Meaning := ("--book-dir", .value .bookDir)

def helpOption : String × Meaning := ("--help", .flag .help)

def helpLetter : Char × Given := ('h', .help)

/-- The options before the name of a command. -/
def vocabulary : Vocabulary := ⟨[("--version", .flag .version), helpOption], [helpLetter]⟩

def Command.vocabulary : Command → Vocabulary
  | .build =>
    ⟨[bookDirOption, ("--dry-run", .flag .dryRun), ("--summary", .flag (.summary true)),
      ("--no-summary", .flag (.summary false)), helpOption], [helpLetter]⟩
  | .init => ⟨[("--force", .flag .force), helpOption], [helpLetter]⟩
  | .which => ⟨[bookDirOption, helpOption], [helpLetter]⟩

def helpRow : String × String := ("-h, --help", "Show this message and exit.")

def bookDirRow : String × String :=
  ("--book-dir DIRECTORY", "Book directory, relative to the current directory (default: book)")

def Command.help : Command → Help
  | .build =>
    { usage := "bookbuild build [OPTIONS]"
      paragraphs :=
        ["Build the book.",
          "Runs the highlight.js pre-build helper, uses mdbook from PATH (or downloads the " ++
            "pinned release into the book directory when it is missing) and runs \x60mdbook " ++
            "build\x60. Stops at the first failing step and exits with its exit code."]
      options :=
        [bookDirRow, ("--dry-run", "Show what would be done without running anything"),
          ("--summary / --no-summary", "Print a summary box at the end"), helpRow]
      commands := [] }
  | .init =>
    { usage := "bookbuild init [OPTIONS]"
      paragraphs := ["Write a bookbuild.toml with the default settings."]
      options := [("--force", "Overwrite an existing bookbuild.toml"), helpRow]
      commands := [] }
  | .which =>
    { usage := "bookbuild which [OPTIONS]"
      paragraphs :=
        ["Show which mdbook a build would use, without downloading anything.",
          "The path of the installed tool (or the URL a build would download) goes to stdout; " ++
            "the explanation goes to stderr."]
      options := [bookDirRow, helpRow]
      commands := [] }

def help : Help where
  usage := "bookbuild [OPTIONS] COMMAND [ARGS]..."
  paragraphs := ["Build the documentation book with mdbook."]
  options := [("--version", "Show the version and exit."), helpRow]
  commands := Command.all.map fun command =>
    (command.name, command.help.paragraphs.headD "")

/-- What the program learns from outside besides its words. -/
structure Surroundings where
  /-- The width of the terminal. -/
  columns : Nat
  /-- The readings of a clock, in seconds, at the start and at the end of a build. -/
  start : Float
  finish : Float

/-- Tells what is wrong with the words, and ends. -/
def reject {α : Type} (usage path : String) (fault : UsageFault) : Action α := do
  if fault.showsUsage then
    Action.tellLine ("Usage: " ++ usage ++ "\nTry '" ++ path ++ " --help' for help.\n")
  Action.tellError fault.message
  throw (.exit 2)

def accept {α : Type} (usage path : String) (result : Except UsageFault α) : Action α :=
  match result with
  | .ok value => pure value
  | .error fault => reject usage path fault

/-- Answers the first request for help or the version, and ends. -/
def answerRequests (surroundings : Surroundings) (help : Help) (given : List Given) :
    Action Unit :=
  match given.find? fun option => option == .help || option == .version with
  | some .version => do
    Action.answer (programName ++ ", version " ++ programVersion) true
    throw (.exit 0)
  | some _ => do
    Action.answer (help.text surroundings.columns) true
    throw (.exit 0)
  | none => pure ()

/-- The book directory that is given last, as it is written. -/
def lastBookDir? (given : List Given) : Option String :=
  given.reverse.findSome? fun option =>
    match option with
    | .bookDir text => some text
    | _ => none

/-- A summary is printed unless the last word on it says otherwise. -/
def wantsSummary (given : List Given) : Bool :=
  (given.reverse.findSome? fun option =>
    match option with
    | .summary wanted => some wanted
    | _ => none).getD true

/-- The book directory that is given, if any. It may be missing, but it may not be a file. -/
def bookDir? (command : Command) (given : List Given) : Action (Option Path) :=
  match lastBookDir? given with
  | none => pure none
  | some text => do
    if holdsNul text then throw .embeddedNul
    let machine ← get
    match machine.files.status machine.cwd text with
    | .ok (.file _) | .ok .shell =>
      reject command.help.usage (programName ++ " " ++ command.name)
        (.notDirectory bookDirOption.1 text)
    | _ => return some (Path.parse text)

def summaryOf (surroundings : Surroundings) (outcome : Build.Outcome) : Summary where
  success := outcome.success
  duration := Duration.ofFloat (surroundings.finish - surroundings.start)
  tool := outcome.tool.map Tool.description
  failedStep := outcome.failedStep.map Build.Step.text
  exitCode := outcome.exitCode

def printSummary (surroundings : Surroundings) (summary : Summary) : Action Unit :=
  match summary.panel with
  | .error fault => throw (.duration fault)
  | .ok panel =>
    Action.emit (.notice (String.join ((panel.render surroundings.columns).map (· ++ "\n"))))

/-- The status of a build that the user stopped. -/
def interruptedStatus : Int := 130

def runBuild (surroundings : Surroundings) (context : Context) (given : List Given) :
    Action Unit := do
  let dryRun := given.contains .dryRun
  let context := if dryRun then context.asDryRun else context
  if dryRun then Action.tellLine "[DRY RUN MODE - No changes will be made]\n"
  Action.ensureBookDirectory context.bookDir
  match ← Action.attempt (Build.run context) with
  | .error .interrupted =>
    Action.tellLine "\n✗ Interrupted by user"
    throw (.exit interruptedStatus)
  | .error failure => throw failure
  | .ok outcome =>
    if wantsSummary given then printSummary surroundings (summaryOf surroundings outcome)
    if !outcome.success then throw (.exit outcome.exitCode)

def runInit (context : Context) (given : List Given) : Action Unit := do
  let file := Settings.file context.cwd
  if !given.contains .force then
    Action.ensure (!(← Action.exists? file))
      (file.text ++ " already exists - use --force to overwrite it")
  let written ← Action.saveSettings context.cwd Settings.default
  Action.tellLine ("✓ Wrote " ++ written.text)

def runWhich (context : Context) : Action Unit := do
  let release := context.settings.release
  match ← context.workbench.findTool release.name with
  | some path =>
    Action.tellLine (release.name ++ ": installed")
    Action.answer path true
  | none =>
    Action.tellLine
      (release.name ++ ": not on PATH, a build would download " ++ release.version)
    Action.answer (← Tool.urlOf release) true
    Action.tellLine ("  into " ++ (context.settings.binaryFrom context.cwd).text)

def Command.run (command : Command) (surroundings : Surroundings) (context : Context)
    (words : List String) : Action Unit := do
  let usage := command.help.usage
  let path := programName ++ " " ++ command.name
  let (given, left) ← accept usage path (readWords command.vocabulary true words)
  answerRequests surroundings command.help given
  let bookDir ← bookDir? command given
  if !left.isEmpty then reject usage path (.extraWords left)
  let context := (bookDir.map context.withBookDir).getD context
  match command with
  | .build => runBuild surroundings context given
  | .init => runInit context given
  | .which => runWhich context

/-- The words before the name of a command, and the words from there on. -/
def readProgramWords (words : List String) : Action (List Given × List String) :=
  accept help.usage programName (readWords vocabulary false words)

/-- Does what the words ask for. The context is made only once the command is known. -/
def perform (surroundings : Surroundings) (makeContext : Action Context) (words : List String) :
    Action Unit := do
  if words.isEmpty then
    Action.tellLine (help.text surroundings.columns)
    throw (.exit 2)
  let (given, left) ← readProgramWords words
  answerRequests surroundings help given
  match left with
  | [] => reject help.usage programName .missingCommand
  | name :: rest =>
    match Command.ofName? name with
    | none => do
      -- After two dashes, what looks like an option is taken as one after all.
      let (given, _) ← readProgramWords left
      answerRequests surroundings help given
      reject help.usage programName
        (.unknownCommand name (suggestions name (Command.all.map Command.name)))
    | some command => command.run surroundings (← makeContext) rest

/-- The context of the current directory. Settings that are at fault end the program. -/
def openContext (workbench : Workbench) : Action Context := do
  match ← Action.attempt (Context.create workbench) with
  | .ok context => return context
  | .error (.settings fault) =>
    if fault.isValueFault then
      Action.tellError fault.message
      throw (.exit 1)
    throw (.settings fault)
  | .error failure => throw failure

/-- Whether a failure counts as an end of the program by the user: a stop, or data that end too early. -/
def isAbort : Failure → Bool
  | .interrupted | .archive (.stream .cut) => true
  | _ => false

/-- The status with which the program ends. Failures that are nobody's choice stay failures. -/
def status (surroundings : Surroundings) (makeContext : Action Context) (words : List String) :
    Action Int := do
  match ← Action.attempt (perform surroundings makeContext words) with
  | .ok _ => return 0
  | .error (.exit status) => return status
  | .error failure =>
    if isAbort failure then
      Action.tellLine "\nAborted!"
      return 1
    throw failure

end Bookbinder.CommandLine
