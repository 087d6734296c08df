import Bookbinder.Proofs.CommandLine.Words
import Bookbinder.Proofs.Machine.Looks

/-!
A command as three parts, one after the other: its words are heeded, a build comes to an outcome, and the
outcome is told. Only the first part reads options, and only the last one knows of summaries.
-/

set_option autoImplicit false

namespace Bookbinder

/-- Whether a path leads to something that cannot be a book directory. -/
def FileSystem.leadsToFile (files : FileSystem) (cwd : WorkingDirectory) (path : String) : Bool :=
  match files.status cwd path with
  | .ok (.file _) | .ok .shell => true
  | _ => false

namespace CommandLine

/-- How the program comes to its context: it is given one, or opens that of the current directory. -/
inductive Opening where
  | given (context : Context)
  | here (workbench : Workbench)

def Opening.context : Opening → Action Context
  | .given context => pure context
  | .here workbench => openContext workbench

/-- Whether a build does without effects before any word is read. -/
def Opening.isDry : Opening → Bool
  | .given context => context.dryRun
  | .here _ => false

/-- What the words of a command come to before it does anything: its options and the book directory. -/
def heed (command : Command) (surroundings : Surroundings) (words : List String) :
    Action (List Given × Option Path) := do
  let usage := command.help.usage
  let path := programName ++ " " ++ command.name
  let (given, left) ← accept usage path (readWords command.vocabulary true words)
  answerRequests surroundings command.help given
  let bookDir ← bookDir? command given
  if !left.isEmpty then reject usage path (.extraWords left)
  return (given, bookDir)

def contextOf (context : Context) (dryRun : Bool) : Context :=
  if dryRun then context.asDryRun else context

theorem contextOf_bookDir (context : Context) (dryRun : Bool) :
    (contextOf context dryRun).bookDir = context.bookDir := by
  unfold contextOf Context.asDryRun
  cases dryRun with
  | false => rfl
  | true => cases context.dryRun <;> rfl

/-- How the end of a build is taken. The user may have stopped it. -/
def settle (ending : Except Failure Build.Outcome) : Action Build.Outcome :=
  match ending with
  | .ok outcome => pure outcome
  | .error .interrupted => do
    Action.tellLine "\n✗ Interrupted by user"
    throw (.exit interruptedStatus)
  | .error failure => throw failure

def reachOutcome (context : Context) (dryRun : Bool) : Action Build.Outcome := do
  if dryRun then Action.tellLine "[DRY RUN MODE - No changes will be made]\n"
  Action.ensureBookDirectory (contextOf context dryRun).bookDir
  settle (← Action.attempt (Build.run (contextOf context dryRun)))

/-- The build itself, if its directory is there. -/
def buildThere (context : Context) : Action Build.Outcome := do
  Action.ensureBookDirectory context.bookDir
  settle (← Action.attempt (Build.run context))

/-- A dry run is that of another context, and says so first. -/
theorem reachOutcome_eq (context : Context) (dryRun : Bool) :
    reachOutcome context dryRun =
      if dryRun then
        Action.tellLine "[DRY RUN MODE - No changes will be made]\n" >>= fun _ =>
          buildThere (contextOf context dryRun)
      else buildThere (contextOf context dryRun) := by
  cases dryRun <;> rfl

def conclude (surroundings : Surroundings) (summary : Bool) (outcome : Build.Outcome) : Action Unit := do
  if summary then printSummary surroundings (summaryOf surroundings outcome)
  if !outcome.success then throw (.exit outcome.exitCode)

theorem runBuild_eq (surroundings : Surroundings) (context : Context) (given : List Given) :
    runBuild surroundings context given =
      reachOutcome context (given.contains .dryRun) >>= conclude surroundings (wantsSummary given) := by
  -- the user may have stopped the build, which is settled before the outcome is told
  unfold runBuild reachOutcome contextOf
  cases given.contains .dryRun with
  | false =>
    simp only [Bool.false_eq_true, if_false, bind_assoc]
    refine bind_congr fun _ => bind_congr fun ending => ?_
    rcases ending with failure | outcome
    · cases failure <;> rfl
    · rfl
  | true =>
    simp only [if_true, bind_assoc]
    refine bind_congr fun _ => bind_congr fun _ => bind_congr fun ending => ?_
    rcases ending with failure | outcome
    · cases failure <;> rfl
    · rfl

/-- What a command does once its words are heeded. -/
def act (command : Command) (surroundings : Surroundings) (context : Context) (given : List Given) :
    Action Unit :=
  match command with
  | .build => runBuild surroundings context given
  | .init => runInit context given
  | .which => runWhich context

theorem run_eq (command : Command) (surroundings : Surroundings) (context : Context) (words : List String) :
    command.run surroundings context words =
      heed command surroundings words >>= fun heeded =>
        act command surroundings (contextFor context heeded.2) heeded.1 := by
  unfold Command.run heed
  simp only [bind_assoc]
  refine bind_congr fun read => ?_
  refine bind_congr fun _ => ?_
  refine bind_congr fun bookDir => ?_
  cases read.2.isEmpty <;> cases command <;> rfl

def exitOf (ending : Except Failure Unit) : Except Failure Int :=
  match ending with
  | .ok _ => .ok 0
  | .error (.exit status) => .ok status
  | .error failure => if isAbort failure then .ok 1 else .error failure

/-- What is told besides when a command is cut short. -/
def farewell (ending : Except Failure Unit) : List Emission :=
  match ending with
  | .ok _ => []
  | .error failure => if isAbort failure then [.notice (Action.shown "\nAborted!" true)] else []

theorem perform_status_eq (surroundings : Surroundings) (makeContext : Action Context) (words : List String)
    (machine : Machine) :
    Action.perform (status surroundings makeContext words) machine =
      match Action.perform (CommandLine.perform surroundings makeContext words) machine with
      | (ending, after) =>
        (exitOf ending, { after with emissions := after.emissions ++ farewell ending }) := by
  rw [status, Action.perform_bind, Action.perform_attempt]
  rcases Action.perform (CommandLine.perform surroundings makeContext words) machine with ⟨ending, after⟩
  have kept : after = { after with emissions := after.emissions ++ [] } := by simp
  rcases ending with failure | done
  · cases failure with
    | exit status => exact congrArg (Prod.mk _) kept
    | _ =>
      simp only [exitOf, farewell]
      split
      · rfl
      · exact congrArg (Prod.mk _) kept
  · exact congrArg (Prod.mk _) kept

/-! ### From an outcome to a status -/

def settled (ending : Except Failure Build.Outcome) : Except Failure Build.Outcome :=
  match ending with
  | .ok outcome => .ok outcome
  | .error .interrupted => .error (.exit interruptedStatus)
  | .error failure => .error failure

def stopLines (ending : Except Failure Build.Outcome) : List Emission :=
  match ending with
  | .error .interrupted => [.notice (Action.shown "\n✗ Interrupted by user" true)]
  | _ => []

theorem perform_settle (ending : Except Failure Build.Outcome) (machine : Machine) :
    Action.perform (settle ending) machine =
      (settled ending, { machine with emissions := machine.emissions ++ stopLines ending }) := by
  have kept : machine = { machine with emissions := machine.emissions ++ [] } := by simp
  rcases ending with failure | outcome
  · cases failure with
    | interrupted => rfl
    | _ => exact congrArg (Prod.mk _) kept
  · exact congrArg (Prod.mk _) kept

def panelLines (surroundings : Surroundings) (outcome : Build.Outcome) : List Emission :=
  match (summaryOf surroundings outcome).panel with
  | .error _ => []
  | .ok panel => [.notice (String.join ((panel.render surroundings.columns).map (· ++ "\n")))]

/-- The clock readings of a build are some time apart that has a text. -/
def Surroundings.Elapses (surroundings : Surroundings) : Prop :=
  ∃ text, (Duration.ofFloat (surroundings.finish - surroundings.start)).text = .ok text

def concluded (outcome : Build.Outcome) : Except Failure Unit :=
  if outcome.success then .ok () else .error (.exit outcome.exitCode)

theorem perform_concluded (outcome : Build.Outcome) (machine : Machine) :
    Action.perform (do if !outcome.success then throw (.exit outcome.exitCode)) machine =
      (concluded outcome, machine) := by
  unfold concluded
  cases outcome.success <;> rfl

theorem perform_conclude {surroundings : Surroundings} {summary : Bool}
    (elapses : summary = true → surroundings.Elapses) (outcome : Build.Outcome) (machine : Machine) :
    Action.perform (conclude surroundings summary outcome) machine =
      (concluded outcome, { machine with
        emissions := machine.emissions ++ if summary then panelLines surroundings outcome else [] }) := by
  unfold conclude panelLines printSummary
  cases summary with
  | false =>
    simp only [Bool.false_eq_true, if_false, List.append_nil]
    exact perform_concluded outcome machine
  | true =>
    obtain ⟨text, elapsed⟩ := elapses rfl
    have shown : ∃ panel, (summaryOf surroundings outcome).panel = .ok panel := by
      unfold Summary.panel Summary.lines summaryOf
      rw [elapsed]
      exact ⟨_, rfl⟩
    obtain ⟨panel, shown⟩ := shown
    simp only [if_true, shown]
    rw [Action.perform_bind, Action.perform_emit]
    exact perform_concluded outcome _

/-- The machine when a build begins: a dry run says that it is one. -/
def announcedAs (dryRun : Bool) (machine : Machine) : Machine :=
  if dryRun then
    { machine with emissions := machine.emissions ++
        [.notice (Action.shown "[DRY RUN MODE - No changes will be made]\n" true)] }
  else machine

theorem perform_buildThere {context : Context} {machine : Machine}
    (clean : holdsNul context.bookDir.text = false)
    (told : machine.files.tellsDirectory machine.cwd context.bookDir.text = .ok true) :
    Action.perform (buildThere context) machine =
      match Action.perform (Build.run context) machine with
      | (ending, after) =>
        (settled ending, { after with emissions := after.emissions ++ stopLines ending }) := by
  have found := Action.perform_ensureBookDirectory_of_told clean told
  simp only [buildThere, Action.perform_bind, found, Action.perform_attempt, perform_settle]

theorem perform_reachOutcome {context : Context} {dryRun : Bool} {machine : Machine}
    (clean : holdsNul (contextOf context dryRun).bookDir.text = false)
    (told : machine.files.tellsDirectory machine.cwd (contextOf context dryRun).bookDir.text = .ok true) :
    Action.perform (reachOutcome context dryRun) machine =
      match Action.perform (Build.run (contextOf context dryRun)) (announcedAs dryRun machine) with
      | (ending, after) =>
        (settled ending, { after with emissions := after.emissions ++ stopLines ending }) := by
  rw [reachOutcome_eq]
  cases dryRun with
  | false =>
    simp only [Bool.false_eq_true, if_false]
    exact perform_buildThere clean told
  | true =>
    have announced : Action.perform (Action.tellLine "[DRY RUN MODE - No changes will be made]\n") machine =
        (.ok (), announcedAs true machine) := rfl
    simp only [if_true, Action.perform_bind, announced]
    exact perform_buildThere clean told

/-! ### Heeding words -/

/-- A book directory that is named is refused only as a file, or as no name at all. -/
theorem perform_bookDir?_of_named (command : Command) {given : List Given} {text : String}
    (named : lastBookDir? given = some text) (clean : holdsNul text = false) (machine : Machine) :
    Action.perform (bookDir? command given) machine =
      if machine.files.leadsToFile machine.cwd text then
        Action.perform (reject command.help.usage (programName ++ " " ++ command.name)
          (.notDirectory bookDirOption.1 text)) machine
      else (.ok (some (Path.parse text)), machine) := by
  unfold bookDir? FileSystem.leadsToFile
  simp only [named, clean, Bool.false_eq_true, if_false, Action.perform_bind, Action.perform_get]
  rcases machine.files.status machine.cwd text with errno | status
  · rfl
  · cases status <;> rfl

/-- Words that a command can read, that are no request, and whose book directory may be one. -/
theorem perform_heed {command : Command} {rest : List String} {given : List Given} {machine : Machine}
    {bookDir : Option Path} (surroundings : Surroundings)
    (read : readWords command.vocabulary true rest = .ok (given, []))
    (none : given.find? isRequest = none)
    (chosen : Action.perform (bookDir? command given) machine = (.ok bookDir, machine)) :
    Action.perform (heed command surroundings rest) machine = (.ok (given, bookDir), machine) := by
  unfold heed accept
  rw [read]
  simp only [pure_bind, answerRequests_of_none none]
  rw [Action.perform_bind, chosen]
  rfl

/-! ### A build as a whole -/

def reportLines (surroundings : Surroundings) (summary : Bool) (ending : Except Failure Build.Outcome) :
    List Emission :=
  stopLines ending ++
    match ending with
    | .ok outcome => if summary then panelLines surroundings outcome else []
    | .error _ => []

/-- A build whose words are heeded and whose directory is there, as far as the status. -/
theorem perform_status_build {words rest : List String} {given : List Given} {bookDir : Option Path}
    {context : Context} {machine : Machine} (surroundings : Surroundings) (asks : AskFor words .build rest)
    (heeded : Action.perform (heed .build surroundings rest) machine = (.ok (given, bookDir), machine))
    (elapses : wantsSummary given = true → surroundings.Elapses)
    (there : machine.HasDirectory (contextFor context bookDir).bookDir) :
    Action.perform (status surroundings (pure context) words) machine =
      match Action.perform (Build.run (contextOf (contextFor context bookDir) (given.contains .dryRun)))
          (announcedAs (given.contains .dryRun) machine) with
      | (ending, after) =>
        (exitOf (settled ending >>= concluded), { after with
          emissions := after.emissions ++ (reportLines surroundings (wantsSummary given) ending ++
            farewell (settled ending >>= concluded)) }) := by
  have reached := perform_reachOutcome (contextOf_bookDir _ (given.contains .dryRun) ▸ there.clean)
    (contextOf_bookDir _ (given.contains .dryRun) ▸
      FileSystem.tellsDirectory_of_leadsToDirectory there.leads)
  rw [perform_status_eq, perform_of_askFor asks, pure_bind, run_eq, Action.perform_bind, heeded]
  simp only [act, runBuild_eq]
  rw [Action.perform_bind, reached]
  rcases Action.perform (Build.run (contextOf (contextFor context bookDir) (given.contains .dryRun)))
    (announcedAs (given.contains .dryRun) machine) with ⟨ending, after⟩
  rcases ending with failure | outcome
  · cases failure <;> simp [settled, reportLines, bind, Except.bind]
  · simp only [settled, perform_conclude elapses, reportLines, bind, Except.bind]
    simp [stopLines]

end CommandLine

end Bookbinder
