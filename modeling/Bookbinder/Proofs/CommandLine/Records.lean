import Bookbinder.Proofs.Archive.Output
import Bookbinder.Proofs.CommandLine.BookDirectory
import Bookbinder.Proofs.Workbench.Outside

/-!
What the program writes. Main statement: among others who write text, and no records but the program's own,
a run of the program adds to what was written before only text and records of its own.
-/

set_option autoImplicit false

namespace Bookbinder

open Action (Keeps)

/-- A workbench that writes nothing but text and records of the program. -/
structure Workbench.Reports (workbench : Workbench) : Prop where
  findTool : ∀ kept, IsReporting kept → ∀ name, Keeps kept (workbench.findTool name)
  run : ∀ kept, IsReporting kept → ∀ words directory, Keeps kept (workbench.run words directory)
  fetch : ∀ kept, IsReporting kept → ∀ url directory, Keeps kept (workbench.fetch url directory)

/-- A workbench that leaves a property as it is, whatever is asked of it. -/
structure Workbench.Preserves (workbench : Workbench) (kept : Machine → Prop) : Prop where
  findTool : ∀ name, Keeps kept (workbench.findTool name)
  run : ∀ words directory, Keeps kept (workbench.run words directory)
  fetch : ∀ url directory, Keeps kept (workbench.fetch url directory)

theorem Workbench.Reports.preserves {workbench : Workbench} {kept : Machine → Prop}
    (reports : workbench.Reports) (reporting : IsReporting kept) : workbench.Preserves kept :=
  ⟨reports.findTool kept reporting, reports.run kept reporting, reports.fetch kept reporting⟩

section

variable {kept : Machine → Prop} (telling : IsTelling kept)

include telling

theorem Delivery.keeps_fetch (supply : Delivery.Supply) (url : String) (directory : Path) :
    Keeps kept (Delivery.fetch supply url directory) := by
  have logs : Delivery.origin ∈ loggers := by decide
  have downloads : Keeps kept (Delivery.download supply url) := by
    refine (Action.keeps_forM fun _ => Action.keeps_note telling _).bind fun _ => ?_
    cases (Web.fetch supply.network url).result with
    | error trouble => cases trouble <;> exact Action.keeps_throw _
    | ok content =>
      simp only
      cases supply.store.write 0 (Delivery.pieces Delivery.pieceSize content) with
      | error errno => exact Action.keeps_throw _
      | ok kept => exact (Action.keeps_trace telling.adds _ logs).bind fun _ => Action.keeps_pure _
  refine (Action.keeps_trace telling.adds _ logs).bind fun _ => downloads.bind fun content => ?_
  have unpacks : Keeps kept (Delivery.unpack content directory) :=
    (Archive.keeps_liftFault _).bind fun archive =>
      (Archive.extract_changes_only_files telling.ignoresFiles archive directory.text).bind fun _ => Action.keeps_pure _
  refine unpacks.attempt.bind fun result => ?_
  cases result with
  | error failure => exact Action.keeps_throw _
  | ok names => exact Action.keeps_trace telling.adds _ logs

theorem Workbench.keeps_lookUp (searchPath tool : String) :
    Keeps kept (Workbench.lookUp searchPath tool) :=
  Action.keeps_look fun _ => (Action.keeps_trace telling.adds _ (by decide)).bind fun _ => Action.keeps_pure _

theorem Workbench.keeps_reportStart (program : String) (errno : Errno) (subject : Subject) :
    Keeps kept (Workbench.reportStart program errno subject) := by
  have traced (message : String) (code : Int) :
      Keeps kept (do Action.trace Workbench.commandOrigin message; return code) :=
    (Action.keeps_trace telling.adds message (by decide)).bind fun _ => Action.keeps_pure _
  cases errno with
  | noEntry => exact traced _ _
  | accessDenied => exact traced _ _
  | notPermitted => exact traced _ _
  | _ => exact Action.keeps_throw _

end

/-- Programs write text, and so does whatever is left where the user stops a request. -/
structure Outside.WritesText (outside : Outside) : Prop where
  run : ∀ environment words, ∃ output,
    (outside.run environment words).1.emissions = environment.emissions ++ output ∧
      ∀ emission ∈ output, emission.isRecord = false
  stops : ∀ machine event left, outside.stops machine event = some left → ∃ output,
    left.emissions = machine.emissions ++ output ∧ ∀ emission ∈ output, emission.isRecord = false

theorem Emission.isOwn_of_text {emission : Emission} (text : emission.isRecord = false) : emission.IsOwn := by
  cases emission with
  | trace origin message => cases text
  | _ => trivial

namespace Outside

open Workbench (commandOrigin searchPath shellEnvironment)

/-- The program and the words that are started for some command. -/
def Launches (outside : Outside) (arguments : List String) : Prop :=
  ∃ files place program words, outside.launch files place (searchPath outside.exported) program words =
    .ok arguments

/-- The machine as a program leaves it that was started in a directory. -/
def left (outside : Outside) (machine : Machine) (place : WorkingDirectory) (arguments : List String) :
    Machine :=
  { machine with
    files := (outside.run (shellEnvironment machine place outside.exported) arguments).1.files
    emissions := (outside.run (shellEnvironment machine place outside.exported) arguments).1.emissions }

/-- A property that programs leave as it is, and so does whatever is left where the user stops a request. -/
structure Leaves (outside : Outside) (kept : Machine → Prop) : Prop where
  run : ∀ machine place arguments, outside.Launches arguments → kept machine →
    kept (outside.left machine place arguments)
  stops : ∀ machine event left, outside.stops machine event = some left → kept machine → kept left

variable {outside : Outside} {kept : Machine → Prop}

theorem leaves_of_writesText (text : outside.WritesText) (reporting : IsReporting kept) :
    outside.Leaves kept where
  run machine place arguments _ holds := by
    obtain ⟨output, written, plain⟩ := text.run (shellEnvironment machine place outside.exported) arguments
    exact reporting.looks { machine with emissions := machine.emissions ++ output } _ written
      (reporting.adds machine output (fun emission among => Emission.isOwn_of_text (plain _ among)) holds)
  stops machine event left stopped holds := by
    obtain ⟨output, written, plain⟩ := text.stops machine event left stopped
    exact reporting.looks _ left written
      (reporting.adds machine output (fun emission among => Emission.isOwn_of_text (plain _ among)) holds)

section

variable (leaves : outside.Leaves kept)

include leaves

theorem keeps_unlessStopped {α : Type} (event : Event) {action : Action α} (keeps : Keeps kept action) :
    Keeps kept (outside.unlessStopped event action) := by
  refine ⟨fun machine holds => ?_⟩
  rw [perform_unlessStopped]
  cases stopped : outside.stops machine event with
  | none => exact keeps.ends machine holds
  | some left => exact leaves.stops machine event left stopped holds

theorem keeps_runProgram (place : WorkingDirectory) {arguments : List String}
    (launches : outside.Launches arguments) : Keeps kept (outside.runProgram place arguments) :=
  ⟨fun machine holds => leaves.run machine place arguments launches holds⟩

variable (telling : IsTelling kept)

include telling

theorem keeps_runCommand (words : List String) (directory : Path) :
    Keeps kept (outside.runCommand words directory) := by
  have logs : commandOrigin ∈ loggers := by decide
  unfold runCommand
  refine (Action.keeps_trace telling.adds _ logs).bind fun _ => ?_
  cases words with
  | nil => exact Action.keeps_throw _
  | cons program rest =>
    simp only
    split
    · exact Action.keeps_throw_bind _ _
    · refine Action.keeps_look fun machine => ?_
      cases machine.files.enter machine.cwd directory.text with
      | error errno => exact Workbench.keeps_reportStart telling _ _ _
      | ok place =>
        simp only
        cases launched : outside.launch machine.files place (searchPath outside.exported) program
          (program :: rest) with
        | error errno => exact Workbench.keeps_reportStart telling _ _ _
        | ok arguments =>
          have launches : outside.Launches arguments := ⟨_, _, _, _, launched⟩
          refine (keeps_runProgram leaves place launches).bind fun code => ?_
          exact (Action.keeps_trace telling.adds _ logs).bind fun _ => Action.keeps_pure _

theorem preserves : outside.workbench.Preserves kept where
  findTool name := keeps_unlessStopped leaves _ (Workbench.keeps_lookUp telling _ name)
  run words directory := keeps_unlessStopped leaves _ (keeps_runCommand leaves telling words directory)
  fetch url directory := keeps_unlessStopped leaves _ (Delivery.keeps_fetch telling _ url directory)

end

theorem reports (text : outside.WritesText) : outside.workbench.Reports where
  findTool _ reporting := (preserves (leaves_of_writesText text reporting) reporting.telling).findTool
  run _ reporting := (preserves (leaves_of_writesText text reporting) reporting.telling).run
  fetch _ reporting := (preserves (leaves_of_writesText text reporting) reporting.telling).fetch

end Outside

/-! ### Builds and commands -/

section

variable {kept : Machine → Prop} (telling : IsTelling kept) {context : Context}
  (preserves : context.workbench.Preserves kept)

theorem Tool.keeps_urlOf (release : Release) : Keeps kept (Tool.urlOf release) := by
  unfold Tool.urlOf
  cases release.url with
  | ok url => exact Action.keeps_pure _
  | error fault => exact Action.keeps_throw _

include telling preserves

theorem Tool.keeps_resolve (directory : Path) :
    Keeps kept (Tool.resolve context.workbench context.settings.release directory) := by
  have logs : Tool.origin ∈ loggers := by decide
  refine (preserves.findTool _).bind fun found => ?_
  cases found with
  | some path => exact (Action.keeps_trace telling.adds _ logs).bind fun _ => Action.keeps_pure _
  | none =>
    refine (Action.keeps_tellLine telling.adds _).bind fun _ => (Tool.keeps_urlOf _).bind fun url => ?_
    exact (preserves.fetch _ _).bind fun _ =>
      (Action.keeps_trace telling.adds _ logs).bind fun _ => Action.keeps_pure _

theorem Build.keeps_resolveTool (directory : Path) : Keeps kept (Build.resolveTool context directory) := by
  refine (Tool.keeps_resolve telling preserves directory).attempt.bind fun result => ?_
  cases result with
  | ok tool => exact Action.keeps_pure _
  | error failure =>
    cases failure with
    | delivery fault => exact (Action.keeps_tellLine telling.adds _).bind fun _ => Action.keeps_pure _
    | _ => exact Action.keeps_throw _

theorem Build.keeps_runSteps (directory : Path) : Keeps kept (Build.runSteps context directory) := by
  have logs : Build.origin ∈ loggers := by decide
  have prebuild : Keeps kept (Build.runPrebuild context directory) :=
    (Action.keeps_trace telling.adds _ logs).bind fun _ => (preserves.run _ _).bind fun _ =>
      (Action.keeps_trace telling.adds _ logs).bind fun _ => Action.keeps_pure _
  have build (tool : Tool) : Keeps kept (Build.runTool context tool directory) :=
    (Action.keeps_tellLine telling.adds _).bind fun _ => (preserves.run _ _).bind fun _ =>
      (Action.keeps_trace telling.adds _ logs).bind fun _ => Action.keeps_pure _
  refine prebuild.bind fun prebuilt => ?_
  split
  · exact Action.keeps_pure _
  · refine (Build.keeps_resolveTool telling preserves directory).bind fun resolved => ?_
    cases resolved with
    | none => exact Action.keeps_pure _
    | some tool =>
      refine (build tool).bind fun built => ?_
      split
      · exact Action.keeps_pure _
      · exact Action.keeps_pure _

theorem Build.keeps_run : Keeps kept (Build.run context) :=
  (Action.Keeps.inDirectory telling (Build.keeps_runSteps telling preserves)).bind fun _ =>
    (Action.keeps_trace telling.adds _ (by decide)).bind fun _ => Action.keeps_pure _

end

namespace CommandLine

section

variable {kept : Machine → Prop} (bears : BearsText kept)

include bears

theorem keeps_reject {α : Type} (usage path : String) (fault : UsageFault) :
    Keeps kept (reject usage path fault : Action α) := by
  have ends : Keeps kept (do Action.tellError fault.message; throw (.exit 2) : Action α) :=
    (Action.keeps_tellLine bears _).bind fun _ => Action.keeps_throw _
  unfold reject
  split
  · exact (Action.keeps_tellLine bears _).bind fun _ => ends
  · exact ends

theorem keeps_accept {α : Type} (usage path : String) (result : Except UsageFault α) :
    Keeps kept (accept usage path result) := by
  cases result with
  | ok value => exact Action.keeps_pure value
  | error fault => exact keeps_reject bears usage path fault

theorem keeps_bookDir? (command : Command) (given : List Given) : Keeps kept (bookDir? command given) := by
  unfold bookDir?
  cases lastBookDir? given with
  | none => exact Action.keeps_pure _
  | some text =>
    simp only
    split
    · exact Action.keeps_throw_bind _ _
    · refine Action.keeps_look fun machine => ?_
      split
      · exact keeps_reject bears _ _ _
      · exact keeps_reject bears _ _ _
      · exact Action.keeps_pure _

theorem keeps_heed (command : Command) (surroundings : Surroundings) (words : List String)
    (answers : ∀ given left, readWords command.vocabulary true words = .ok (given, left) →
      Keeps kept (answerRequests surroundings command.help given)) :
    Keeps kept (heed command surroundings words) := by
  cases read : readWords command.vocabulary true words with
  | error fault =>
    rw [heed_of_refused read]
    exact keeps_reject bears _ _ _
  | ok taken =>
    rw [heed_of_read read]
    refine (answers _ _ read).bind fun _ => (keeps_bookDir? bears _ _).bind fun bookDir => ?_
    split
    · exact Action.keeps_pure _
    · exact keeps_reject bears _ _ _

theorem keeps_settle (ending : Except Failure Build.Outcome) : Keeps kept (settle ending) := by
  rcases ending with failure | outcome
  · cases failure with
    | interrupted => exact (Action.keeps_tellLine bears _).bind fun _ => Action.keeps_throw _
    | _ => exact Action.keeps_throw _
  · exact Action.keeps_pure _

theorem keeps_conclude (surroundings : Surroundings) (summary : Bool) (outcome : Build.Outcome) :
    Keeps kept (conclude surroundings summary outcome) := by
  have ends : Keeps kept (do if !outcome.success then throw (.exit outcome.exitCode) : Action Unit) := by
    cases outcome.success with
    | true => exact Action.keeps_pure _
    | false => exact Action.keeps_throw _
  have prints : Keeps kept (printSummary surroundings (summaryOf surroundings outcome)) := by
    unfold printSummary
    cases (summaryOf surroundings outcome).panel with
    | error fault => exact Action.keeps_throw _
    | ok panel => exact Action.keeps_emit bears ⟨trivial, rfl⟩
  unfold conclude
  cases summary with
  | false => exact ends
  | true => exact prints.bind fun _ => ends

theorem keeps_openContext (workbench : Workbench) : Keeps kept (openContext workbench) := by
  have creates : Keeps kept (Context.create workbench) :=
    Action.keeps_currentDirectory.bind fun _ => (Action.keeps_loadSettings _).bind fun _ => Action.keeps_pure _
  refine creates.attempt.bind fun result => ?_
  cases result with
  | ok context => exact Action.keeps_pure _
  | error failure =>
    cases failure with
    | settings fault =>
      simp only
      split
      · exact (Action.keeps_tellLine bears _).bind fun _ => Action.keeps_throw_bind _ _
      · exact Action.keeps_throw _
    | _ => exact Action.keeps_throw _

end

section

variable {kept : Machine → Prop} (telling : IsTelling kept)

include telling

theorem preserves_contextOf {context : Context} (preserves : context.workbench.Preserves kept)
    (dryRun : Bool) : (contextOf context dryRun).workbench.Preserves kept := by
  have announcing : context.workbench.announcing.Preserves kept :=
    ⟨preserves.findTool, fun _ _ => (Action.keeps_tellLine telling.adds _).bind fun _ => Action.keeps_pure _,
      fun _ _ => Action.keeps_tellLine telling.adds _⟩
  unfold contextOf Context.asDryRun
  cases dryRun with
  | false => exact preserves
  | true => cases context.dryRun with
    | true => exact preserves
    | false => exact announcing

theorem keeps_buildThere {context : Context} (preserves : context.workbench.Preserves kept) :
    Keeps kept (buildThere context) :=
  (Action.keeps_ensureBookDirectory telling.adds _).bind fun _ =>
    (Build.keeps_run telling preserves).attempt.bind fun _ => keeps_settle telling.adds _

theorem keeps_reachOutcome {context : Context} (preserves : context.workbench.Preserves kept) (dryRun : Bool) :
    Keeps kept (reachOutcome context dryRun) := by
  have built := keeps_buildThere telling (preserves_contextOf telling preserves dryRun)
  rw [reachOutcome_eq]
  cases dryRun with
  | false => exact built
  | true => exact (Action.keeps_tellLine telling.adds _).bind fun _ => built

theorem keeps_runInit (context : Context) (given : List Given) : Keeps kept (runInit context given) := by
  have writes : Keeps kept
      (do
        let written ← Action.saveSettings context.cwd Settings.default
        Action.tellLine ("✓ Wrote " ++ written.text)) :=
    Action.Keeps.bind ((Action.keeps_change telling.ignoresFiles _ _).bind fun _ => Action.keeps_pure _) fun _ =>
      Action.keeps_tellLine telling.adds _
  unfold runInit
  split
  · exact (Action.keeps_exists? _).bind fun _ => (Action.keeps_ensure telling.adds _ _).bind fun _ => writes
  · exact writes

theorem keeps_act {context : Context} (preserves : context.workbench.Preserves kept) {command : Command}
    (silent : command ≠ .which) (surroundings : Surroundings) (given : List Given) :
    Keeps kept (act command surroundings context given) := by
  cases command with
  | build =>
    simp only [act, runBuild_eq]
    exact (keeps_reachOutcome telling preserves _).bind fun _ => keeps_conclude telling.adds _ _ _
  | init => exact keeps_runInit telling _ _
  | which => exact absurd rfl silent

end

section

variable {kept : Machine → Prop} (reporting : IsReporting kept)

include reporting

theorem keeps_answerRequests (surroundings : Surroundings) (help : Help) (given : List Given) :
    Keeps kept (answerRequests surroundings help given) := by
  unfold answerRequests
  split
  · exact (Action.keeps_answer reporting _ _).bind fun _ => Action.keeps_throw _
  · exact (Action.keeps_answer reporting _ _).bind fun _ => Action.keeps_throw _
  · exact Action.keeps_pure _

theorem keeps_runWhich {context : Context} (preserves : context.workbench.Preserves kept) :
    Keeps kept (runWhich context) := by
  have tells (message : String) := Action.keeps_tellLine reporting.telling.adds message
  refine (preserves.findTool _).bind fun found => ?_
  cases found with
  | some path => exact (tells _).bind fun _ => Action.keeps_answer reporting _ _
  | none =>
    exact (tells _).bind fun _ => (Tool.keeps_urlOf _).bind fun _ =>
      (Action.keeps_answer reporting _ _).bind fun _ => tells _

theorem keeps_run {context : Context} (preserves : context.workbench.Preserves kept) (command : Command)
    (surroundings : Surroundings) (words : List String) : Keeps kept (command.run surroundings context words) := by
  rw [run_eq]
  refine (keeps_heed reporting.telling.adds command surroundings words fun _ _ _ =>
    keeps_answerRequests reporting _ _ _).bind fun heeded => ?_
  have same : (contextFor context heeded.2).workbench.Preserves kept :=
    (contextFor_workbench context heeded.2) ▸ preserves
  by_cases which : command = .which
  · exact which ▸ keeps_runWhich reporting same
  · exact keeps_act reporting.telling same which _ _

end

def Opening.workbench : Opening → Workbench
  | .given context => context.workbench
  | .here workbench => workbench

theorem Opening.meets_context {kept : Machine → Prop} (bears : BearsText kept) (opening : Opening) :
    Action.Meets kept opening.context
      (fun context machine => kept machine ∧ context.workbench = opening.workbench) kept := by
  cases opening with
  | given context => exact Action.meets_pure fun _ holds => ⟨holds, rfl⟩
  | here workbench =>
    refine ⟨fun machine holds => ?_⟩
    have keeps := (keeps_openContext bears workbench).ends machine holds
    simp only [Opening.context]
    cases opened : Action.perform (openContext workbench) machine with
    | mk result after =>
      rw [opened] at keeps
      cases result with
      | error failure => exact keeps
      | ok context => exact ⟨keeps, (openContext_cases opened).2.2.1⟩

/-- A run of the program keeps what text and own records leave, if those whom it asks do so. -/
theorem keeps_status {kept : Machine → Prop} (reporting : IsReporting kept) {opening : Opening}
    (reports : opening.workbench.Reports) (surroundings : Surroundings) (words : List String) :
    Keeps kept (status surroundings opening.context words) := by
  have reads (words : List String) : Keeps kept (readProgramWords words) := keeps_accept reporting.telling.adds _ _ _
  have performs : Keeps kept (CommandLine.perform surroundings opening.context words) := by
    unfold CommandLine.perform
    split
    · exact (Action.keeps_tellLine reporting.telling.adds _).bind fun _ => Action.keeps_throw_bind _ _
    · refine (reads words).bind fun read => (keeps_answerRequests reporting _ _ _).bind fun _ => ?_
      cases read.2 with
      | nil => exact keeps_reject reporting.telling.adds _ _ _
      | cons name rest =>
        simp only
        cases Command.ofName? name with
        | none =>
          exact (reads _).bind fun _ => (keeps_answerRequests reporting _ _ _).bind fun _ =>
            keeps_reject reporting.telling.adds _ _ _
        | some command =>
          refine (opening.meets_context reporting.telling.adds).bind fun context => ?_
          refine Action.Meets.knowing (fun _ holds => holds.2) fun same => ?_
          exact (keeps_run reporting (same ▸ reports.preserves reporting) command surroundings rest).weaken
            (fun _ holds => holds.1) (fun _ _ holds => holds) fun _ holds => holds
  refine performs.attempt.bind fun result => ?_
  rcases result with failure | done
  · cases failure with
    | exit status => exact Action.keeps_pure _
    | _ =>
      simp only
      split
      · exact (Action.keeps_tellLine reporting.telling.adds _).bind fun _ => Action.keeps_pure _
      · exact Action.keeps_throw _
  · exact Action.keeps_pure _

end CommandLine

end Bookbinder
