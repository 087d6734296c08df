import Bookbinder.Proofs.CommandLine.ExitStatus
import Bookbinder.Proofs.CommandLine.Records
import Bookbinder.Proofs.Machine.Endings

/-!
Options that only report: the variable that asks for records, and the wish for a summary. Main statement:
with programs that do not look at that variable, its value changes nothing but whether records are shown; and
a build with a summary does what it does without one, and prints a panel after all else if it came to an
outcome.
-/

set_option autoImplicit false

namespace Bookbinder

def debugVariable : String := "BOOKBUILD_DEBUG"

/-- Variables that are the same but for one. -/
def SameBut (name : String) (first second : List (String × String)) : Prop :=
  Pairs.erase first name = Pairs.erase second name

theorem SameBut.get? {name other : String} {first second : List (String × String)}
    (same : SameBut name first second) (differs : name ≠ other) :
    Pairs.get? first other = Pairs.get? second other := by
  have found := congrArg (Pairs.get? · other) same
  simpa [Pairs.get?_erase, Ne.symm differs] using found

namespace Outside

open Workbench (searchPath shellEnvironment)

variable {outside : Outside} {name : String} {first second : List (String × String)}

def exporting (outside : Outside) (exported : List (String × String)) : Outside :=
  { outside with exported := exported }

/-- Programs do not look at a variable. -/
def Ignores (outside : Outside) (name : String) : Prop :=
  ∀ machine place words first second, SameBut name first second →
    (outside.run (shellEnvironment machine place first) words).1.files =
        (outside.run (shellEnvironment machine place second) words).1.files ∧
      (outside.run (shellEnvironment machine place first) words).1.emissions =
        (outside.run (shellEnvironment machine place second) words).1.emissions ∧
      (outside.run (shellEnvironment machine place first) words).2 =
        (outside.run (shellEnvironment machine place second) words).2

theorem runProgram_exporting (ignores : outside.Ignores name) (same : SameBut name first second)
    (place : WorkingDirectory) (words : List String) :
    (outside.exporting first).runProgram place words = (outside.exporting second).runProgram place words := by
  unfold runProgram
  refine bind_congr fun machine => ?_
  obtain ⟨files, emissions, ending⟩ := ignores machine place words first second same
  simp only [exporting, files, emissions, ending]

/-- Among programs that do not look at it, a variable that is not the search path makes no difference. -/
theorem workbench_exporting (ignores : outside.Ignores name) (aside : name ≠ "PATH")
    (same : SameBut name first second) :
    (outside.exporting first).workbench = (outside.exporting second).workbench := by
  have path : searchPath first = searchPath second := by
    rw [searchPath, searchPath, same.get? aside]
  have runs (words : List String) (directory : Path) :
      (outside.exporting first).runCommand words directory =
        (outside.exporting second).runCommand words directory := by
    unfold runCommand
    simp only [runProgram_exporting ignores same]
    simp only [exporting, path]
  have stops {α : Type} (event : Event) (action : Action α) :
      (outside.exporting first).unlessStopped event action =
        (outside.exporting second).unlessStopped event action := rfl
  unfold workbench
  simp only [runs, stops]
  simp only [exporting, path]

end Outside

/-- Others whom the program asks: any workbench, or what lies outside on a machine. -/
inductive World where
  | rehearsed (workbench : Workbench)
  | real (outside : Outside)

namespace World

def workbench (world : World) (exported : List (String × String)) : Workbench :=
  match world with
  | .rehearsed workbench => workbench
  | .real outside => (outside.exporting exported).workbench

/-- Nobody but the program writes records of it, and nobody else looks at the variable that asks for them. -/
def IsFair : World → Prop
  | .rehearsed workbench => workbench.Reports
  | .real outside => outside.WritesText ∧ outside.Ignores debugVariable

theorem IsFair.reports {world : World} (fair : world.IsFair) (exported : List (String × String)) :
    (world.workbench exported).Reports := by
  cases world with
  | rehearsed workbench => exact fair
  | real outside => exact (outside.exporting exported).reports ⟨fair.1.run, fair.1.stops⟩

theorem IsFair.workbench_eq {world : World} (fair : world.IsFair) {first second : List (String × String)}
    (same : SameBut debugVariable first second) : world.workbench first = world.workbench second := by
  cases world with
  | rehearsed workbench => rfl
  | real outside => exact Outside.workbench_exporting fair.2 (by decide) same

end World

namespace CommandLine

/-- Where settings come from: they are given, or read in the current directory. -/
inductive Start where
  | given (settings : Settings) (cwd : Path) (dryRun : Bool)
  | here

def Start.opening (start : Start) (workbench : Workbench) : Opening :=
  match start with
  | .given settings cwd dryRun => .given ⟨workbench, settings, cwd, dryRun⟩
  | .here => .here workbench

theorem Start.workbench_opening (start : Start) (workbench : Workbench) :
    (start.opening workbench).workbench = workbench := by
  cases start <;> rfl

/-! ### The wish for a summary -/

def isSummary : Given → Bool
  | .summary _ => true
  | _ => false

/-- Options without those on summaries. -/
def withoutSummary (given : List Given) : List Given := given.filter fun option => !isSummary option

/-- Words that are read in the same way, but for the options on summaries: the first ones ask for one in the
end, and the other ones do not. -/
inductive DifferInSummary (words others : List String) : Prop where
  | read {given twin : List Given} {left : List String}
      (first : readWords Command.build.vocabulary true words = .ok (given, left))
      (second : readWords Command.build.vocabulary true others = .ok (twin, left))
      (same : withoutSummary given = withoutSummary twin)
      (wanted : wantsSummary given = true) (unwanted : wantsSummary twin = false)
  | refused {fault : UsageFault} (first : readWords Command.build.vocabulary true words = .error fault)
      (second : readWords Command.build.vocabulary true others = .error fault)

theorem find?_withoutSummary {looks : Given → Bool} (ignores : ∀ wanted, looks (.summary wanted) = false)
    (given : List Given) : (withoutSummary given).find? looks = given.find? looks := by
  rw [withoutSummary, List.find?_filter]
  congr 1
  funext option
  cases option <;> simp [isSummary, ignores]

theorem findSome?_withoutSummary {α : Type} {looks : Given → Option α}
    (ignores : ∀ wanted, looks (.summary wanted) = none) (given : List Given) :
    (withoutSummary given).reverse.findSome? looks = given.reverse.findSome? looks := by
  rw [withoutSummary, ← List.filter_reverse, ← List.head?_filterMap, ← List.head?_filterMap,
    List.filterMap_filter]
  congr 2
  funext option
  cases option <;> simp [isSummary, ignores]

/-- Options that are the same but for those on summaries come to the same in all else. -/
structure AgreeAside (given twin : List Given) : Prop where
  requests : ∀ surroundings help,
    answerRequests surroundings help given = answerRequests surroundings help twin
  bookDir : bookDir? .build given = bookDir? .build twin
  dryRun : given.contains .dryRun = twin.contains .dryRun

theorem agreeAside_of_withoutSummary {given twin : List Given}
    (same : withoutSummary given = withoutSummary twin) : AgreeAside given twin := by
  constructor
  · refine answerRequests_congr ?_
    rw [← find?_withoutSummary (fun _ => by rfl), same, find?_withoutSummary fun _ => by rfl]
  · refine bookDir?_congr .build ?_
    unfold lastBookDir?
    rw [← findSome?_withoutSummary (fun _ => by rfl), same, findSome?_withoutSummary fun _ => by rfl]
  · have kept (given : List Given) : given.contains .dryRun = (withoutSummary given).contains .dryRun := by
      simp [withoutSummary, List.contains_eq_mem, isSummary]
    rw [kept given, same, kept twin]

/-! ### A build up to its outcome -/

def outcomeOf (makeContext : Action Context) (surroundings : Surroundings) (words : List String) :
    Action Build.Outcome := do
  let context ← makeContext
  let (given, bookDir) ← heed .build surroundings words
  reachOutcome (contextFor context bookDir) (given.contains .dryRun)

theorem outcomeOf_eq {words others : List String} (differ : DifferInSummary words others)
    (makeContext : Action Context) (surroundings : Surroundings) :
    outcomeOf makeContext surroundings words = outcomeOf makeContext surroundings others := by
  unfold outcomeOf heed
  refine bind_congr fun context => ?_
  cases differ with
  | refused first second => rw [first, second]
  | read first second same wanted unwanted =>
    have agree := agreeAside_of_withoutSummary same
    simp only [first, second, accept, pure_bind, bind_assoc, agree.requests, agree.bookDir]
    refine bind_congr fun _ => bind_congr fun bookDir => ?_
    split
    · simp only [bind_assoc, pure_bind, agree.dryRun]
    · simp only [pure_bind, agree.dryRun]

theorem gives_heed (command : Command) (surroundings : Surroundings) (words : List String) :
    Action.Gives
      (fun heeded => ∃ left, readWords command.vocabulary true words = .ok (heeded.1, left))
      (fun _ => True) (heed command surroundings words) := by
  have rejects {α : Type} (usage path : String) (fault : UsageFault) :
      Action.Gives (fun _ => False) (fun _ => True) (reject usage path fault : Action α) := by
    unfold reject
    split
    · exact (Action.failsOnly_any _).bind fun _ _ =>
        (Action.failsOnly_any _).bind fun _ _ => Action.gives_throw trivial
    · exact (Action.failsOnly_any _).bind fun _ _ => Action.gives_throw trivial
  unfold heed accept
  cases read : readWords command.vocabulary true words with
  | error fault => exact (rejects _ _ fault).bind fun _ never => never.elim
  | ok pair =>
    simp only [pure_bind]
    refine (Action.failsOnly_any _).bind fun _ _ => (Action.failsOnly_any _).bind fun bookDir _ => ?_
    have done : Action.Gives (fun heeded : List Given × Option Path =>
        ∃ left, (Except.ok pair : Except UsageFault _) = .ok (heeded.1, left)) (fun _ => True)
        (pure (pair.1, bookDir)) := Action.gives_pure ⟨pair.2, rfl⟩
    split
    · exact (Action.failsOnly_any _).bind fun _ _ => done
    · exact done

/-- The status of a build, and what is told of its end: a panel, if one is wanted and there is an outcome. -/
theorem perform_status_of_outcome {words rest : List String} (asks : AskFor words .build rest)
    (makeContext : Action Context) {surroundings : Surroundings} (elapses : surroundings.Elapses)
    {summary : Bool}
    (wants : ∀ given left, readWords Command.build.vocabulary true rest = .ok (given, left) →
      wantsSummary given = summary) (machine : Machine) :
    Action.perform (status surroundings makeContext words) machine =
      match Action.perform (outcomeOf makeContext surroundings rest) machine with
      | (.ok outcome, after) => (exitOf (concluded outcome), { after with
          emissions := after.emissions ++ if summary then panelLines surroundings outcome else [] })
      | (.error failure, after) => (exitOf (.error failure), { after with
          emissions := after.emissions ++ farewell (.error failure) }) := by
  rw [perform_status_eq, perform_of_askFor asks, outcomeOf, Action.perform_bind, Action.perform_bind]
  rcases Action.perform makeContext machine with ⟨failure | context, opened⟩
  · rfl
  · simp only [run_eq, Action.perform_bind]
    have given := (gives_heed .build surroundings rest).ends opened
    generalize Action.perform (heed .build surroundings rest) opened = heeded at given ⊢
    rcases heeded with ⟨failure | ⟨options, bookDir⟩, begun⟩
    · rfl
    · obtain ⟨left, read⟩ := given
      simp only [act, runBuild_eq, Action.perform_bind, wants options left read]
      rcases Action.perform (reachOutcome (contextFor context bookDir) (options.contains .dryRun)) begun with
        ⟨failure | outcome, after⟩
      · rfl
      · simp only [perform_conclude fun _ => elapses]
        -- an outcome is no reason to say goodbye
        have silent : farewell (concluded outcome) = [] := by
          unfold concluded
          cases outcome.success <;> rfl
        simp [silent]

theorem panelLines_of_elapses {surroundings : Surroundings} (elapses : surroundings.Elapses)
    (outcome : Build.Outcome) :
    ∃ panel, (summaryOf surroundings outcome).panel = .ok panel ∧ panelLines surroundings outcome =
      [.notice (String.join ((panel.render surroundings.columns).map (· ++ "\n")))] := by
  obtain ⟨text, elapsed⟩ := elapses
  unfold panelLines Summary.panel Summary.lines summaryOf
  rw [elapsed]
  exact ⟨_, rfl, rfl⟩

theorem settled_eq_ok {ending : Except Failure Build.Outcome} {outcome : Build.Outcome}
    (ended : settled ending = .ok outcome) : ending = .ok outcome := by
  rcases ending with failure | outcome
  · cases failure <;> cases ended
  · exact ended

/-- A build that is settled with an outcome ran in a directory that is there, and nobody stopped it. -/
theorem ran_of_buildThere {context : Context} {machine : Machine} {outcome : Build.Outcome}
    (ended : (Action.perform (buildThere context) machine).1 = .ok outcome) :
    machine.HasDirectory context.bookDir ∧
      (Action.perform (Build.run context) machine).1 = .ok outcome := by
  have checked := Action.ensureBookDirectory_cases context.bookDir machine
  obtain ⟨_, inside, ensured, settles⟩ := Action.perform_bind_eq_ok ended
  rw [ensured] at checked
  rcases checked with ⟨there, same⟩ | ⟨_, failed⟩ | ⟨_, failed, _⟩
  · have here : inside = machine := congrArg Prod.snd same
    rw [here, Action.perform_bind, Action.perform_attempt] at settles
    simp only [perform_settle] at settles
    exact ⟨there, settled_eq_ok settles⟩
  · cases failed
  · cases failed

theorem ran_of_outcomeOf {makeContext : Action Context} {surroundings : Surroundings} {words : List String}
    {machine : Machine} {outcome : Build.Outcome}
    (ended : (Action.perform (outcomeOf makeContext surroundings words) machine).1 = .ok outcome) :
    ∃ context begun, begun.HasDirectory context.bookDir ∧
      (Action.perform (Build.run context) begun).1 = .ok outcome := by
  obtain ⟨context, opened, _, heeds⟩ := Action.perform_bind_eq_ok ended
  obtain ⟨⟨given, bookDir⟩, begun, _, reaches⟩ := Action.perform_bind_eq_ok heeds
  simp only [reachOutcome_eq] at reaches
  split at reaches
  · obtain ⟨_, announced, _, builds⟩ := Action.perform_bind_eq_ok reaches
    exact ⟨_, _, ran_of_buildThere builds⟩
  · exact ⟨_, _, ran_of_buildThere reaches⟩

theorem mortals_isFair : (World.real mortals).IsFair :=
  ⟨⟨fun _ _ => ⟨[], by simp [mortals], by simp⟩, fun _ _ _ stopped => by cases stopped⟩,
    fun _ _ _ _ _ _ => ⟨rfl, rfl, rfl⟩⟩

/-- A build whose pre-build command exits with what the variable says. -/
def curiousSettings : Settings :=
  { Build.besideSettings with prebuild := ["/bin/sh", "-c", "exit $\x7bBOOKBUILD_DEBUG:-4\x7d"] }

end CommandLine

end Bookbinder
