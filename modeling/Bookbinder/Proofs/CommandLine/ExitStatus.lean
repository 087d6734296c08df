import Bookbinder.Proofs.CommandLine.Turns

/-!
The status of a build that is no dry run, whatever programs do, whatever comes over the network and wherever
the user stops it. Main statement: a build that ends with a status ends with that of the first of its parts
that did not go well, and with zero just if all of them did; no status is beyond a byte.
-/

set_option autoImplicit false

namespace Bookbinder

open Action (perform)
open CommandLine (statusOf? replyStatus?)

instance (machine : Machine) (path : Path) : Decidable (machine.HasDirectory path) :=
  decidable_of_iff
    (holdsNul path.text = false ∧ machine.files.leadsToDirectory machine.cwd path.text = true)
    ⟨fun there => ⟨there.1, there.2⟩, fun there => ⟨there.clean, there.leads⟩⟩

/-! ### The parts of a build -/

namespace Build

-- The machines on which the pre-build command, the tool and the build are asked for.
section

variable (context : Context) (directory : Path) (machine : Machine)

def preparing : Machine :=
  { machine with emissions := machine.emissions ++
      [.trace origin ("Pre-build starting: " ++ Text.quotedList context.settings.prebuild)] }

def looking : Machine := (perform (runPrebuild context directory) machine).2

def building : Machine :=
  (perform (Action.tellLine "Building book..")
    (perform (resolveTool context directory) (looking context directory machine)).2).2

end

/-- How the parts of a build turned out. One that comes after a part that did not go well says nothing. -/
structure Course where
  directory : Turn
  prebuild : Turn
  tool : Turn
  build : Turn

def Course.turns (course : Course) : List Turn :=
  [course.directory, course.prebuild, course.tool, course.build]

end Build

open Build (preparing looking building)

def Outside.course (outside : Outside) (context : Context) (machine : Machine) : Build.Course :=
  let release := context.settings.release
  let inside := (perform (Action.arrive context.bookDir) machine).2
  let place := Path.ofSpot inside.cwd.spot
  let tool := Build.toolOf release (outside.installed? release (looking context place inside))
  { directory := if machine.HasDirectory context.bookDir then .done else .failed
    prebuild := outside.commandTurn (preparing context inside) context.settings.prebuild place
    tool := outside.toolTurn release place (looking context place inside)
    build := outside.commandTurn (building context place inside) [tool.command, "build"] place }

namespace Build

variable {context : Context} {outside : Outside}

/-- After a command the steps go on, or the status is what the command's turn says. -/
theorem statusOf?_command {first : Action Int} {turn : Turn} {machine : Machine}
    (tells : turn.Tells (perform first machine).1) (next : Int → Action Outcome) (step : Step)
    (tool : Option Tool) (fails : ∀ code, code ≠ 0 → next code = pure ⟨code, some step, tool⟩) :
    statusOf? (perform (first >>= next) machine).1 =
      if turn.isGood then statusOf? (perform (next 0) (perform first machine).2).1 else turn.status? := by
  rw [Action.perform_bind]
  generalize perform first machine = outcome at tells ⊢
  rcases outcome with ⟨reply, after⟩
  cases good : turn.isGood with
  | true =>
    cases tells.good.1 good
    rfl
  | false =>
    rw [tells.status]
    cases reply with
    | error failure => rfl
    | ok code =>
      have failed : code ≠ 0 := by
        rintro rfl
        simp [tells.good.2 rfl] at good
      simp only [fails code failed]
      rfl

variable (others : context.workbench = outside.workbench)

include others

/-- A command between two traces answers what it answers. -/
theorem tells_traced (started : Emission) (finished : Int → Emission) (words : List String)
    (directory : Path) (machine : Machine) :
    (outside.commandTurn { machine with emissions := machine.emissions ++ [started] } words directory).Tells
      (perform
        (do
          Action.emit started
          let code ← context.workbench.run words directory
          Action.emit (finished code)
          return code) machine).1 := by
  have tells := outside.tells_run { machine with emissions := machine.emissions ++ [started] } words directory
  rw [← others] at tells
  simp only [Action.perform_bind, Action.perform_emit]
  generalize perform (context.workbench.run words directory)
    { machine with emissions := machine.emissions ++ [started] } = outcome at tells ⊢
  rcases outcome with ⟨reply, after⟩
  cases reply <;> exact tells

theorem statusOf?_buildWith (directory : Path) (tool : Tool) (machine : Machine) :
    statusOf? (perform (buildWith context directory tool) machine).1 =
      Turn.firstStatus? [outside.commandTurn (perform (Action.tellLine "Building book..") machine).2
        [tool.command, "build"] directory] := by
  have tells : (outside.commandTurn (perform (Action.tellLine "Building book..") machine).2
      [tool.command, "build"] directory).Tells (perform (runTool context tool directory) machine).1 := by
    rw [runTool]
    exact tells_traced others _ _ _ _ machine
  exact statusOf?_command tells
    (fun built => if built ≠ 0 then pure ⟨built, some .build, some tool⟩ else pure ⟨0, none, some tool⟩)
    .build (some tool) fun _ failed => if_pos failed

theorem statusOf?_resolveAndBuild (directory : Path) (machine : Machine) :
    statusOf? (perform (resolveAndBuild context directory) machine).1 =
      Turn.firstStatus?
        [outside.toolTurn context.settings.release directory machine,
          outside.commandTurn
            (perform (Action.tellLine "Building book..")
              (perform (resolveTool context directory) machine).2).2
            [(toolOf context.settings.release
              (outside.installed? context.settings.release machine)).command, "build"] directory] := by
  have looked := resolveTool_cases others directory machine
  rw [resolveAndBuild, Action.perform_bind]
  generalize perform (resolveTool context directory) machine = found at looked ⊢
  rcases found with ⟨reply, after⟩
  rcases looked with ⟨good, rfl⟩ | ⟨bad, rfl, status⟩ | ⟨bad, failure, rfl, status⟩
  · rw [Turn.firstStatus?_of_good good]
    exact statusOf?_buildWith others directory _ _
  · rw [Turn.firstStatus?_of_bad bad, status]
    rfl
  · rw [Turn.firstStatus?_of_bad bad, status]

theorem statusOf?_runSteps (directory : Path) (machine : Machine) :
    statusOf? (perform (runSteps context directory) machine).1 =
      Turn.firstStatus?
        [outside.commandTurn (preparing context machine) context.settings.prebuild directory,
          outside.toolTurn context.settings.release directory (looking context directory machine),
          outside.commandTurn (building context directory machine)
            [(toolOf context.settings.release (outside.installed? context.settings.release
              (looking context directory machine))).command, "build"] directory] := by
  have tells : (outside.commandTurn (preparing context machine) context.settings.prebuild directory).Tells
      (perform (runPrebuild context directory) machine).1 := by
    rw [runPrebuild]
    exact tells_traced others _ _ _ _ machine
  have ended := statusOf?_command tells
    (fun prebuilt => if prebuilt ≠ 0 then pure ⟨prebuilt, some .prebuild, none⟩
      else resolveAndBuild context directory)
    .prebuild none fun _ failed => if_pos failed
  have onward := statusOf?_resolveAndBuild others directory (looking context directory machine)
  rw [Turn.firstStatus?, building, ← onward]
  exact ended

end Build

/-! ### From the steps to the program -/

/-- A failure with which no program ends by its own choice, nor by that of the user. -/
def Failure.IsUnstated (failure : Failure) : Prop := statusOf? (.error failure) = none

theorem Failure.passesOn_isUnstated : Action.PassesOn Failure.IsUnstated := ⟨fun _ _ => rfl, rfl⟩

namespace Action

variable {α : Type}

/-- A stay that comes to a status, or to an outcome, is one that began, and ended as its body did. -/
theorem inDirectory_stated (target : Path) (body : Path → Action α) (machine : Machine)
    (stated : ∀ failure, (perform (inDirectory target body) machine).1 = .error failure →
      ¬ failure.IsUnstated) :
    ∃ visit entered, perform (arrive target) machine = (.ok visit, entered) ∧
      (perform (inDirectory target body) machine).1 = (perform (body visit.place) entered).1 := by
  have arrives := (failsOnly_arrive Failure.passesOn_isUnstated target).ends machine
  rw [inDirectory, perform_bind] at stated ⊢
  generalize perform (arrive target) machine = arrived at arrives stated ⊢
  rcases arrived with ⟨failure | visit, entered⟩
  · exact absurd arrives (stated failure rfl)
  · -- going back may only replace the end of the body by a failure without a status
    have departs := (failsOnly_depart Failure.passesOn_isUnstated visit).ends
      (perform (body visit.place) entered).2
    refine ⟨visit, entered, rfl, ?_⟩
    simp only [perform_ensuring] at stated ⊢
    generalize perform (depart visit) (perform (body visit.place) entered).2 = departed at departs stated ⊢
    rcases departed with ⟨failure | done, last⟩
    · exact absurd departs (stated failure rfl)
    · rfl

/-- The book directory is there, or the program ends, or it cannot tell. -/
theorem ensureBookDirectory_cases (path : Path) (machine : Machine) :
    (machine.HasDirectory path ∧ perform (ensureBookDirectory path) machine = (.ok (), machine)) ∨
    (¬ machine.HasDirectory path ∧ (perform (ensureBookDirectory path) machine).1 = .error (.exit 1)) ∨
    ∃ failure, (perform (ensureBookDirectory path) machine).1 = .error failure ∧ failure.IsUnstated := by
  rw [ensureBookDirectory, perform_bind]
  cases unclean : holdsNul path.text with
  | true =>
    rw [perform_isDirectory_of_holdsNul unclean]
    refine .inr (.inl ⟨fun there => ?_, rfl⟩)
    rw [there.clean] at unclean
    cases unclean
  | false =>
    rw [perform_isDirectory unclean]
    cases told : machine.files.tellsDirectory machine.cwd path.text with
    | error errno => exact .inr (.inr ⟨_, rfl, rfl⟩)
    | ok found =>
      cases found with
      | true => exact .inl ⟨⟨unclean, FileSystem.leadsToDirectory_of_tellsDirectory told⟩, rfl⟩
      | false =>
        refine .inr (.inl ⟨fun there => ?_, rfl⟩)
        rw [FileSystem.tellsDirectory_of_leadsToDirectory there.leads] at told
        cases told

end Action

namespace Build

variable {context : Context} {machine : Machine} {outside : Outside}

theorem statusOf?_run (others : context.workbench = outside.workbench) {code : Int}
    (stated : statusOf? (perform (Build.run context) machine).1 = some code) :
    Turn.firstStatus? (outside.course context machine).turns.tail = some code := by
  obtain ⟨emissions, finished⟩ := perform_run context machine
  rw [finished] at stated
  obtain ⟨visit, entered, arrived, ended⟩ := Action.inDirectory_stated context.bookDir (runSteps context)
    machine fun failure failed unstated => by
      simp only at stated
      rw [failed, unstated] at stated
      cases stated
  have place : visit.place = Path.ofSpot entered.cwd.spot := by
    rcases Action.arrive_cases context.bookDir machine with ⟨failure, refused⟩ | ⟨_, _, same, _, place, _⟩
    · rw [refused] at arrived
      cases arrived
    · rw [same] at arrived
      cases arrived
      exact place
  simp only at stated
  rw [ended, statusOf?_runSteps others, place] at stated
  simp only [Outside.course, Course.turns, List.tail_cons, arrived]
  exact stated

end Build

namespace CommandLine

theorem exitOf_of_isUnstated {failure : Failure} (unstated : failure.IsUnstated) :
    exitOf (.error failure) = .error failure := by
  cases failure with
  | exit status => cases unstated
  | interrupted => cases unstated
  | archive fault =>
    unfold Failure.IsUnstated at unstated
    rw [statusOf?_archive] at unstated
    cases aborts : isAbort (.archive fault) with
    | true => simp [aborts] at unstated
    | false => simp [exitOf, aborts]
  | _ => rfl

/-- If the end of a build is told, and the program ends with a status, then it is that of the outcome. -/
theorem exitOf_concluded {surroundings : Surroundings} {summary : Bool} {outcome : Build.Outcome}
    {machine : Machine} {code : Int}
    (ended : exitOf (Action.perform (conclude surroundings summary outcome) machine).1 = .ok code) :
    exitOf (concluded outcome) = .ok code := by
  unfold conclude printSummary at ended
  cases summary with
  | false =>
    simp only [Bool.false_eq_true, if_false] at ended
    rw [perform_concluded] at ended
    exact ended
  | true =>
    simp only [if_true] at ended
    cases shown : (summaryOf surroundings outcome).panel with
    | error fault =>
      -- a time that has no text ends the program without a status
      rw [shown] at ended
      cases ended
    | ok panel =>
      rw [shown] at ended
      simp only [Action.perform_bind, Action.perform_emit, perform_concluded] at ended
      exact ended

variable {outside : Outside} {surroundings : Surroundings} {context : Context} {machine : Machine}

theorem runBuild_status (others : context.workbench = outside.workbench) {given : List Given}
    (real : given.contains .dryRun = false) {code : Int}
    (ended : exitOf (Action.perform (runBuild surroundings context given) machine).1 = .ok code) :
    Turn.firstStatus? (outside.course context machine).turns = some code := by
  rw [runBuild_eq, real, Action.perform_bind] at ended
  simp only [reachOutcome, contextOf, Bool.false_eq_true, if_false, Action.perform_bind] at ended
  simp only [Outside.course, Build.Course.turns]
  have checked := Action.ensureBookDirectory_cases context.bookDir machine
  generalize Action.perform (Action.ensureBookDirectory context.bookDir) machine = outcome at ended checked
  rcases outcome with ⟨result, checkedMachine⟩
  rcases checked with ⟨there, same⟩ | ⟨missing, rfl⟩ | ⟨failure, rfl, unstated⟩
  · cases same
    -- the directory is there, so the status is that of the other turns, which the steps come to
    rw [if_pos there, Turn.firstStatus?_of_good rfl]
    refine Build.statusOf?_run others ?_
    simp only [Action.perform_attempt, perform_settle] at ended
    unfold statusOf?
    cases settledAs : settled (Action.perform (Build.run context) machine).1 with
    | error failure =>
      rw [settledAs] at ended
      exact congrArg Except.toOption ended
    | ok outcome =>
      rw [settledAs] at ended
      exact congrArg Except.toOption (exitOf_concluded ended)
  · rw [if_neg missing, Turn.firstStatus?_of_bad rfl]
    cases ended
    rfl
  · simp only [exitOf_of_isUnstated unstated] at ended
    cases ended

end CommandLine

/-! ### What turns there can be -/

namespace Outside

variable {outside : Outside}

/-- Programs die only of signals that there are. -/
def HasSignals (outside : Outside) : Prop :=
  ∀ environment words signal, (outside.run environment words).2 = .killed signal → signal ≤ 64

/-- A command that is not started turned out so because of an error number, or crashed the program. -/
theorem starts_error {machine : Machine} {directory : Path} {words : List String} {turn : Turn}
    (refused : outside.starts machine directory words = .error turn) :
    turn = .crashed ∨ ∃ errno, turn = .ofErrno errno := by
  cases words with
  | nil =>
    cases refused
    exact .inl rfl
  | cons program rest =>
    cases unclean : (program :: rest).any holdsNul || holdsNul directory.text with
    | true =>
      rw [starts_of_holdsNul unclean] at refused
      cases refused
      exact .inl rfl
    | false =>
      cases entered : machine.files.enter machine.cwd directory.text with
      | error errno =>
        rw [starts_of_refused unclean entered] at refused
        cases refused
        exact .inr ⟨errno, rfl⟩
      | ok place =>
        rw [starts_of_enter unclean entered] at refused
        cases launched : outside.launch machine.files place (Workbench.searchPath outside.exported) program
            (program :: rest) with
        | error errno =>
          rw [launched] at refused
          cases refused
          exact .inr ⟨errno, rfl⟩
        | ok arguments =>
          rw [launched] at refused
          cases refused

theorem commandTurn_isGood (machine : Machine) (words : List String) (directory : Path) :
    (outside.commandTurn machine words directory).isGood = true ↔
      outside.commandTurn machine words directory = .exited 0 := by
  refine ⟨fun good => ?_, fun exited => exited ▸ rfl⟩
  unfold commandTurn runTurn at good ⊢
  cases stopped : outside.stops machine (.command words directory) with
  | some left => simp [stopped, Turn.isGood] at good
  | none =>
    simp only [stopped] at good ⊢
    cases started : outside.starts machine directory words with
    | error turn =>
      -- what was never started did not go well
      rw [started] at good
      rcases starts_error started with rfl | ⟨errno, rfl⟩
      · cases good
      · cases errno <;> cases good
    | ok start =>
      rw [started] at good
      simp only at good ⊢
      generalize (outside.run _ start.2).2 = ending at good ⊢
      cases ending with
      | killed signal => cases good
      | exited status =>
        simp only [Turn.ofEnding] at good ⊢
        cases code : status % 256 with
        | zero => rfl
        | succ code => simp [code, Turn.isGood] at good

theorem commandTurn_inBounds (signals : outside.HasSignals) (machine : Machine) (words : List String)
    (directory : Path) : (outside.commandTurn machine words directory).InBounds := by
  unfold commandTurn runTurn
  cases stopped : outside.stops machine (.command words directory) with
  | some left => trivial
  | none =>
    simp only
    cases started : outside.starts machine directory words with
    | error turn =>
      rcases starts_error started with rfl | ⟨errno, rfl⟩
      · trivial
      · exact Turn.ofErrno_inBounds errno
    | ok start =>
      simp only
      cases ended : (outside.run (Workbench.shellEnvironment (told words directory machine) start.1
          outside.exported) start.2).2 with
      | exited status => exact Nat.mod_lt _ (by decide)
      | killed signal => exact signals _ _ _ ended

theorem toolTurn_cases (outside : Outside) (release : Release) (directory : Path) (machine : Machine) :
    outside.toolTurn release directory machine ∈ [Turn.done, .failed, .stopped, .crashed] := by
  have fetched (reply : Except Failure Unit) : Turn.ofFetch reply ∈ [Turn.done, .failed, .stopped, .crashed] := by
    unfold Turn.ofFetch
    split
    · simp
    · simp
    · split <;> simp
  unfold toolTurn fetchTurn
  cases outside.stops machine (.lookup release.name) with
  | some left => simp
  | none =>
    cases outside.installed? release machine with
    | some path => simp
    | none =>
      cases release.url with
      | error fault => simp
      | ok url =>
        simp only
        split
        · simp
        · exact fetched _

theorem toolTurn_isGood (release : Release) (directory : Path) (machine : Machine) :
    (outside.toolTurn release directory machine).isGood = true ↔
      outside.toolTurn release directory machine = .done := by
  have cases := toolTurn_cases outside release directory machine
  generalize outside.toolTurn release directory machine = turn at cases ⊢
  simp only [List.mem_cons, List.not_mem_nil, or_false] at cases
  rcases cases with rfl | rfl | rfl | rfl <;> simp [Turn.isGood]

theorem toolTurn_inBounds (release : Release) (directory : Path) (machine : Machine) :
    (outside.toolTurn release directory machine).InBounds := by
  have cases := toolTurn_cases outside release directory machine
  generalize outside.toolTurn release directory machine = turn at cases ⊢
  simp only [List.mem_cons, List.not_mem_nil, or_false] at cases
  rcases cases with rfl | rfl | rfl | rfl <;> trivial

theorem course_directory_isGood (outside : Outside) (context : Context) (machine : Machine) :
    (outside.course context machine).directory.isGood = true ↔ machine.HasDirectory context.bookDir := by
  unfold course
  by_cases there : machine.HasDirectory context.bookDir <;> simp [there, Turn.isGood]

/-- All went well: the book directory was there, both processes exited with zero, and the tool was there or
its release was fetched. -/
theorem course_isGood (context : Context) (machine : Machine) :
    (∀ turn ∈ (outside.course context machine).turns, turn.isGood = true) ↔
      machine.HasDirectory context.bookDir ∧ (outside.course context machine).prebuild = .exited 0 ∧
        (outside.course context machine).tool = .done ∧
        (outside.course context machine).build = .exited 0 := by
  have directory := course_directory_isGood outside context machine
  have prebuild : (outside.course context machine).prebuild.isGood = true ↔
      (outside.course context machine).prebuild = .exited 0 := commandTurn_isGood _ _ _
  have tool : (outside.course context machine).tool.isGood = true ↔
      (outside.course context machine).tool = .done := toolTurn_isGood _ _ _
  have build : (outside.course context machine).build.isGood = true ↔
      (outside.course context machine).build = .exited 0 := commandTurn_isGood _ _ _
  simp [Build.Course.turns, directory, prebuild, tool, build]

theorem course_inBounds (signals : outside.HasSignals) (context : Context) (machine : Machine) :
    ∀ turn ∈ (outside.course context machine).turns, turn.InBounds := by
  have directory : (outside.course context machine).directory.InBounds := by
    unfold course
    by_cases there : machine.HasDirectory context.bookDir <;> simp [there, Turn.InBounds]
  intro turn member
  simp only [Build.Course.turns, List.mem_cons, List.not_mem_nil, or_false] at member
  rcases member with rfl | rfl | rfl | rfl
  · exact directory
  · exact commandTurn_inBounds signals _ _ _
  · exact toolTurn_inBounds _ _ _
  · exact commandTurn_inBounds signals _ _ _

end Outside

namespace CommandLine

/-- What the status of a build that is no dry run says. The build may be stopped by its user at any request,
and programs may do whatever they do. -/
theorem build_status_of_first_failure {outside : Outside} {surroundings : Surroundings}
    {makeContext : Action Context} {words rest : List String} {machine opened begun last : Machine}
    {context : Context} {given : List Given} {bookDir : Option Path} {code : Int}
    (asks : AskFor words .build rest)
    (opens : Action.perform makeContext machine = (.ok context, opened))
    (others : context.workbench = outside.workbench)
    (heeded : Action.perform (heed .build surroundings rest) opened = (.ok (given, bookDir), begun))
    (real : given.contains .dryRun = false)
    (signals : outside.HasSignals)
    (ended : Action.perform (status surroundings makeContext words) machine = (.ok code, last)) :
    Turn.firstStatus? (outside.course (contextFor context bookDir) begun).turns = some code ∧
      (code = 0 ↔
        begun.HasDirectory (contextFor context bookDir).bookDir ∧
        (outside.course (contextFor context bookDir) begun).prebuild = .exited 0 ∧
        (outside.course (contextFor context bookDir) begun).tool = .done ∧
        (outside.course (contextFor context bookDir) begun).build = .exited 0) ∧
      0 ≤ code ∧ code ≤ 255 := by
  have stated : Turn.firstStatus? (outside.course (contextFor context bookDir) begun).turns = some code := by
    rw [perform_status_eq, perform_of_askFor asks, Action.perform_bind, opens] at ended
    simp only [run_eq, Action.perform_bind, heeded] at ended
    exact runBuild_status ((contextFor_workbench context bookDir).trans others) real
      (congrArg Prod.fst ended)
  refine ⟨stated, ?_, ?_⟩
  · have zero : code = 0 ↔ Turn.firstStatus? (outside.course (contextFor context bookDir) begun).turns = some 0 := by
      rw [stated]
      simp
    rw [zero, Turn.firstStatus?_eq_zero, Outside.course_isGood]
  · exact Turn.firstStatus?_bounds (Outside.course_inBounds signals _ _) stated

/-- Programs that all start, and die at once. -/
def mortals : Outside where
  launch _ _ _ _ words := .ok words
  run environment _ := (environment, .killed 9)
  exported := []
  supply := ⟨fun _ => .unreachable "", false⟩
  stops _ _ := none

theorem build_status_of_killed_prebuild :
    ∃ context last,
      Action.perform (status ⟨80, 0, 0⟩ (openContext mortals.workbench) ["build", "--book-dir", "/tmp"])
        Machine.atProject = (.ok 137, last) ∧
      Turn.firstStatus? (mortals.course (contextFor context (some (Path.parse "/tmp")))
        Machine.atProject).turns = some 137 := by
  obtain ⟨context, opens, others⟩ : ∃ context, Action.perform (openContext mortals.workbench)
      Machine.atProject = (.ok context, Machine.atProject) ∧ context.workbench = mortals.workbench :=
    ⟨_, rfl, rfl⟩
  have heeded : Action.perform (heed .build ⟨80, 0, 0⟩ ["--book-dir", "/tmp"]) Machine.atProject =
      (.ok ([.bookDir "/tmp"], some (Path.parse "/tmp")), Machine.atProject) := by
    with_unfolding_all rfl
  have signals : mortals.HasSignals := by
    rintro environment words signal ⟨⟩
    decide
  obtain ⟨last, ended⟩ : ∃ last, Action.perform (status ⟨80, 0, 0⟩ (openContext mortals.workbench)
      ["build", "--book-dir", "/tmp"]) Machine.atProject = (.ok 137, last) :=
    ⟨_, by with_unfolding_all rfl⟩
  have first := build_status_of_first_failure (askFor_name .build _) opens others heeded rfl signals ended
  exact ⟨context, last, ended, first.1⟩

end CommandLine

end Bookbinder
