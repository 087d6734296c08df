import Bookbinder.Build
import Bookbinder.Proofs.Machine.Visits

/-!
A build as a row of stages, of which the first that does not pass ends the whole. It is a build among others
of whom nothing is known but that they leave the process where it is. What they answer may depend on all that
was asked before, and what they do to files and output on everything. Main statement: a build asks for its
pre-build command, for the installed tool, for a release if there is none, and for the tool's own build, in
this order, each time only if all before went well; and how it ends is told by the first of them that went
wrong.
-/

set_option autoImplicit false

/-! ### Stages -/

namespace Bookbinder.Build

/-- A stage: the requests that it makes, and the end that it brings about unless it passes. -/
structure Stage where
  requests : List Event
  ending : Option (Except Failure Outcome)

def Stage.passes (stage : Stage) : Prop := stage.ending = none

/-- What is asked in a row of stages. -/
def requestsOf : List Stage → List Event
  | [] => []
  | stage :: rest => stage.requests ++ if stage.ending.isSome then [] else requestsOf rest

/-- How a row of stages ends, with what it ends if all pass. -/
def endingOf (final : Except Failure Outcome) : List Stage → Except Failure Outcome
  | [] => final
  | stage :: rest => stage.ending.getD (endingOf final rest)

theorem requestsOf_cons_of_passes {stage : Stage} (rest : List Stage) (passes : stage.ending = none) :
    requestsOf (stage :: rest) = stage.requests ++ requestsOf rest := by
  rw [requestsOf, passes]
  rfl

theorem requestsOf_cons_of_ending {stage : Stage} {ending : Except Failure Outcome} (rest : List Stage)
    (ends : stage.ending = some ending) : requestsOf (stage :: rest) = stage.requests := by
  simp [requestsOf, ends]

theorem endingOf_cons_of_passes {stage : Stage} (final : Except Failure Outcome) (rest : List Stage)
    (passes : stage.ending = none) : endingOf final (stage :: rest) = endingOf final rest := by
  rw [endingOf, passes]
  rfl

theorem endingOf_cons_of_ending {stage : Stage} {ending : Except Failure Outcome}
    (final : Except Failure Outcome) (rest : List Stage) (ends : stage.ending = some ending) :
    endingOf final (stage :: rest) = ending := by
  rw [endingOf, ends]
  rfl

/-- Requests are those of a row of first stages: of each stage before which all pass. -/
def AskedInTurn (stages : List Stage) (requests : List Event) : Prop :=
  ∃ count, requests = (stages.take count).flatMap Stage.requests ∧
    ∀ index, index < stages.length →
      (index < count ↔ ∀ stage ∈ stages.take index, stage.passes)

theorem askedInTurn_requestsOf (stages : List Stage) : AskedInTurn stages (requestsOf stages) := by
  induction stages with
  | nil => exact ⟨0, rfl, by simp⟩
  | cons stage rest ih =>
    cases ends : stage.ending with
    | some ending =>
      refine ⟨1, ?_, ?_⟩
      · rw [requestsOf_cons_of_ending rest ends]
        simp
      · intro index _
        cases index with
        | zero => simp
        | succ index =>
          have fails : ¬ stage.passes := by simp [Stage.passes, ends]
          simp [fails]
    | none =>
      obtain ⟨count, asked, reached⟩ := ih
      refine ⟨count + 1, ?_, ?_⟩
      · rw [requestsOf_cons_of_passes rest ends, asked]
        simp
      · intro index within
        cases index with
        | zero => simp
        | succ index =>
          have passes : stage.passes := ends
          have onward := reached index (by simpa using within)
          simpa [passes] using onward

end Bookbinder.Build

/-! ### Builds -/

namespace Bookbinder

/-- Those whom a build asks. -/
structure Crew where
  /-- The path of an installed tool, after what was asked before. -/
  findTool : List Event → String → Option String
  run : List Event → List String → Path → Except Failure Int
  fetch : List Event → String → Path → Except Failure Unit
  /-- What becomes of files while a request is met. -/
  files : Machine → Event → FileSystem
  /-- What is written while a request is met. -/
  emissions : Machine → Event → List Emission

/-- A request and the place of the process when it is made. -/
def Event.at (event : Event) (place : Path) : List Event := [event, .position place]

namespace Crew

def meet (crew : Crew) (event : Event) : Action (List Event) := do
  let machine ← get
  set { machine with
    files := crew.files machine event
    emissions := machine.emissions ++ crew.emissions machine event
    events := machine.events ++ event.at (Path.ofSpot machine.cwd.spot) }
  return machine.events

/-- A workbench on which every request is noted and met. -/
def workbench (crew : Crew) : Workbench where
  findTool name := do
    let past ← crew.meet (.lookup name)
    return crew.findTool past name
  run words directory := do
    let past ← crew.meet (.command words directory)
    Action.ofExcept (crew.run past words directory)
  fetch url directory := do
    let past ← crew.meet (.fetch url directory)
    Action.ofExcept (crew.fetch past url directory)

end Crew

namespace Build

/-- A command that exits with anything but zero ends a build, and so does one that fails. -/
def commandEnding (step : Step) (tool : Option Tool) :
    Except Failure Int → Option (Except Failure Outcome)
  | .ok code => if code = 0 then none else some (.ok ⟨code, some step, tool⟩)
  | .error failure => some (.error failure)

/-- A release that cannot be brought ends a build; any other failure is passed on. -/
def fetchEnding : Except Failure Unit → Option (Except Failure Outcome)
  | .ok () => none
  | .error (.delivery _) => some (.ok ⟨1, some .resolveTool, none⟩)
  | .error failure => some (.error failure)

/-- The tool of a build, by what the lookup answered. -/
def toolOf (release : Release) : Option String → Tool
  | some path => .installed release.name path
  | none => .downloaded release

/-- The release is asked for only if no tool is installed, and only under an address. -/
def fetchRequests (directory : Path) : Option String → Except Template.Fault String → List Event
  | none, .ok url => Event.at (.fetch url directory) directory
  | _, _ => []

/-- What a crew answers in the course of a build. -/
structure Replies where
  prebuild : Except Failure Int
  installed : Option String
  fetch : Except Failure Unit
  build : Except Failure Int

/-- What comes of bringing a release. Without an address nobody is asked. -/
def bring (crew : Crew) (release : Release) (directory : Path) (past : List Event) : Except Failure Unit :=
  match release.url with
  | .ok url => crew.fetch past url directory
  | .error fault => .error (.template fault)

/-- What a crew answers to the requests of a build, each after all those before it. -/
def repliesOf (crew : Crew) (settings : Settings) (directory : Path)
    (past : List Event) : Replies :=
  let release := settings.release
  let prebuilt := past ++ Event.at (.command settings.prebuild directory) directory
  let looked := prebuilt ++ Event.at (.lookup release.name) directory
  let installed := crew.findTool prebuilt release.name
  let brought := looked ++ fetchRequests directory installed release.url
  { prebuild := crew.run past settings.prebuild directory
    installed := installed
    fetch := bring crew release directory looked
    build := crew.run brought [(toolOf release installed).command, "build"] directory }

/-- The last stage of a build, with the tool that was found. -/
def buildStage (directory : Path) (tool : Tool) (reply : Except Failure Int) : Stage :=
  ⟨Event.at (.command [tool.command, "build"] directory) directory,
    commandEnding .build (some tool) reply⟩

namespace Replies

/-- There is no stage for a release if a tool is installed. -/
def fetchStages (replies : Replies) (release : Release) (directory : Path) : List Stage :=
  match replies.installed with
  | some _ => []
  | none => [⟨fetchRequests directory none release.url, fetchEnding replies.fetch⟩]

/-- The stages after the pre-build. -/
def toolStages (replies : Replies) (settings : Settings) (directory : Path) : List Stage :=
  ⟨Event.at (.lookup settings.release.name) directory, none⟩ ::
  (replies.fetchStages settings.release directory ++
    [buildStage directory (toolOf settings.release replies.installed) replies.build])

/-- The stages of a build in a directory. -/
def stages (replies : Replies) (settings : Settings) (directory : Path) : List Stage :=
  ⟨Event.at (.command settings.prebuild directory) directory,
    commandEnding .prebuild none replies.prebuild⟩ :: replies.toolStages settings directory

end Replies

section

variable {α β : Type}

/-- What an action comes to in a machine, and what it asks of others from where the process stands. -/
def Asks (action : Action α) (machine : Machine) (result : Except Failure α) (requests : List Event) :
    Prop :=
  ∃ after, action.perform machine = (result, after) ∧ after.cwd = machine.cwd ∧
    after.events = machine.events ++ requests

theorem asks_pure (value : α) (machine : Machine) : Asks (pure value) machine (.ok value) [] :=
  ⟨machine, rfl, rfl, (List.append_nil _).symm⟩

theorem asks_emit (emission : Emission) (machine : Machine) :
    Asks (Action.emit emission) machine (.ok ()) [] :=
  ⟨_, rfl, rfl, (List.append_nil _).symm⟩

theorem Asks.bind {action : Action α} {next : α → Action β} {machine : Machine} {value : α}
    {result : Except Failure β} {first second : List Event}
    (asks : Asks action machine (.ok value) first)
    (onward : ∀ after : Machine, after.cwd = machine.cwd → after.events = machine.events ++ first →
      Asks (next value) after result second) :
    Asks (action >>= next) machine result (first ++ second) := by
  obtain ⟨middle, ended, stays, noted⟩ := asks
  obtain ⟨after, finished, stands, added⟩ := onward middle stays noted
  refine ⟨after, ?_, stands.trans stays, ?_⟩
  · rw [Action.perform_bind, ended]
    exact finished
  · rw [added, noted, List.append_assoc]

theorem Asks.bind_error {action : Action α} {machine : Machine} {failure : Failure}
    {requests : List Event} (asks : Asks action machine (.error failure) requests)
    (next : α → Action β) : Asks (action >>= next) machine (.error failure) requests := by
  obtain ⟨after, ended, stays, noted⟩ := asks
  refine ⟨after, ?_, stays, noted⟩
  rw [Action.perform_bind, ended]

/-- Output before an action asks for nothing. -/
theorem Asks.after_emit {next : Action β} {machine : Machine} {result : Except Failure β}
    {requests : List Event} (emission : Emission)
    (onward : ∀ after : Machine, after.cwd = machine.cwd → after.events = machine.events →
      Asks next after result requests) :
    Asks (Action.emit emission >>= fun _ => next) machine result requests := by
  refine (asks_emit emission machine).bind fun after stays noted => onward after stays ?_
  rw [noted, List.append_nil]

end

variable (crew : Crew)

theorem asks_run (words : List String) (directory : Path) (machine : Machine) :
    Asks (crew.workbench.run words directory) machine (crew.run machine.events words directory)
      (Event.at (.command words directory) (Path.ofSpot machine.cwd.spot)) :=
  ⟨_, Action.perform_ofExcept _ _, rfl, rfl⟩

theorem asks_findTool (name : String) (machine : Machine) :
    Asks (crew.workbench.findTool name) machine (.ok (crew.findTool machine.events name))
      (Event.at (.lookup name) (Path.ofSpot machine.cwd.spot)) :=
  ⟨_, rfl, rfl, rfl⟩

theorem asks_fetch (url : String) (directory : Path) (machine : Machine) :
    Asks (crew.workbench.fetch url directory) machine (crew.fetch machine.events url directory)
      (Event.at (.fetch url directory) (Path.ofSpot machine.cwd.spot)) :=
  ⟨_, Action.perform_ofExcept _ _, rfl, rfl⟩

/-- A command between two traces asks for nothing else. -/
theorem asks_command {directory : Path} {machine : Machine} (words : List String) (started : Emission)
    (finished : Int → Emission) (stands : Path.ofSpot machine.cwd.spot = directory) :
    Asks
      (do
        Action.emit started
        let code ← crew.workbench.run words directory
        Action.emit (finished code)
        return code)
      machine (crew.run machine.events words directory) (Event.at (.command words directory) directory) := by
  refine Asks.after_emit _ fun running stays noted => ?_
  have asks := asks_run crew words directory running
  rw [stays, noted, stands] at asks
  cases reply : crew.run machine.events words directory with
  | error failure =>
    rw [reply] at asks
    exact asks.bind_error _
  | ok code =>
    rw [reply] at asks
    rw [← List.append_nil (Event.at _ _)]
    refine asks.bind fun after _ _ => ?_
    exact Asks.after_emit _ fun last _ _ => asks_pure code last

theorem asks_resolve_installed {release : Release} {directory : Path} {machine : Machine} {path : String}
    (stands : Path.ofSpot machine.cwd.spot = directory)
    (found : crew.findTool machine.events release.name = some path) :
    Asks (Tool.resolve crew.workbench release directory) machine
      (.ok (.installed release.name path)) (Event.at (.lookup release.name) directory) := by
  have asks := asks_findTool crew release.name machine
  rw [found, stands] at asks
  unfold Tool.resolve
  rw [← List.append_nil (Event.at _ _)]
  refine asks.bind fun after _ _ => ?_
  exact Asks.after_emit _ fun last _ _ => asks_pure _ last

theorem asks_resolve_missing {release : Release} {directory : Path} {machine : Machine}
    (stands : Path.ofSpot machine.cwd.spot = directory)
    (missing : crew.findTool machine.events release.name = none) :
    Asks (Tool.resolve crew.workbench release directory) machine
      ((bring crew release directory (machine.events ++ Event.at (.lookup release.name) directory)).map
        fun _ => .downloaded release)
      (Event.at (.lookup release.name) directory ++ fetchRequests directory none release.url) := by
  have asks := asks_findTool crew release.name machine
  rw [missing, stands] at asks
  unfold Tool.resolve
  refine asks.bind fun looked stays noted => ?_
  refine Asks.after_emit _ fun told stands' noted' => ?_
  unfold Tool.urlOf bring
  cases address : release.url with
  | error fault => exact ⟨told, rfl, rfl, (List.append_nil _).symm⟩
  | ok url =>
    have asks := asks_fetch crew url directory told
    rw [stands', stays, stands, noted', noted] at asks
    simp only [pure_bind]
    cases reply : crew.fetch (machine.events ++ Event.at (.lookup release.name) directory) url directory with
    | error failure =>
      rw [reply] at asks
      exact asks.bind_error _
    | ok done =>
      rw [reply] at asks
      rw [← List.append_nil (fetchRequests _ _ _)]
      refine asks.bind fun after _ _ => ?_
      exact Asks.after_emit _ fun last _ _ => asks_pure _ last

/-- How the end of a resolution is taken: a release that cannot be brought is no failure. -/
def taken : Except Failure Tool → Except Failure (Option Tool)
  | .ok tool => .ok (some tool)
  | .error (.delivery _) => .ok none
  | .error failure => .error failure

theorem asks_resolveTool {context : Context} {directory : Path} {machine : Machine}
    {result : Except Failure Tool} {requests : List Event}
    (asks : Asks (Tool.resolve context.workbench context.settings.release directory) machine result
      requests) :
    Asks (resolveTool context directory) machine (taken result) requests := by
  obtain ⟨after, ended, stays, noted⟩ := asks
  unfold resolveTool Asks
  simp only [Action.perform_bind, Action.perform_attempt, ended]
  cases result with
  | ok tool => exact ⟨after, rfl, stays, noted⟩
  | error failure =>
    cases failure with
    | delivery fault => exact ⟨_, rfl, stays, noted⟩
    | _ => exact ⟨after, rfl, stays, noted⟩

/-- A command as a stage: what comes after it is done only if it exits with zero. -/
theorem Asks.commandStage {first : Action Int} {next : Int → Action Outcome} {machine : Machine}
    {reply : Except Failure Int} {requests : List Event} {final : Except Failure Outcome}
    {rest : List Stage} (step : Step) (tool : Option Tool) (asks : Asks first machine reply requests)
    (fails : ∀ code, code ≠ 0 → next code = pure ⟨code, some step, tool⟩)
    (passes : ∀ after : Machine, after.cwd = machine.cwd → after.events = machine.events ++ requests →
      Asks (next 0) after (endingOf final rest) (requestsOf rest)) :
    Asks (first >>= next) machine (endingOf final (⟨requests, commandEnding step tool reply⟩ :: rest))
      (requestsOf (⟨requests, commandEnding step tool reply⟩ :: rest)) := by
  cases reply with
  | error failure =>
    rw [endingOf_cons_of_ending final rest rfl, requestsOf_cons_of_ending rest rfl]
    exact asks.bind_error next
  | ok code =>
    by_cases zero : code = 0
    · subst zero
      have zeroPasses : commandEnding step tool (.ok 0) = none := rfl
      rw [endingOf_cons_of_passes final rest zeroPasses, requestsOf_cons_of_passes rest zeroPasses]
      exact asks.bind passes
    · have ends : commandEnding step tool (.ok code) = some (.ok ⟨code, some step, tool⟩) := if_neg zero
      rw [endingOf_cons_of_ending final rest ends, requestsOf_cons_of_ending rest ends]
      simp only
      rw [← List.append_nil requests]
      refine asks.bind fun after _ _ => ?_
      rw [fails code zero]
      exact asks_pure _ after

variable {context : Context} {directory : Path} {machine : Machine}

theorem asks_runPrebuild (others : context.workbench = crew.workbench)
    (stands : Path.ofSpot machine.cwd.spot = directory) :
    Asks (runPrebuild context directory) machine
      (crew.run machine.events context.settings.prebuild directory)
      (Event.at (.command context.settings.prebuild directory) directory) := by
  unfold runPrebuild
  rw [others]
  exact asks_command crew context.settings.prebuild _ _ stands

theorem asks_runTool (tool : Tool) (others : context.workbench = crew.workbench)
    (stands : Path.ofSpot machine.cwd.spot = directory) :
    Asks (runTool context tool directory) machine
      (crew.run machine.events [tool.command, "build"] directory)
      (Event.at (.command [tool.command, "build"] directory) directory) := by
  unfold runTool
  rw [others]
  exact asks_command crew [tool.command, "build"] _ _ stands

/-- What is done with the tool once it is there. -/
def buildWith (context : Context) (directory : Path) (tool : Tool) : Action Outcome := do
  let built ← runTool context tool directory
  if built ≠ 0 then return ⟨built, some .build, some tool⟩
  return ⟨0, none, some tool⟩

theorem asks_buildWith (tool : Tool) (others : context.workbench = crew.workbench)
    (stands : Path.ofSpot machine.cwd.spot = directory) :
    Asks (buildWith context directory tool) machine
      (endingOf (.ok ⟨0, none, some tool⟩)
        [buildStage directory tool (crew.run machine.events [tool.command, "build"] directory)])
      (requestsOf
        [buildStage directory tool (crew.run machine.events [tool.command, "build"] directory)]) := by
  refine (asks_runTool crew tool others stands).commandStage .build (some tool)
    (fun code nonzero => if_pos nonzero) fun after _ _ => ?_
  exact asks_pure _ after

/-- The tool and what is done with it. -/
def resolveAndBuild (context : Context) (directory : Path) : Action Outcome := do
  match ← resolveTool context directory with
  | none => return ⟨resolveExitCode, some .resolveTool, none⟩
  | some tool => buildWith context directory tool

theorem asks_resolveAndBuild {replies : Replies} (others : context.workbench = crew.workbench)
    (stands : Path.ofSpot machine.cwd.spot = directory)
    (installed : crew.findTool machine.events context.settings.release.name = replies.installed)
    (fetched : bring crew context.settings.release directory
      (machine.events ++ Event.at (.lookup context.settings.release.name) directory) = replies.fetch)
    (built : replies.build = crew.run
      (machine.events ++ (Event.at (.lookup context.settings.release.name) directory ++
        fetchRequests directory replies.installed context.settings.release.url))
      [(toolOf context.settings.release replies.installed).command, "build"] directory) :
    Asks (resolveAndBuild context directory) machine
      (endingOf (.ok ⟨0, none, some (toolOf context.settings.release replies.installed)⟩)
        (replies.toolStages context.settings directory))
      (requestsOf (replies.toolStages context.settings directory)) := by
  unfold Replies.toolStages resolveAndBuild
  rw [endingOf_cons_of_passes _ _ rfl, requestsOf_cons_of_passes _ rfl]
  cases found : replies.installed with
  | some path =>
    rw [found] at installed built
    have asks := asks_resolve_installed crew stands installed
    rw [← others] at asks
    refine (asks_resolveTool asks).bind fun resolved stays noted => ?_
    have there : Path.ofSpot resolved.cwd.spot = directory := by rw [stays, stands]
    have asks := asks_buildWith crew (.installed context.settings.release.name path) others there
    rw [noted] at asks
    rw [built]
    simpa [Replies.fetchStages, found, fetchRequests, toolOf] using asks
  | none =>
    rw [found] at installed built
    have asks := asks_resolve_missing crew stands installed
    rw [← others, fetched] at asks
    have resolves := asks_resolveTool asks
    have stage : replies.fetchStages context.settings.release directory =
        [⟨fetchRequests directory none context.settings.release.url, fetchEnding replies.fetch⟩] := by
      simp only [Replies.fetchStages, found]
    rw [stage, List.singleton_append]
    cases reply : replies.fetch with
    | ok done =>
      rw [reply] at resolves
      rw [endingOf_cons_of_passes _ _ rfl, requestsOf_cons_of_passes _ rfl, ← List.append_assoc]
      refine resolves.bind fun resolved stays noted => ?_
      have there : Path.ofSpot resolved.cwd.spot = directory := by rw [stays, stands]
      have asks := asks_buildWith crew (.downloaded context.settings.release) others there
      rw [noted] at asks
      rw [built]
      exact asks
    | error failure =>
      rw [reply] at resolves
      cases failure with
      | delivery fault =>
        rw [endingOf_cons_of_ending _ _ rfl, requestsOf_cons_of_ending _ rfl]
        simp only
        rw [← List.append_nil (_ ++ fetchRequests _ _ _)]
        exact resolves.bind fun resolved _ _ => asks_pure _ resolved
      | _ =>
        rw [endingOf_cons_of_ending _ _ rfl, requestsOf_cons_of_ending _ rfl]
        exact resolves.bind_error _

/-- The steps of a build are its stages. -/
theorem asks_runSteps (others : context.workbench = crew.workbench)
    (stands : Path.ofSpot machine.cwd.spot = directory) :
    Asks (runSteps context directory) machine
      (endingOf
        (.ok ⟨0, none, some (toolOf context.settings.release
          (repliesOf crew context.settings directory machine.events).installed)⟩)
        ((repliesOf crew context.settings directory machine.events).stages context.settings directory))
      (requestsOf
        ((repliesOf crew context.settings directory machine.events).stages context.settings directory)) := by
  refine (asks_runPrebuild crew others stands).commandStage .prebuild none
    (fun code nonzero => if_pos nonzero) fun prebuilt stays noted => ?_
  have there : Path.ofSpot prebuilt.cwd.spot = directory := by rw [stays, stands]
  refine asks_resolveAndBuild crew others there ?_ ?_ ?_
  · rw [noted]
    rfl
  · rw [noted]
    rfl
  · rw [noted, ← List.append_assoc]
    rfl

/-- How a build ends, told by what a crew answers. -/
structure Replies.Determine (replies : Replies) (release : Release) (result : Except Failure Outcome) :
    Prop where
  success : ∀ code tool, result = .ok ⟨code, none, tool⟩ ↔
    code = 0 ∧ tool = some (toolOf release replies.installed) ∧ replies.prebuild = .ok 0 ∧
      (replies.installed = none → replies.fetch = .ok ()) ∧ replies.build = .ok 0
  prebuild : ∀ code tool, result = .ok ⟨code, some .prebuild, tool⟩ ↔
    tool = none ∧ code ≠ 0 ∧ replies.prebuild = .ok code
  resolveTool : ∀ code tool, result = .ok ⟨code, some .resolveTool, tool⟩ ↔
    code = 1 ∧ tool = none ∧ replies.prebuild = .ok 0 ∧ replies.installed = none ∧
      ∃ fault, replies.fetch = .error (.delivery fault)
  build : ∀ code tool, result = .ok ⟨code, some .build, tool⟩ ↔
    tool = some (toolOf release replies.installed) ∧ code ≠ 0 ∧ replies.prebuild = .ok 0 ∧
      (replies.installed = none → replies.fetch = .ok ()) ∧ replies.build = .ok code
  failure : ∀ failure, result = .error failure ↔
    replies.prebuild = .error failure ∨
      (replies.prebuild = .ok 0 ∧ replies.installed = none ∧ replies.fetch = .error failure ∧
        ∀ fault, failure ≠ .delivery fault) ∨
      (replies.prebuild = .ok 0 ∧ (replies.installed = none → replies.fetch = .ok ()) ∧
        replies.build = .error failure)

theorem commandEnding_cases (step : Step) (tool : Option Tool) (reply : Except Failure Int) :
    (reply = .ok 0 ∧ commandEnding step tool reply = none) ∨
    (∃ code, code ≠ 0 ∧ reply = .ok code ∧
      commandEnding step tool reply = some (.ok ⟨code, some step, tool⟩)) ∨
    ∃ failure, reply = .error failure ∧ commandEnding step tool reply = some (.error failure) := by
  cases reply with
  | error failure => exact .inr (.inr ⟨failure, rfl, rfl⟩)
  | ok code =>
    by_cases zero : code = 0
    · subst zero
      exact .inl ⟨rfl, rfl⟩
    · exact .inr (.inl ⟨code, zero, rfl, if_neg zero⟩)

theorem fetchEnding_cases (reply : Except Failure Unit) :
    (reply = .ok () ∧ fetchEnding reply = none) ∨
    (∃ fault, reply = .error (.delivery fault) ∧
      fetchEnding reply = some (.ok ⟨1, some .resolveTool, none⟩)) ∨
    ∃ failure, (∀ fault, failure ≠ .delivery fault) ∧ reply = .error failure ∧
      fetchEnding reply = some (.error failure) := by
  cases reply with
  | ok done => exact .inl ⟨rfl, rfl⟩
  | error failure =>
    cases failure with
    | delivery fault => exact .inr (.inl ⟨fault, rfl, rfl⟩)
    | _ => exact .inr (.inr ⟨_, by simp, rfl, rfl⟩)

theorem determine_endingOf (replies : Replies) (settings : Settings) (directory : Path) :
    replies.Determine settings.release
      (endingOf (.ok ⟨0, none, some (toolOf settings.release replies.installed)⟩)
        (replies.stages settings directory)) := by
  obtain ⟨prebuild, installed, fetch, build⟩ := replies
  simp only [Replies.stages, Replies.toolStages, endingOf, Option.getD_none]
  rcases commandEnding_cases .prebuild none prebuild with ⟨rfl, passes⟩ | ⟨code, nonzero, rfl, ends⟩ |
    ⟨failure, rfl, ends⟩
  · rw [passes]
    rcases commandEnding_cases .build (some (toolOf settings.release installed)) build with
      ⟨rfl, buildPasses⟩ | ⟨code, nonzero, rfl, buildEnds⟩ | ⟨failure, rfl, buildEnds⟩
    all_goals
      cases installed with
      | some path =>
        simp only [Replies.fetchStages, List.nil_append, endingOf, buildStage, *]
        constructor <;> grind
      | none =>
        simp only [Replies.fetchStages, List.singleton_append, endingOf, buildStage, *]
        rcases fetchEnding_cases fetch with ⟨rfl, fetched⟩ | ⟨fault, rfl, fetched⟩ | ⟨failure, other, rfl, fetched⟩
        all_goals
          rw [fetched]
          constructor <;> grind
  · rw [ends]
    constructor <;> grind
  · rw [ends]
    constructor <;> grind

/-- Whatever others do, a build that can enter the book directory asks them for a row of first requests
of its stages, each with the process in that directory and only after all before it went well; and if the
process can go back to where it started, the replies determine how the build ends. -/
theorem run_fails_fast (crew : Crew) (settings : Settings) (cwd : Path) (dryRun : Bool)
    (machine entered last : Machine) (visit : Action.Visit) (result : Except Failure Outcome)
    (arrived : (Action.arrive (settings.bookDirFrom cwd)).perform machine = (.ok visit, entered))
    (ended : Action.perform (Build.run ⟨crew.workbench, settings, cwd, dryRun⟩) machine = (result, last)) :
    (∃ asked, last.events = machine.events ++ asked ∧
      AskedInTurn ((repliesOf crew settings visit.place machine.events).stages settings visit.place)
        asked) ∧
    (last.HasDirectory visit.origin →
      (repliesOf crew settings visit.place machine.events).Determine settings.release result) := by
  have known : visit.origin = Path.ofSpot machine.cwd.spot ∧
      visit.place = Path.ofSpot entered.cwd.spot ∧ entered.events = machine.events := by
    rcases Action.arrive_cases (settings.bookDirFrom cwd) machine with
      ⟨failure, refused⟩ | ⟨visit', entered', same, origin, place, _, _, noted⟩
    · rw [refused] at arrived
      cases arrived
    · rw [same] at arrived
      cases arrived
      exact ⟨origin, place, noted⟩
  obtain ⟨origin, place, noted⟩ := known
  have steps : Asks (runSteps ⟨crew.workbench, settings, cwd, dryRun⟩ visit.place) entered _ _ :=
    asks_runSteps crew rfl place.symm
  rw [noted] at steps
  obtain ⟨inside, stepped, _, asked⟩ := steps
  obtain ⟨emissions, finished⟩ := Build.perform_run ⟨crew.workbench, settings, cwd, dryRun⟩ machine
  rw [finished] at ended
  cases ended
  constructor
  · have events := (Action.inDirectory_keeps arrived
      (runSteps ⟨crew.workbench, settings, cwd, dryRun⟩)).2
    rw [stepped, asked, noted] at events
    exact ⟨_, events, askedInTurn_requestsOf _⟩
  · intro there
    have absolute : visit.origin.isAbsolute = true := by
      rw [origin]
      exact Path.ofSpot_isAbsolute _
    have result := Action.inDirectory_result arrived absolute
      (runSteps ⟨crew.workbench, settings, cwd, dryRun⟩) ⟨there.clean, there.leads⟩
    rw [stepped] at result
    exact result ▸ determine_endingOf _ settings visit.place

/-- A crew that finds no tool and cannot bring one. -/
def offlineCrew : Crew where
  findTool _ _ := none
  run _ _ _ := .ok 0
  fetch _ _ _ := .error (.delivery (.told "offline"))
  files machine _ := machine.files
  emissions _ _ := []

/-- Settings for a book beside the project. -/
def besideSettings : Settings where
  bookDir := Path.parse "/tmp"
  prebuild := ["prepare"]
  release := ⟨"tool", "1", "here", "address"⟩
  source := none

theorem run_fails_fast_offline :
    ∃ result last,
      Action.perform (Build.run ⟨offlineCrew.workbench, besideSettings, Path.empty, false⟩)
        Machine.atProject = (result, last) ∧
      result = .ok ⟨1, some .resolveTool, none⟩ ∧
      ∃ asked, last.events = asked ∧ AskedInTurn
        ((repliesOf offlineCrew besideSettings (Path.parse "/tmp") []).stages besideSettings
          (Path.parse "/tmp")) asked := by
  obtain ⟨⟨asked, events, inTurn⟩, determine⟩ := run_fails_fast offlineCrew besideSettings Path.empty
    false Machine.atProject _ _ _ _ rfl rfl
  refine ⟨_, _, rfl, ?_, asked, events, inTurn⟩
  refine ((determine ⟨by decide, by decide +kernel⟩).resolveTool 1 none).2 ⟨rfl, rfl, rfl, rfl, _, rfl⟩

end Build

end Bookbinder
