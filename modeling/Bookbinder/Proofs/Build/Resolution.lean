import Bookbinder.Proofs.Build.Pipeline

/-!
A build from where it looks for its tool. Main statement: the tool that is found is used, and without one
the address of the release is asked for, after which the build goes on, ends with the step that failed, or
passes a failure on.
-/

set_option autoImplicit false

namespace Bookbinder

open Action (perform)

namespace Tool

variable {workbench : Workbench} {release : Release} (directory : Path) {machine looked : Machine}

/-- The machine when the user has been told that a release is brought. -/
def announced (release : Release) (machine : Machine) : Machine :=
  (perform (Action.tellLine ("Installing " ++ release.name ++ "..")) machine).2

theorem perform_resolve_of_found {path : String}
    (found : perform (workbench.findTool release.name) machine = (.ok (some path), looked)) :
    ∃ emissions, perform (resolve workbench release directory) machine =
      (.ok (.installed release.name path), { looked with emissions := emissions }) := by
  rw [resolve, Action.perform_bind, found]
  exact ⟨_, rfl⟩

theorem perform_resolve_of_missing {url : String}
    (missing : perform (workbench.findTool release.name) machine = (.ok none, looked))
    (address : release.url = .ok url) :
    ∃ emissions, perform (resolve workbench release directory) machine =
      match perform (workbench.fetch url directory) (announced release looked) with
      | (.ok _, after) => (.ok (.downloaded release), { after with emissions := emissions })
      | (.error failure, after) => (.error failure, after) := by
  have told : perform (Action.tellLine ("Installing " ++ release.name ++ "..")) looked =
      (.ok (), announced release looked) := rfl
  simp only [resolve, Action.perform_bind, missing, told, urlOf, address, Action.perform_pure]
  rcases perform (workbench.fetch url directory) (announced release looked) with ⟨result, after⟩
  cases result with
  | error failure => exact ⟨[], rfl⟩
  | ok done => exact ⟨_, rfl⟩

end Tool

namespace Build

variable {context : Context} {machine ready looked : Machine} {visit : Action.Visit} (directory : Path)

/-- A build comes to where it looks for its tool: the process is in the book directory, and the pre-build
command went well. -/
structure Prepares (context : Context) (machine : Machine) (visit : Action.Visit) (ready : Machine) :
    Prop where
  prebuilt : ∃ entered, perform (Action.arrive context.bookDir) machine = (.ok visit, entered) ∧
    perform (runPrebuild context visit.place) entered = (.ok 0, ready)

theorem perform_runSteps_of_prebuilt {directory : Path}
    (prebuilt : perform (runPrebuild context directory) machine = (.ok 0, ready)) :
    perform (runSteps context directory) machine = perform (resolveAndBuild context directory) ready := by
  rw [runSteps, Action.perform_bind, prebuilt]
  rfl

/-- A build comes there if the book directory can be entered and the pre-build command only tells. -/
theorem Prepares.of_run (alive : machine.files.isAlive machine.cwd = true)
    (clean : holdsNul context.bookDir.text = false) {place : WorkingDirectory}
    (enters : machine.files.enter machine.cwd context.bookDir.text = .ok place)
    (runs : ∀ emissions, ∃ others,
      perform (context.workbench.run context.settings.prebuild (Path.ofSpot place.spot))
          { machine with cwd := place, emissions := emissions } =
        (.ok 0, { machine with cwd := place, emissions := others })) :
    ∃ emissions, Prepares context machine ⟨Path.ofSpot machine.cwd.spot, Path.ofSpot place.spot⟩
      { machine with cwd := place, emissions := emissions } := by
  have there : perform Action.currentDirectory { machine with cwd := place } =
      (.ok (Path.ofSpot place.spot), { machine with cwd := place }) :=
    Action.perform_currentDirectory (FileSystem.isAlive_of_enter alive enters)
  obtain ⟨before, arrived⟩ : ∃ emissions, perform (Action.arrive context.bookDir) machine =
      (.ok ⟨Path.ofSpot machine.cwd.spot, Path.ofSpot place.spot⟩,
        { machine with cwd := place, emissions := emissions }) := by
    simp only [Action.arrive, Action.perform_bind, Action.perform_currentDirectory alive,
      Action.perform_enterDirectory clean enters, there, Action.trace, Action.perform_emit,
      Action.perform_pure]
    exact ⟨_, rfl⟩
  obtain ⟨others, ran⟩ := runs (before ++
    [.trace origin ("Pre-build starting: " ++ Text.quotedList context.settings.prebuild)])
  have prebuilt : perform (runPrebuild context (Path.ofSpot place.spot))
      { machine with cwd := place, emissions := before } =
      (.ok 0, { machine with
        cwd := place
        emissions := others ++ [.trace origin ("Pre-build finished: exit_code=" ++ Text.ofInt 0)] }) := by
    simp only [runPrebuild, Action.perform_bind, Action.trace, Action.perform_emit, ran,
      Action.perform_pure]
  exact ⟨_, ⟨_, arrived, prebuilt⟩⟩

/-- What is asked of others in a build and what becomes of files is what comes of the tool; and so is the
result, if there is a directory to go back to. -/
structure Continues (context : Context) (machine : Machine) (visit : Action.Visit) (ready : Machine) :
    Prop where
  files : (perform (Build.run context) machine).2.files =
    (perform (resolveAndBuild context visit.place) ready).2.files
  events : (perform (Build.run context) machine).2.events =
    (perform (resolveAndBuild context visit.place) ready).2.events
  result : (perform (Build.run context) machine).2.HasDirectory visit.origin →
    (perform (Build.run context) machine).1 = (perform (resolveAndBuild context visit.place) ready).1

theorem Prepares.continues (prepares : Prepares context machine visit ready) :
    Continues context machine visit ready := by
  obtain ⟨entered, arrived, prebuilt⟩ := prepares.prebuilt
  obtain ⟨emissions, finished⟩ := perform_run context machine
  have steps := perform_runSteps_of_prebuilt prebuilt
  have kept := Action.inDirectory_keeps arrived (runSteps context)
  have absolute : visit.origin.isAbsolute = true := by
    rcases Action.arrive_cases context.bookDir machine with
      ⟨failure, refused⟩ | ⟨other, _, same, origin, _⟩
    · rw [refused] at arrived
      cases arrived
    · rw [same] at arrived
      cases arrived
      rw [origin]
      exact Path.ofSpot_isAbsolute _
  rw [steps] at kept
  constructor
  · rw [finished]
    exact kept.1
  · rw [finished]
    exact kept.2
  · intro there
    rw [finished] at there ⊢
    rw [← steps]
    exact Action.inDirectory_result arrived absolute (runSteps context) ⟨there.clean, there.leads⟩

/-- A tool that is found is the one that the book is built with. -/
theorem perform_resolveAndBuild_of_found {path : String}
    (found : perform (context.workbench.findTool context.settings.release.name) ready =
      (.ok (some path), looked)) :
    ∃ emissions, perform (resolveAndBuild context directory) ready =
      perform (buildWith context directory (.installed context.settings.release.name path))
        { looked with emissions := emissions } := by
  obtain ⟨emissions, resolved⟩ := Tool.perform_resolve_of_found directory found
  refine ⟨emissions, ?_⟩
  rw [resolveAndBuild, resolveTool]
  simp only [Action.perform_bind, Action.perform_attempt, resolved, Action.perform_pure]

/-- Without one the release is brought: the build goes on with it, or ends here. -/
theorem perform_resolveAndBuild_of_missing {url : String}
    (missing : perform (context.workbench.findTool context.settings.release.name) ready =
      (.ok none, looked))
    (address : context.settings.release.url = .ok url) :
    ∃ emissions, perform (resolveAndBuild context directory) ready =
      match perform (context.workbench.fetch url directory)
          (Tool.announced context.settings.release looked) with
      | (.ok _, after) => perform (buildWith context directory (.downloaded context.settings.release))
          { after with emissions := emissions }
      | (.error (.delivery _), after) => (.ok ⟨1, some .resolveTool, none⟩,
          { after with emissions := emissions })
      | (.error failure, after) => (.error failure, after) := by
  obtain ⟨emissions, resolved⟩ := Tool.perform_resolve_of_missing directory missing address
  rw [resolveAndBuild, resolveTool]
  simp only [Action.perform_bind, Action.perform_attempt, resolved]
  rcases perform (context.workbench.fetch url directory)
    (Tool.announced context.settings.release looked) with ⟨result, after⟩
  cases result with
  | ok done => exact ⟨emissions, rfl⟩
  | error failure =>
    cases failure with
    | delivery fault => exact ⟨_, rfl⟩
    | _ => exact ⟨[], rfl⟩

end Build

end Bookbinder
