import Bookbinder.Proofs.Build.Resolution
import Bookbinder.Proofs.CommandLine.Words
import Bookbinder.Proofs.Settings.Reload
import Bookbinder.Proofs.Shell.Idle
import Bookbinder.Workbench.System

/-!
What is told of the tool, and what a build does with it. Main statement: both look along the same search
path, one from where the user stands and the other from the book directory; they agree if no candidate
leads elsewhere from there.
-/

set_option autoImplicit false

namespace Bookbinder

open Action (perform)

/-! ### Looking from two places -/

/-- The places that a program's name may stand for lead to the same from two directories. -/
def FileSystem.LeadsAlike (files : FileSystem) (here there : WorkingDirectory) (searchPath program : String) :
    Prop :=
  ∀ path ∈ Process.candidates searchPath program, files.locate here true path = files.locate there true path

/-- A program has an absolute name, or is looked for along absolute directories. -/
def Process.IsAnchored (searchPath program : String) : Prop :=
  ∀ path ∈ candidates searchPath program, path.toList.head? = some '/'

instance (searchPath program : String) : Decidable (Process.IsAnchored searchPath program) :=
  inferInstanceAs (Decidable (∀ path ∈ Process.candidates searchPath program, path.toList.head? = some '/'))

theorem FileSystem.leadsAlike_of_isAnchored {searchPath program : String}
    (anchored : Process.IsAnchored searchPath program) (files : FileSystem) (here there : WorkingDirectory) :
    files.LeadsAlike here there searchPath program := fun path candidate =>
  FileSystem.locate_anchored (anchored path candidate) files true here there

theorem Process.isProgram_congr {files : FileSystem} {here there : WorkingDirectory} {path : String}
    (alike : files.locate here true path = files.locate there true path) :
    isProgram files here path = isProgram files there path := by
  simp only [isProgram, FileSystem.status, alike]

theorem Process.which_congr {files : FileSystem} {here there : WorkingDirectory} {searchPath program : String}
    (alike : files.LeadsAlike here there searchPath program) :
    which files here searchPath program = which files there searchPath program := by
  have first (paths : List String)
      (each : ∀ path ∈ paths, files.locate here true path = files.locate there true path) :
      paths.find? (fun path => isProgram files here path) =
        paths.find? (fun path => isProgram files there path) := by
    induction paths with
    | nil => rfl
    | cons path paths ih =>
      rw [List.find?_cons, List.find?_cons, isProgram_congr (each path List.mem_cons_self),
        ih fun other member => each other (List.mem_cons_of_mem _ member)]
  unfold which
  rw [first _ alike]

theorem Process.mem_candidates_of_which {files : FileSystem} {cwd : WorkingDirectory}
    {searchPath program path : String} (found : which files cwd searchPath program = some path) :
    path ∈ candidates searchPath program := by
  unfold which at found
  split at found
  · cases found
  · exact List.mem_of_find?_eq_some found

/-- A program that is found is a file, or the command interpreter. -/
theorem Process.locate_of_which {files : FileSystem} {cwd : WorkingDirectory}
    {searchPath program path : String} (found : which files cwd searchPath program = some path) :
    ∃ spot, files.locate cwd true path = .ok (.occupied spot) := by
  unfold which at found
  split at found
  · cases found
  · have program := List.find?_some found
    simp only [isProgram, Bool.and_eq_true, FileSystem.status] at program
    have leads := program.2
    cases located : files.locate cwd true path with
    | error errno =>
      rw [located] at leads
      cases leads
    | ok location =>
      rw [located] at leads
      cases location with
      | occupied spot => exact ⟨spot, rfl⟩
      | vacant directory name => cases leads
      | gone => cases leads

namespace Workbench

/-- What a look along the search path leaves behind. -/
def traceOf (tool : String) (found : Option String) : Emission :=
  .trace commandOrigin ("Tool lookup: name=" ++ tool ++ ", path=" ++ found.getD "None")

theorem perform_lookUp (searchPath tool : String) (machine : Machine) :
    perform (lookUp searchPath tool) machine =
      (.ok (Process.which machine.files machine.cwd searchPath tool),
        { machine with emissions := machine.emissions ++
          [traceOf tool (Process.which machine.files machine.cwd searchPath tool)] }) := rfl

end Workbench

namespace CommandLine

/-- What is written of an installed tool. -/
def installedLines (release : Release) (path : String) : List Emission :=
  [Workbench.traceOf release.name (some path),
    .notice (Action.shown (release.name ++ ": installed") true), .result (Action.shown path true)]

/-- What is written of a release that is to be brought. -/
def missingLines (release : Release) (url : String) (binary : Path) : List Emission :=
  [Workbench.traceOf release.name none,
    .notice (Action.shown (release.name ++ ": not on PATH, a build would download " ++ release.version) true),
    .result (Action.shown url true), .notice (Action.shown ("  into " ++ binary.text) true)]

variable {machine after ready : Machine} {context : Context} {exported : List (String × String)}
  {supply : Delivery.Supply} {surroundings : Surroundings} {words rest : List String}
  {given : List Given} {bookDir : Option Path} {visit : Action.Visit}

/-- What is written of the tool of a context. -/
def toolLines (context : Context) (url : String) : Option String → List Emission
  | some path => installedLines context.settings.release path
  | none => missingLines context.settings.release url (context.settings.binaryFrom context.cwd)

theorem perform_runWhich (system : context.workbench = Workbench.system exported supply) {url : String}
    (address : context.settings.release.url = .ok url) :
    Action.perform (runWhich context) machine =
      (.ok (), { machine with
        emissions := machine.emissions ++
          toolLines context url (Process.which machine.files machine.cwd (Workbench.searchPath exported)
            context.settings.release.name) }) := by
  have looked := Workbench.perform_lookUp (Workbench.searchPath exported) context.settings.release.name
    machine
  have find : context.workbench.findTool = Workbench.lookUp (Workbench.searchPath exported) := by
    rw [system]
    rfl
  rw [runWhich, Action.perform_bind, find, looked]
  cases Process.which machine.files machine.cwd (Workbench.searchPath exported)
    context.settings.release.name with
  | some path =>
    simp only [Action.tellLine, Action.tell, Action.answer, Action.perform_bind, Action.perform_emit,
      List.append_assoc]
    rfl
  | none =>
    simp only [Tool.urlOf, address, Action.tellLine, Action.tell, Action.answer, Action.perform_bind,
      Action.perform_emit, Action.perform_pure, List.append_assoc]
    rfl

theorem findTool_system (system : context.workbench = Workbench.system exported supply) (name : String) :
    context.workbench.findTool name = Workbench.lookUp (Workbench.searchPath exported) name := by
  rw [system]
  rfl

/-- The command writes some lines after what was written before, and does nothing else. -/
def Tells (surroundings : Surroundings) (workbench : Workbench) (words : List String) (machine : Machine)
    (lines : List Emission) : Prop :=
  Action.perform (status surroundings (openContext workbench) words) machine =
    (.ok 0, { machine with emissions := machine.emissions ++ lines })

theorem tells_which (surroundings : Surroundings) (asks : AskFor words .which rest)
    (read : readWords Command.which.vocabulary true rest = .ok (given, []))
    (none : given.find? isRequest = none)
    (opened : Action.perform (openContext (Workbench.system exported supply)) machine =
      (.ok context, after))
    (chosen : Action.perform (bookDir? .which given) machine = (.ok bookDir, machine)) {url : String}
    (address : context.settings.release.url = .ok url) :
    Tells surroundings (Workbench.system exported supply) words machine
      (toolLines (contextFor context bookDir) url
        (Process.which machine.files machine.cwd (Workbench.searchPath exported)
          context.settings.release.name)) := by
  obtain ⟨rfl, _, system, _⟩ := openContext_cases opened
  have told : Action.perform (runWhich (contextFor context bookDir)) after = _ :=
    perform_runWhich ((contextFor_workbench context bookDir).trans system)
      ((congrArg Release.url (contextFor_release context bookDir)).trans address)
  rw [contextFor_release] at told
  rw [Tells, perform_status asks, Action.perform_bind, opened]
  simp only [run_which_of_read surroundings context read none chosen, told]

theorem installedLines_injective (release : Release) {first second : String}
    (same : installedLines release first = installedLines release second) : first = second := by
  have trace := (List.cons.inj same).1
  simp only [Workbench.traceOf, Option.getD_some, Emission.trace.injEq, true_and] at trace
  have texts := congrArg String.toList trace
  simp only [String.toList_append] at texts
  exact String.toList_injective (List.append_cancel_left texts)

theorem installedLines_ne_missingLines (release : Release) (path url : String) (binary : Path) :
    installedLines release path ≠ missingLines release url binary := by
  intro same
  have lengths := congrArg List.length same
  cases lengths

/-- Without an installed tool, the release at an address is brought into a directory. -/
def Brings (context : Context) (directory : Path) (url : String) (machine : Machine) : Prop :=
  ∃ looked emissions,
    Action.perform (context.workbench.findTool context.settings.release.name) machine = (.ok none, looked) ∧
    Action.perform (Tool.resolve context.workbench context.settings.release directory) machine =
      match Action.perform (context.workbench.fetch url directory)
          (Tool.announced context.settings.release looked) with
      | (.ok _, after) => (.ok (.downloaded context.settings.release), { after with emissions := emissions })
      | (.error failure, after) => (.error failure, after)

theorem lines_eq_of_tells {workbench : Workbench} {first second : List Emission}
    (one : Tells surroundings workbench words machine first)
    (other : Tells surroundings workbench words machine second) : first = second := by
  rw [Tells, one] at other
  have machines := congrArg (fun outcome => outcome.2.emissions) other
  exact List.append_cancel_left machines

/-- What is told of the tool is what a build does that comes to where it looks for it, if no candidate on
the search path leads elsewhere from the book directory than from where the user stands: a path is told just
if the build takes the tool there, which is the same file, and the address of the release is told just if
the build finds no tool and brings the release from there. -/
theorem which_tells_tool (surroundings : Surroundings) (asks : AskFor words .which rest)
    (read : readWords Command.which.vocabulary true rest = .ok (given, []))
    (none : given.find? isRequest = none)
    (opened : Action.perform (openContext (Workbench.system exported supply)) machine =
      (.ok context, after))
    (chosen : Action.perform (bookDir? .which given) machine = (.ok bookDir, machine))
    (prepares : Build.Prepares (contextFor context bookDir) machine visit ready)
    (unchanged : ready.files = machine.files)
    (alike : machine.files.LeadsAlike machine.cwd ready.cwd (Workbench.searchPath exported)
      context.settings.release.name) :
    Build.Continues (contextFor context bookDir) machine visit ready ∧
    (∀ path,
      (Tells surroundings (Workbench.system exported supply) words machine
          (installedLines context.settings.release path) ↔
        ∃ looked, Action.perform (Tool.resolve (contextFor context bookDir).workbench
            context.settings.release visit.place) ready =
          (.ok (.installed context.settings.release.name path), looked)) ∧
      (Tells surroundings (Workbench.system exported supply) words machine
          (installedLines context.settings.release path) →
        ∃ spot, machine.files.locate machine.cwd true path = .ok (.occupied spot) ∧
          ready.files.locate ready.cwd true path = .ok (.occupied spot))) ∧
    ∃ url, context.settings.release.url = .ok url ∧
      (Tells surroundings (Workbench.system exported supply) words machine
          (missingLines context.settings.release url
            ((contextFor context bookDir).settings.binaryFrom context.cwd)) ↔
        Brings (contextFor context bookDir) visit.place url ready) := by
  obtain ⟨_, _, system, _, _, loaded⟩ := openContext_cases opened
  obtain ⟨url, address⟩ := (Action.complete_of_loadSettings loaded).1.url
  have tells := tells_which surroundings asks read none opened chosen address
  -- the build looks later and from elsewhere, but no file has changed and each candidate leads to the same
  have looked := Workbench.perform_lookUp (Workbench.searchPath exported) context.settings.release.name ready
  rw [← findTool_system ((contextFor_workbench context bookDir).trans system), unchanged,
    ← Process.which_congr alike] at looked
  cases found : Process.which machine.files machine.cwd (Workbench.searchPath exported)
    context.settings.release.name with
  | some path =>
    rw [found] at tells looked
    obtain ⟨emissions, resolved⟩ := Tool.perform_resolve_of_found visit.place looked
    obtain ⟨spot, here⟩ := Process.locate_of_which found
    have there := here
    rw [alike path (Process.mem_candidates_of_which found), ← unchanged] at there
    rw [toolLines, contextFor_release] at tells
    refine ⟨prepares.continues, fun other => ⟨⟨fun told => ?_, fun takes => ?_⟩, fun told => ?_⟩, url,
      address, ?_, ?_⟩
    · cases installedLines_injective _ (lines_eq_of_tells told tells)
      exact ⟨_, resolved⟩
    · obtain ⟨last, taken⟩ := takes
      rw [resolved] at taken
      cases taken
      exact tells
    · cases installedLines_injective _ (lines_eq_of_tells told tells)
      exact ⟨spot, here, there⟩
    · exact fun told => absurd (lines_eq_of_tells tells told) (installedLines_ne_missingLines _ _ _ _)
    · rintro ⟨last, emissions, missing, _⟩
      rw [contextFor_release, looked] at missing
      cases missing
  | none =>
    rw [found] at tells looked
    have brings : Brings (contextFor context bookDir) visit.place url ready := by
      rw [← contextFor_release context bookDir] at looked address
      obtain ⟨emissions, resolved⟩ := Tool.perform_resolve_of_missing visit.place looked address
      exact ⟨_, emissions, looked, resolved⟩
    have writes : Tells surroundings (Workbench.system exported supply) words machine
        (missingLines context.settings.release url
          ((contextFor context bookDir).settings.binaryFrom context.cwd)) := by
      rw [toolLines, contextFor_release, contextFor_cwd] at tells
      exact tells
    refine ⟨prepares.continues, fun other => ⟨⟨fun told => ?_, fun takes => ?_⟩, fun told => ?_⟩, url,
      address, ?_, ?_⟩
    · exact absurd (lines_eq_of_tells told writes) (installedLines_ne_missingLines _ _ _ _)
    · obtain ⟨last, taken⟩ := takes
      obtain ⟨other, emissions, _, resolved⟩ := brings
      rw [contextFor_release, taken] at resolved
      split at resolved <;> cases resolved
    · exact absurd (lines_eq_of_tells told writes) (installedLines_ne_missingLines _ _ _ _)
    · exact fun _ => brings
    · exact fun _ => writes

/-- A script that may be executed, with nothing to run. -/
def idleScript : Content := ⟨Text.encodeUtf8 "#!/bin/sh".toList, 0o755⟩

theorem holdsNothing_idleScript : Shell.HoldsNothing (Shell.Chars.ofBytes idleScript.bytes) :=
  ⟨_, by with_unfolding_all rfl⟩

/-- A machine whose process stands in a project that has a book and a program for it. -/
def besideBook : Machine where
  files := (((((FileSystem.bare ["project"]).addDirectory ["project", "book"]
    FileSystem.directoryMode).addDirectory ["project", "book", "ci"]
    FileSystem.directoryMode).addFile ["project", "book", "ci", "build-highlight-js"]
    idleScript).addDirectory ["project", "bin"]
    FileSystem.directoryMode).addFile ["project", "bin", "mdbook"] idleScript
  cwd := ⟨["project"], 5⟩
  emissions := []
  events := []

/-- The book directory there. -/
def book : WorkingDirectory := ⟨["project", "book"], 6⟩

/-- Nothing comes over the network there. -/
def nothingServed : Delivery.Supply := ⟨fun _ => .response ⟨404, [], []⟩, false⟩

/-- The context of that machine, with its built-in settings. -/
def besideBookContext (searchPath : String) : Context where
  workbench := Workbench.system [("PATH", searchPath)] nothingServed
  settings := Settings.default
  cwd := Path.parse "/project"
  dryRun := false

theorem perform_openContext_besideBook (searchPath : String) :
    Action.perform (openContext (besideBookContext searchPath).workbench) besideBook =
      (.ok (besideBookContext searchPath), besideBook) := by
  with_unfolding_all rfl

theorem launch_besideBook (searchPath : String) :
    Process.launch besideBook.files book searchPath "./ci/build-highlight-js" ["./ci/build-highlight-js"] =
      .ok ["/bin/sh", "./ci/build-highlight-js"] := by
  have named : Process.namesDirectory "./ci/build-highlight-js" = true := by decide
  have script : besideBook.files.status book "./ci/build-highlight-js" = .ok (.file idleScript) := by
    with_unfolding_all rfl
  have line : Process.interpreterLine? idleScript.bytes = some ("/bin/sh", none) := by
    with_unfolding_all rfl
  have shell : besideBook.files.status book "/bin/sh" = .ok .shell := by with_unfolding_all rfl
  have started : Process.start besideBook.files book Process.interpreterDepth "./ci/build-highlight-js"
      ["./ci/build-highlight-js"] = _ :=
    Process.start_of_interpreterLine script (by decide) line shell 4
  rw [Process.launch, Process.candidates, if_pos named, Process.startFirst, started]

theorem perform_prebuild_besideBook (searchPath : String) (emissions : List Emission) :
    ∃ others, Action.perform (Workbench.runCommand [("PATH", searchPath)] Settings.defaultPrebuild
        (Path.ofSpot book.spot)) { besideBook with cwd := book, emissions := emissions } =
      (.ok 0, { besideBook with cwd := book, emissions := others }) := by
  have enters : besideBook.files.enter book (Path.ofSpot book.spot).text = .ok book := by
    with_unfolding_all rfl
  have name : Shell.Chars.ofText "./ci/build-highlight-js" = '.' :: "/ci/build-highlight-js".toList := by
    with_unfolding_all rfl
  have read : besideBook.files.readFile book (Shell.Chars.ofText "./ci/build-highlight-js").shown =
      .ok idleScript.bytes := by
    with_unfolding_all rfl
  exact Workbench.perform_runCommand_of_holdsNothing (by decide) enters
    (launch_besideBook _) name (by decide) read holdsNothing_idleScript

theorem prepares_besideBook (searchPath : String) :
    ∃ emissions, Build.Prepares (besideBookContext searchPath) besideBook
      ⟨Path.ofSpot ["project"], Path.ofSpot ["project", "book"]⟩
      { besideBook with cwd := book, emissions := emissions } := by
  have alive : besideBook.files.isAlive besideBook.cwd = true := by decide
  have bookDir : (besideBookContext searchPath).bookDir.text = "/project/book" := by
    change (Settings.default.bookDirFrom (Path.parse "/project")).text = _
    decide
  have clean : holdsNul (besideBookContext searchPath).bookDir.text = false := by
    rw [bookDir]
    decide
  have enters : besideBook.files.enter besideBook.cwd (besideBookContext searchPath).bookDir.text =
      .ok book := by
    rw [bookDir]
    with_unfolding_all rfl
  exact Build.Prepares.of_run alive clean enters (perform_prebuild_besideBook searchPath)

theorem tells_which_besideBook (searchPath : String) :
    ∃ url, Tells ⟨80, 0, 0⟩ (besideBookContext searchPath).workbench ["which"] besideBook
      (toolLines (besideBookContext searchPath) url
        (Process.which besideBook.files besideBook.cwd searchPath "mdbook")) := by
  have opened := perform_openContext_besideBook searchPath
  obtain ⟨_, _, _, _, _, loaded⟩ := openContext_cases opened
  obtain ⟨url, address⟩ := (Action.complete_of_loadSettings loaded).1.url
  exact ⟨url, tells_which ⟨80, 0, 0⟩ (askFor_name .which []) rfl rfl opened rfl address⟩

/-- On an absolute search path, what is told is used. -/
theorem which_tells_tool_anchored :
    Process.IsAnchored "/project/bin" "mdbook" ∧
      Tells ⟨80, 0, 0⟩ (besideBookContext "/project/bin").workbench ["which"] besideBook
        (installedLines Settings.defaultRelease "/project/bin/mdbook") ∧
      ∃ emissions looked, Action.perform (Tool.resolve (besideBookContext "/project/bin").workbench
          Settings.defaultRelease (Path.ofSpot book.spot))
          { besideBook with cwd := book, emissions := emissions } =
        (.ok (.installed "mdbook" "/project/bin/mdbook"), looked) := by
  have anchored : Process.IsAnchored "/project/bin" "mdbook" := by decide +kernel
  have found : Process.which besideBook.files besideBook.cwd "/project/bin" "mdbook" =
      some "/project/bin/mdbook" := by
    decide +kernel
  obtain ⟨url, tells⟩ := tells_which_besideBook "/project/bin"
  rw [found] at tells
  obtain ⟨emissions, prepares⟩ := prepares_besideBook "/project/bin"
  have chosen : Action.perform (bookDir? .which []) besideBook = (.ok none, besideBook) := rfl
  have agrees := (which_tells_tool ⟨80, 0, 0⟩ (askFor_name .which []) rfl rfl
    (perform_openContext_besideBook "/project/bin") chosen prepares rfl
    (FileSystem.leadsAlike_of_isAnchored anchored _ _ _)).2.1 "/project/bin/mdbook"
  exact ⟨anchored, tells, emissions, agrees.1.1 tells⟩

/-- On a relative search path, a tool is told that a build does not find. -/
theorem which_not_always_tells_tool :
    ¬ ∀ surroundings exported supply machine after context visit ready path,
      Action.perform (openContext (Workbench.system exported supply)) machine = (.ok context, after) →
      Build.Prepares context machine visit ready → ready.files = machine.files →
      Tells surroundings (Workbench.system exported supply) ["which"] machine
        (installedLines context.settings.release path) →
      ∃ looked, Action.perform (Tool.resolve context.workbench context.settings.release visit.place) ready =
        (.ok (.installed context.settings.release.name path), looked) := by
  intro always
  have found : Process.which besideBook.files besideBook.cwd "bin" "mdbook" = some "bin/mdbook" := by
    decide +kernel
  have missing : Process.which besideBook.files book "bin" "mdbook" = none := by decide +kernel
  obtain ⟨url, tells⟩ := tells_which_besideBook "bin"
  rw [found] at tells
  obtain ⟨emissions, prepares⟩ := prepares_besideBook "bin"
  obtain ⟨last, taken⟩ := always _ _ _ _ _ _ _ _ _ (perform_openContext_besideBook "bin") prepares rfl tells
  have looked : Action.perform ((besideBookContext "bin").workbench.findTool "mdbook")
      { besideBook with cwd := book, emissions := emissions } = (.ok none, _) :=
    (Workbench.perform_lookUp "bin" "mdbook" _).trans (by rw [missing])
  obtain ⟨_, _, _, _, _, loaded⟩ := openContext_cases (perform_openContext_besideBook "bin")
  obtain ⟨url, address⟩ := (Action.complete_of_loadSettings loaded).1.url
  obtain ⟨others, resolved⟩ := Tool.perform_resolve_of_missing
    (Path.ofSpot ["project", "book"]) looked address
  rw [resolved] at taken
  split at taken <;> cases taken

end CommandLine

end Bookbinder
