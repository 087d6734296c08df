import Bookbinder.Proofs.CommandLine.Results
import Bookbinder.Proofs.CommandLine.Which
import Bookbinder.Proofs.FileSystem.Dots
import Bookbinder.Proofs.Process.Starting
import Bookbinder.Proofs.Settings.Offenders

/-!
Where a release is brought to, and what is run of it. Main statement: the place that the user is told of is the
file that a build runs, for a tool with a relative name.
-/

set_option autoImplicit false

namespace Bookbinder.CommandLine

open FileSystem (pathLimit)

variable {machine after : Machine} {context : Context} {exported : List (String × String)}
  {supply : Delivery.Supply} {surroundings : Surroundings} {words rest : List String}
  {given : List Given} {bookDir : Option Path} {place : WorkingDirectory}

theorem candidates_downloaded (searchPath : String) (release : Release) :
    Process.candidates searchPath (Tool.downloaded release).command = ["./" ++ release.name] := by
  have named : Process.namesDirectory ("./" ++ release.name) = true := by
    rw [Process.namesDirectory, String.toList_append, List.contains_append]
    rfl
  exact if_pos named

/-- A build that comes to where it looks for its tool stands in the book directory. -/
theorem place_of_prepares {visit : Action.Visit} {ready : Machine}
    (prepares : Build.Prepares context machine visit ready)
    (enters : machine.files.enter machine.cwd context.bookDir.text = .ok place) :
    visit.place = Path.ofSpot place.spot := by
  obtain ⟨entered, arrived, _⟩ := prepares.prebuilt
  rcases Action.arrive_cases context.bookDir machine with ⟨failure, refused⟩ | ⟨other, there, same, _, stands, into, _⟩
  · rw [refused] at arrived
    cases arrived
  · rw [same] at arrived
    cases arrived
    rw [enters] at into
    cases into
    exact stands

/-- Without an installed tool, the user is told of a file, and a build brings the release and runs a file. It is
the same one in any file system in which the book directory is still where it was, if the name of the tool is
relative; only that a name with a dot or a slash at its end stands for directories when it is run. -/
theorem which_tells_what_is_run (surroundings : Surroundings) (asks : AskFor words .which rest)
    (read : readWords Command.which.vocabulary true rest = .ok (given, []))
    (none : given.find? isRequest = none)
    (opened : Action.perform (openContext (Workbench.system exported supply)) machine =
      (.ok context, after))
    (chosen : Action.perform (bookDir? .which given) machine = (.ok bookDir, machine))
    (missing : Process.which machine.files machine.cwd (Workbench.searchPath exported)
      context.settings.release.name = .none)
    (enters : machine.files.enter machine.cwd (contextFor context bookDir).bookDir.text = .ok place) :
    ∃ url target inside, context.settings.release.url = .ok url ∧
      inside = (contextFor context bookDir).bookDir.below context.settings.release.name ∧
      Tells surroundings (Workbench.system exported supply) words machine
        (missingLines context.settings.release url target) ∧
      (Action.shown ("  into " ++ target.text) true = "  into " ++ target.text ++ "\n" ↔
        ¬Terminal.HoldsSequence ("  into " ++ target.text).toList) ∧
      (∀ visit ready looked brought, Build.Prepares (contextFor context bookDir) machine visit ready →
        Action.perform ((contextFor context bookDir).workbench.findTool context.settings.release.name) ready =
          (.ok .none, looked) →
        Action.perform ((contextFor context bookDir).workbench.fetch url visit.place)
          (Tool.announced context.settings.release looked) = (.ok (), brought) →
        visit.place = Path.ofSpot place.spot ∧
        ∃ emissions, Action.perform (Build.resolveAndBuild (contextFor context bookDir) visit.place) ready =
          Action.perform (Build.buildWith (contextFor context bookDir) visit.place
            (.downloaded context.settings.release)) { brought with emissions := emissions }) ∧
      Process.candidates (Workbench.searchPath exported) (Tool.downloaded context.settings.release).command =
        ["./" ++ context.settings.release.name] ∧
      target = (if (Path.parse context.settings.release.name).isAbsolute then
          Path.parse context.settings.release.name else inside) ∧
      ∀ (files : FileSystem) (cwd : WorkingDirectory), files.isAlive place = true →
        files.enter cwd (contextFor context bookDir).bookDir.text = .ok place →
        ("./" ++ context.settings.release.name).utf8ByteSize < pathLimit →
        inside.text.utf8ByteSize < pathLimit → files.locate cwd true inside.text ≠ .error .tooManyLinks →
        files.MeansTarget place context.settings.release.name cwd inside := by
  obtain ⟨_, _, system, _, _, loaded⟩ := openContext_cases opened
  obtain ⟨complete, _⟩ := Action.complete_of_loadSettings loaded
  obtain ⟨url, address⟩ := complete.url
  have tells := tells_which surroundings asks read none opened chosen address
  rw [missing, toolLines, contextFor_release, contextFor_cwd] at tells
  have target : (contextFor context bookDir).settings.binaryFrom context.cwd =
      (contextFor context bookDir).bookDir.child context.settings.release.name := by
    rw [Settings.binaryFrom, contextFor_release, Context.bookDir, contextFor_cwd]
    rfl
  rw [target] at tells
  refine ⟨url, _, _, address, rfl, tells, shown_eq_iff _, ?_, candidates_downloaded _ _,
    Path.child_eq _ _, fun files cwd alive entered short also few =>
      FileSystem.meansTarget_below complete.name short also entered alive few⟩
  intro visit ready looked brought prepares looks fetched
  refine ⟨place_of_prepares prepares enters, ?_⟩
  rw [← contextFor_release context bookDir] at looks address fetched ⊢
  obtain ⟨emissions, resolved⟩ := Build.perform_resolveAndBuild_of_missing visit.place looks address
  rw [fetched] at resolved
  exact ⟨emissions, resolved⟩

/-- The machine beside a book once its tool was brought. -/
def besideTool : FileSystem := besideBook.files.addFile ["project", "book", "mdbook"] idleScript

/-- A tool that is not installed, before and after it was brought. -/
theorem which_tells_what_is_run_beside :
    ∃ url, Tells ⟨80, 0, 0⟩ (besideBookContext "/project/ci").workbench ["which"] besideBook
        (missingLines Settings.defaultRelease url (Path.parse "/project/book/mdbook")) ∧
      besideTool.MeansTarget book "mdbook" besideBook.cwd (Path.parse "/project/book/mdbook") := by
  have missing : Process.which besideBook.files besideBook.cwd "/project/ci" "mdbook" = none := by
    decide
  have bookDir : (besideBookContext "/project/ci").bookDir = Path.parse "/project/book" := by
    change Settings.default.bookDirFrom (Path.parse "/project") = _
    decide
  have text : (besideBookContext "/project/ci").bookDir.text = "/project/book" := by
    rw [bookDir]
    decide
  have enters : besideBook.files.enter besideBook.cwd (besideBookContext "/project/ci").bookDir.text =
      .ok book := by
    rw [text]
    with_unfolding_all rfl
  have chosen : Action.perform (bookDir? .which []) besideBook = (.ok none, besideBook) := rfl
  obtain ⟨url, target, inside, _, within, tells, _, _, _, same, means⟩ :=
    which_tells_what_is_run ⟨80, 0, 0⟩ (askFor_name .which []) rfl rfl
      (perform_openContext_besideBook "/project/ci") chosen missing enters
  have path : (Path.parse "/project/book").below "mdbook" = Path.parse "/project/book/mdbook" := by
    decide
  obtain rfl : inside = Path.parse "/project/book/mdbook" := by
    change inside = (besideBookContext "/project/ci").bookDir.below "mdbook" at within
    rw [within, bookDir, path]
  obtain rfl : target = Path.parse "/project/book/mdbook" := same
  have written : (Path.parse "/project/book/mdbook").text = "/project/book/mdbook" := by decide
  have again : besideTool.enter besideBook.cwd (besideBookContext "/project/ci").bookDir.text = .ok book := by
    rw [text]
    with_unfolding_all rfl
  have there : besideTool.locate besideBook.cwd true (Path.parse "/project/book/mdbook").text =
      .ok (.occupied ["project", "book", "mdbook"]) := by
    rw [written]
    with_unfolding_all rfl
  refine ⟨url, tells, means besideTool besideBook.cwd (by decide) again (by decide)
    (by decide) ?_⟩
  rw [there]
  exact nofun

/-- Settings that ask for a tool with an absolute name, and the table that they hold. -/
def anchoredText : String := "book_dir = \"/tmp\"\n[tool]\nname = \"/tool\"\nurl_template = \"u\"\n"

def anchoredTable : Toml.Table :=
  [("book_dir", .text "/tmp"), ("tool", .table [("name", .text "/tool"), ("url_template", .text "u")])]

def anchoredSettings : Settings :=
  { Settings.default with
    bookDir := Path.parse "/tmp"
    release := { Settings.defaultRelease with name := "/tool", template := "u" }
    source := some (Settings.file (Path.parse "/project")) }

/-- The user is told of an absolute name as it is, but it is run inside of the book directory. -/
theorem which_not_always_tells_what_is_run :
    ¬∀ (exported : List (String × String)) (supply : Delivery.Supply) (machine after : Machine)
      (context : Context) (place : WorkingDirectory),
      Action.perform (openContext (Workbench.system exported supply)) machine = (.ok context, after) →
      Process.which machine.files machine.cwd (Workbench.searchPath exported) context.settings.release.name =
        none →
      machine.files.enter machine.cwd context.bookDir.text = .ok place →
      machine.files.locate place true ("./" ++ context.settings.release.name) =
        machine.files.locate machine.cwd true (context.settings.binaryFrom context.cwd).text := by
  intro always
  have parsed : Toml.parse (Text.unifyNewlines anchoredText.toList) = .ok anchoredTable := by cbv
  have given : Settings.ofTable (Settings.file (Path.parse "/project")) anchoredTable = .ok anchoredSettings := by
    cbv
  have alive : (Action.projectWith anchoredText).files.isAlive (Action.projectWith anchoredText).cwd = true := by
    decide
  have here : Path.ofSpot (Action.projectWith anchoredText).cwd.spot = Path.parse "/project" := by
    decide
  have loaded : Action.perform (Action.loadSettings (Path.ofSpot (Action.projectWith anchoredText).cwd.spot))
      (Action.projectWith anchoredText) = (.ok anchoredSettings, Action.projectWith anchoredText) := by
    rw [here, (Action.holdsSettings_projectWith parsed).perform_loadSettings, given]
    rfl
  have opened := perform_openContext_of_loaded alive loaded (Workbench.system [] nothingServed)
  have same := always [] nothingServed _ _ _ ⟨["tmp"], 1⟩ opened (by decide) (by with_unfolding_all rfl)
  have inside : (Action.projectWith anchoredText).files.locate ⟨["tmp"], 1⟩ true ("./" ++ "/tool") =
    .ok (.vacant ["tmp"] "tool") := by with_unfolding_all rfl
  have outside : (Action.projectWith anchoredText).files.locate (Action.projectWith anchoredText).cwd true
      "/tool" = .ok (.vacant [] "tool") := by with_unfolding_all rfl
  have target : (anchoredSettings.binaryFrom
      (Path.ofSpot (Action.projectWith anchoredText).cwd.spot)).text = "/tool" := by
    decide
  change _ = (Action.projectWith anchoredText).files.locate _ true (anchoredSettings.binaryFrom
    (Path.ofSpot (Action.projectWith anchoredText).cwd.spot)).text at same
  rw [target, outside] at same
  cases inside.symm.trans same

end Bookbinder.CommandLine
