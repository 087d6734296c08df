import Bookbinder.FileSystem.Changes
import Bookbinder.Proofs.CommandLine.Failures
import Bookbinder.Proofs.CommandLine.Init
import Bookbinder.Proofs.FileSystem.Children

/-!
Writing a settings file only where there is none. Main statement: without force, whatever is there stays, and
the command does not succeed; in a directory without such a file it makes one, which holds the built-in
settings, and does it only once.
-/

set_option autoImplicit false

namespace Bookbinder

/-- No entry has a number that is yet to be given. -/
def FileSystem.IsNumbered (files : FileSystem) : Prop :=
  ∀ spot number, files.entryAt? spot = some (.file number) → number < files.next

theorem FileSystem.viewAt?_addFile {files : FileSystem} (numbered : files.IsNumbered) (spot : Spot)
    (content : Content) (other : Spot) :
    (files.addFile spot content).viewAt? other =
      if spot = other then some (.file content) else files.viewAt? other := by
  have entry : (files.addFile spot content).entryAt? other =
      if spot = other then some (.file files.next) else files.entryAt? other :=
    entryAt?_putEntry files spot other _
  have held (number : Nat) : (files.addFile spot content).content? number =
      if files.next = number then some content else files.content? number :=
    content?_putContent _ _ _ _
  unfold viewAt?
  rw [entry]
  by_cases here : spot = other
  · simp only [if_pos here, held]
    rfl
  · simp only [if_neg here]
    cases present : files.entryAt? other with
    | none => rfl
    | some entry =>
      cases entry with
      | file number =>
        -- what the entry says is another file than the new one
        have older := numbered other number present
        simp only [held, if_neg (Nat.ne_of_gt older)]
      | _ => rfl

namespace CommandLine

/-- Where a command has its settings: in the directory that it is given, or in the current one. -/
def Opening.directory (opening : Opening) (machine : Machine) : Path :=
  match opening with
  | .given context => context.cwd
  | .here _ => Path.ofSpot machine.cwd.spot

def Opening.settingsFile (opening : Opening) (machine : Machine) : Path :=
  Settings.file (opening.directory machine)

/-- The directory of the settings is there. -/
def Opening.StandsAt (opening : Opening) (machine : Machine) (place : WorkingDirectory) : Prop :=
  match opening with
  | .given context => holdsNul (Settings.file context.cwd).text = false ∧
      machine.files.enter machine.cwd context.cwd.text = .ok place ∧ machine.files.isAlive place = true
  | .here _ => machine.OffersSettings ∧ place = machine.cwd

namespace Opening.StandsAt

variable {opening : Opening} {machine : Machine} {place : WorkingDirectory}
  (stands : opening.StandsAt machine place)

include stands

theorem clean : holdsNul (opening.settingsFile machine).text = false := by
  cases opening with
  | given context => exact stands.1
  | here workbench => exact stands.1.clean_settingsFile

theorem alive : machine.files.isAlive place = true := by
  cases opening with
  | given context => exact stands.2.2
  | here workbench => exact stands.2 ▸ stands.1.alive

theorem locate (short : (opening.settingsFile machine).text.utf8ByteSize < FileSystem.pathLimit) :
    ∃ left, left ≤ FileSystem.mostLinks ∧ ∀ follow,
      machine.files.locate machine.cwd follow (opening.settingsFile machine).text =
        machine.files.walkOn follow left place.spot [Settings.fileName] := by
  cases opening with
  | given context =>
    obtain ⟨_, entered, alive⟩ := stands
    obtain ⟨anchor, names⟩ := Settings.file_parts context.cwd
    exact FileSystem.locate_child anchor names short entered alive
  | here workbench =>
    obtain ⟨offers, rfl⟩ := stands
    exact ⟨_, Nat.le_refl _, offers.locate short⟩

/-- Something with the name of a settings file is told to be there, or else the path leads nowhere. -/
theorem taken {status : FileSystem.Status}
    (there : machine.files.status place Settings.fileName = .ok status) :
    machine.files.status machine.cwd (opening.settingsFile machine).text = .ok status ∨
      ∃ errno, machine.files.locate machine.cwd true (opening.settingsFile machine).text = .error errno := by
  by_cases short : (opening.settingsFile machine).text.utf8ByteSize < FileSystem.pathLimit
  · obtain ⟨left, fits, onward⟩ := stands.locate short
    have inside : machine.files.locate place true Settings.fileName =
        machine.files.walkOn true FileSystem.mostLinks place.spot [Settings.fileName] := by
      have names : FileSystem.components Settings.fileName = [Settings.fileName] := by decide
      simp only [FileSystem.locate, (by decide : Settings.fileName ≠ ""), if_false, names, stands.alive]
      rfl
    rw [onward true]
    -- links on the way to the directory may have left too few to follow one more
    cases walked : machine.files.walkOn true left place.spot [Settings.fileName] with
    | error errno => exact .inr ⟨errno, rfl⟩
    | ok location =>
      have more := FileSystem.walkOn_mono fits walked
      rw [FileSystem.status, inside, more] at there
      refine .inl ?_
      rw [FileSystem.status, onward true, walked]
      exact there
  · exact .inr ⟨_, FileSystem.locate_of_long (Nat.le_of_not_lt short) _ _ _⟩

theorem vacant (short : (opening.settingsFile machine).text.utf8ByteSize < FileSystem.pathLimit)
    (absent : machine.files.entryAt? (place.spot ++ [Settings.fileName]) = none) :
    machine.files.locate machine.cwd true (opening.settingsFile machine).text =
      .ok (.vacant place.spot Settings.fileName) := by
  obtain ⟨left, _, onward⟩ := stands.locate short
  rw [onward true]
  refine FileSystem.walkOn_of_arrived left ?_
  have standing := FileSystem.isDirectory_of_isAlive stands.alive
  rw [FileSystem.walk_down true [] standing (by decide) (by decide) (by decide),
    (FileSystem.signAt?_eq_none_iff _ _).2 absent]
  rfl

end Opening.StandsAt

variable {opening : Opening} {machine : Machine} {place : WorkingDirectory} {words rest : List String}
  {given : List Given} {context : Context}

/-! ### A file that is there -/

/-- What is told where the name is taken. -/
def takenLine (file : Path) : Emission :=
  .notice (Action.shown ("Error: " ++ (file.text ++ " already exists - use --force to overwrite it")) true)

theorem perform_runInit_of_taken {status : FileSystem.Status}
    (clean : holdsNul (Settings.file context.cwd).text = false)
    (found : machine.files.status machine.cwd (Settings.file context.cwd).text = .ok status)
    (unforced : given.contains .force = false) :
    Action.perform (runInit context given) machine =
      (.error (.exit 1), { machine with
        emissions := machine.emissions ++ [takenLine (Settings.file context.cwd)] }) := by
  simp only [runInit, unforced, Bool.not_false, if_true, Action.perform_bind,
    Action.perform_exists? clean found]
  rfl

theorem perform_runInit_of_nowhere {errno : Errno} (clean : holdsNul (Settings.file context.cwd).text = false)
    (nowhere : machine.files.locate machine.cwd true (Settings.file context.cwd).text = .error errno)
    (unforced : given.contains .force = false) :
    Action.perform (runInit context given) machine =
      (.error (.refused errno (.name (Settings.file context.cwd).text)), machine) := by
  have status : machine.files.status machine.cwd (Settings.file context.cwd).text = .error errno := by
    rw [FileSystem.status, nowhere]
    rfl
  have refused (bytes : Text.Bytes) : Action.perform (Action.writeFile (Settings.file context.cwd) bytes)
      machine = (.error (.refused errno (.name (Settings.file context.cwd).text)), machine) := by
    rw [Action.writeFile, Action.change, Action.perform_bind, Action.perform_query clean,
      FileSystem.writeFile, nowhere]
    rfl
  simp only [runInit, unforced, Bool.not_false, if_true, Action.perform_bind,
    Action.perform_exists?_of_error clean status]
  -- whether or not the look tells of an absence, nothing is written
  cases errno.meansAbsence with
  | false => rfl
  | true =>
    have passes (message : String) : Action.perform (Action.ensure (!false) message) machine =
        (.ok (), machine) := rfl
    simp only [if_true, Action.saveSettings, Action.perform_bind, passes, refused]

theorem perform_runInit_of_there (stands : opening.StandsAt machine place) {status : FileSystem.Status}
    (there : machine.files.status place Settings.fileName = .ok status)
    (same : context.cwd = opening.directory machine) (unforced : given.contains .force = false) :
    ∃ failure after, Action.perform (runInit context given) machine = (.error failure, after) ∧
      after.files = machine.files ∧ failure.IsLoud := by
  have clean := stands.clean
  have taken := stands.taken there
  rw [Opening.settingsFile, ← same] at clean taken
  rcases taken with found | ⟨errno, nowhere⟩
  · exact ⟨_, _, perform_runInit_of_taken clean found unforced, rfl, nofun⟩
  · exact ⟨_, _, perform_runInit_of_nowhere clean nowhere unforced, rfl, nofun⟩

theorem Opening.context_cwd {after : Machine}
    (opened : Action.perform opening.context machine = (.ok context, after)) :
    context.cwd = opening.directory machine := by
  cases opening with
  | given other =>
    cases opened
    rfl
  | here workbench => exact (openContext_cases opened).2.2.2.1

theorem keepsFiles_answerRequests (files : FileSystem) (surroundings : Surroundings) (help : Help) :
    Action.Keeps (fun machine => machine.files = files) (answerRequests surroundings help given) := by
  have answers (message : String) : Action.Keeps (fun machine => machine.files = files)
      (Action.answer message true) := ⟨fun _ same => same⟩
  unfold answerRequests
  split
  · exact (answers _).bind fun _ => Action.keeps_throw _
  · exact (answers _).bind fun _ => Action.keeps_throw _
  · exact Action.keeps_pure _

/-- What a run without force comes to if something is in the place of the file. -/
theorem perform_of_there (stands : opening.StandsAt machine place) {status : FileSystem.Status}
    (there : machine.files.status place Settings.fileName = .ok status) (surroundings : Surroundings)
    (asks : AskFor words .init rest)
    (unforced : ∀ given left, readWords Command.init.vocabulary true rest = .ok (given, left) →
      .force ∉ given) :
    ∃ failure after, Action.perform (CommandLine.perform surroundings opening.context words) machine =
        (.error failure, after) ∧ after.files = machine.files ∧
      (AnswersNothing opening .init rest machine → failure.IsLoud) := by
  have bears : BearsText fun other => other.files = machine.files := fun _ _ _ same => same
  have opens := (opening.meets_context bears).ends machine rfl
  have opensLoud := (opening.failsOnly_context Failure.passesOn_isLoud (fun _ => nofun) nofun).ends machine
  rw [perform_of_askFor asks, Action.perform_bind]
  cases opened : Action.perform opening.context machine with
  | mk result ready =>
    rw [opened] at opens opensLoud
    rcases result with failure | context
    · -- the file that is there may be at fault, so that no context is made
      exact ⟨failure, ready, rfl, opens, fun _ => opensLoud⟩
    · obtain ⟨rfl, _⟩ := opening.context_cases opened
      have heeds := (keeps_heed bears .init surroundings rest fun _ _ _ =>
        keepsFiles_answerRequests _ surroundings _).always (rfl : ready.files = ready.files)
      simp only [run_eq, Action.perform_bind]
      cases heeded : Action.perform (heed .init surroundings rest) ready with
      | mk result last =>
        rw [heeded] at heeds
        rcases result with failure | ⟨given, bookDir⟩
        · refine ⟨failure, last, rfl, heeds, fun nothing => ?_⟩
          have loud := (failsOnly_heed Failure.passesOn_isLoud nofun surroundings fun given left =>
            nothing context ready given left opened).ends ready
          rwa [heeded] at loud
        · obtain ⟨rfl, _, left, read⟩ := of_heed heeded
          have unasked : given.contains .force = false := by simpa using unforced given left read
          obtain ⟨failure, after, ended, files, loud⟩ := perform_runInit_of_there stands there
            ((contextFor_cwd context bookDir).trans (opening.context_cwd opened)) unasked
          exact ⟨failure, after, ended, files, fun _ => loud⟩

/-! ### A file that is not there -/

/-- The files with the built-in settings in a directory. -/
def withSettings (files : FileSystem) (directory : Spot) : FileSystem :=
  files.addFile (directory ++ [Settings.fileName]) ⟨Text.encodeUtf8 Settings.default.write, FileSystem.fileMode⟩

theorem perform_runInit_of_vacant (clean : holdsNul (Settings.file context.cwd).text = false)
    (vacant : machine.files.locate machine.cwd true (Settings.file context.cwd).text =
      .ok (.vacant place.spot Settings.fileName)) :
    Action.perform (runInit context []) machine =
      (.ok (), { machine with
        files := withSettings machine.files place.spot
        emissions := machine.emissions ++ [wroteLine (Settings.file context.cwd)] }) := by
  have written := FileSystem.writeFile_of_vacant vacant fun _ => Text.encodeUtf8 Settings.default.write
  have saved := Action.perform_saveSettings (Action.perform_change clean written)
  have passes (message : String) : Action.perform (Action.ensure true message) machine =
      (.ok (), machine) := rfl
  have looked : Action.perform (Action.exists? (Settings.file context.cwd)) machine = (.ok false, machine) :=
    Action.perform_exists?_of_error clean (FileSystem.status_of_vacant vacant)
  have unforced : ([] : List Given).contains .force = false := rfl
  simp only [runInit, unforced, Bool.not_false, if_true, Action.perform_bind, looked, passes, saved]
  rfl

/-- A context that is made anew needs a current directory. -/
def Opening.MayOpen (opening : Opening) (machine : Machine) : Prop :=
  match opening with
  | .given _ => True
  | .here _ => machine.files.isAlive machine.cwd = true

theorem Opening.StandsAt.mayOpen (stands : opening.StandsAt machine place) : opening.MayOpen machine := by
  cases opening with
  | given context => exact trivial
  | here workbench => exact stands.1.alive

theorem Opening.perform_context_of_loaded {settings : Settings} (may : opening.MayOpen machine)
    (loaded : Action.perform (Action.loadSettings (opening.directory machine)) machine =
      (.ok settings, machine)) :
    ∃ context, Action.perform opening.context machine = (.ok context, machine) ∧
      context.cwd = opening.directory machine := by
  cases opening with
  | given context => exact ⟨context, rfl, rfl⟩
  | here workbench => exact ⟨_, perform_openContext_of_loaded may loaded workbench, rfl⟩

theorem perform_status_of_vacant (stands : opening.StandsAt machine place)
    (vacant : machine.files.locate machine.cwd true (opening.settingsFile machine).text =
      .ok (.vacant place.spot Settings.fileName)) (surroundings : Surroundings)
    (asks : AskFor words .init rest) (read : readWords Command.init.vocabulary true rest = .ok ([], [])) :
    Action.perform (status surroundings opening.context words) machine =
      (.ok 0, { machine with
        files := withSettings machine.files place.spot
        emissions := machine.emissions ++ [wroteLine (opening.settingsFile machine)] }) := by
  have clean := stands.clean
  have loaded := Action.perform_loadSettings_of_absent clean (FileSystem.status_of_vacant vacant)
  obtain ⟨context, opened, same⟩ := Opening.perform_context_of_loaded stands.mayOpen loaded
  rw [Opening.settingsFile, ← same] at clean vacant ⊢
  rw [perform_status_init surroundings asks read rfl rfl opened, perform_runInit_of_vacant clean vacant]
  simp only [farewell, List.append_nil]
  rfl

theorem perform_status_of_taken {settings : Settings} {status : FileSystem.Status}
    (may : opening.MayOpen machine)
    (clean : holdsNul (opening.settingsFile machine).text = false)
    (found : machine.files.status machine.cwd (opening.settingsFile machine).text = .ok status)
    (loaded : Action.perform (Action.loadSettings (opening.directory machine)) machine =
      (.ok settings, machine)) (surroundings : Surroundings)
    (asks : AskFor words .init rest) (read : readWords Command.init.vocabulary true rest = .ok ([], [])) :
    Action.perform (CommandLine.status surroundings opening.context words) machine =
      (.ok 1, { machine with
        emissions := machine.emissions ++ [takenLine (opening.settingsFile machine)] }) := by
  obtain ⟨context, opened, same⟩ := Opening.perform_context_of_loaded may loaded
  rw [Opening.settingsFile, ← same] at clean found ⊢
  have silent : farewell (.error (.exit 1)) = [] := rfl
  rw [perform_status_init surroundings asks read rfl rfl opened, perform_runInit_of_taken clean found rfl]
  simp only [silent, List.append_nil]
  rfl

theorem status_withSettings
    (vacant : machine.files.locate machine.cwd true (opening.settingsFile machine).text =
      .ok (.vacant place.spot Settings.fileName)) :
    ∃ mode, (withSettings machine.files place.spot).status machine.cwd (opening.settingsFile machine).text =
      .ok (.file ⟨Text.encodeUtf8 Settings.default.write, mode⟩) := by
  have written := FileSystem.writeFile_of_vacant vacant fun _ => Text.encodeUtf8 Settings.default.write
  obtain ⟨after, mode, again, found⟩ :=
    FileSystem.status_writeFile (.inl ⟨_, _, vacant⟩) (Text.encodeUtf8 Settings.default.write)
  cases written.symm.trans again
  exact ⟨mode, found⟩

theorem Opening.MayOpen.withSettings (may : opening.MayOpen machine)
    (absent : machine.files.entryAt? (place.spot ++ [Settings.fileName]) = none) (emissions : List Emission)
    (events : List Event) :
    opening.MayOpen ⟨CommandLine.withSettings machine.files place.spot, machine.cwd, emissions, events⟩ := by
  cases opening with
  | given context => exact trivial
  | here workbench =>
    exact ((FileSystem.gains_addFile machine.files _ _ absent).isAlive_of_file machine.cwd).trans may

/-- Without force, `init` leaves whatever has the name of the file as it is, and fails unless it answers a
request. Where nothing has that name it makes one file and nothing else, from which the built-in settings are
loaded, and is refused when it is asked again. -/
theorem init_keeps_settings (stands : opening.StandsAt machine place) (surroundings : Surroundings)
    (asks : AskFor words .init rest) :
    (∀ there, machine.files.status place Settings.fileName = .ok there →
      (∀ given left, readWords Command.init.vocabulary true rest = .ok (given, left) → .force ∉ given) →
      ∃ result after, Action.perform (status surroundings opening.context words) machine = (result, after) ∧
        after.files = machine.files ∧ (AnswersNothing opening .init rest machine → result ≠ .ok 0)) ∧
    (machine.files.entryAt? (place.spot ++ [Settings.fileName]) = none →
      (opening.settingsFile machine).text.utf8ByteSize < FileSystem.pathLimit →
      readWords Command.init.vocabulary true rest = .ok ([], []) → machine.files.IsNumbered →
      ∃ files,
        Action.perform (status surroundings opening.context words) machine =
          (.ok 0, ⟨files, machine.cwd, machine.emissions ++ [wroteLine (opening.settingsFile machine)],
            machine.events⟩) ∧
        (∀ spot, files.entryAt? spot =
          if place.spot ++ [Settings.fileName] = spot then some (.file machine.files.next)
          else machine.files.entryAt? spot) ∧
        (∀ spot, files.viewAt? spot =
          if place.spot ++ [Settings.fileName] = spot then
            some (.file ⟨Text.encodeUtf8 Settings.default.write, FileSystem.fileMode⟩)
          else machine.files.viewAt? spot) ∧
        ∀ emissions events,
          (Action.perform (Action.loadSettings (opening.directory machine))
              ⟨files, machine.cwd, emissions, events⟩).1 =
            .ok { Settings.default with source := some (opening.settingsFile machine) } ∧
          Action.perform (status surroundings opening.context words)
              ⟨files, machine.cwd, emissions, events⟩ =
            (.ok 1, ⟨files, machine.cwd, emissions ++ [takenLine (opening.settingsFile machine)],
              events⟩)) := by
  constructor
  · intro there taken unforced
    obtain ⟨failure, after, ended, files, loud⟩ := perform_of_there stands taken surroundings asks unforced
    rw [perform_status_eq, ended]
    exact ⟨_, _, rfl, files, fun nothing => exitOf_ne_of_isLoud (loud nothing)⟩
  · intro absent short read numbered
    have vacant := stands.vacant short absent
    obtain ⟨mode, found⟩ := status_withSettings vacant
    have back := (Settings.read_write (opening.settingsFile machine) Settings.default).1 Action.default_complete
    refine ⟨_, perform_status_of_vacant stands vacant surroundings asks read,
      (FileSystem.gains_addFile machine.files _ _ absent).entryAt?, FileSystem.viewAt?_addFile numbered _ _,
      fun emissions events => ?_⟩
    have loaded := Action.perform_loadSettings
      ⟨withSettings machine.files place.spot, machine.cwd, emissions, events⟩ stands.clean found
    rw [← Opening.settingsFile, back] at loaded
    -- the second run loads what the first one wrote, and is refused because of it
    exact ⟨congrArg Prod.fst loaded,
      perform_status_of_taken (stands.mayOpen.withSettings absent emissions events) stands.clean found loaded
        surroundings asks read⟩

theorem init_keeps_settings_command :
    (∃ files,
      Action.perform (status ⟨80, 0, 0⟩ (Opening.here (Rehearsal.workbench ⟨[], [], none, none, []⟩)).context
          ["init"]) Machine.atProject =
        (.ok 0, ⟨files, ⟨["project"], 5⟩, [wroteLine (Path.parse "/project/bookbuild.toml")], []⟩) ∧
      (Action.perform (Action.loadSettings (Path.parse "/project")) ⟨files, ⟨["project"], 5⟩, [], []⟩).1 =
        .ok { Settings.default with source := some (Path.parse "/project/bookbuild.toml") }) ∧
    ∃ result after,
      Action.perform (status ⟨80, 0, 0⟩ (Opening.here (Rehearsal.workbench ⟨[], [], none, none, []⟩)).context
          ["init"]) (Action.projectWith "[\n") = (result, after) ∧
        after.files = (Action.projectWith "[\n").files ∧ result ≠ .ok 0 := by
  constructor
  · have offers : Machine.atProject.OffersSettings :=
      ⟨FileSystem.IsTree.of_entries (by decide +kernel), by decide +kernel, by decide +kernel⟩
    have separate : Machine.atProject.files.IsSeparate ["project"] :=
      .of_entries offers.tree (by decide +kernel) (by decide +kernel)
    have stands : (Opening.here (Rehearsal.workbench ⟨[], [], none, none, []⟩)).StandsAt Machine.atProject
        Machine.atProject.cwd := ⟨offers, rfl⟩
    obtain ⟨files, ended, _, _, after⟩ := (init_keeps_settings stands ⟨80, 0, 0⟩ (askFor_name .init [])).2
      (by decide +kernel) (by decide +kernel) rfl fun _ _ => separate.fresh
    exact ⟨files, ended, (after [] []).1⟩
  · have stands : (Opening.here (Rehearsal.workbench ⟨[], [], none, none, []⟩)).StandsAt
        (Action.projectWith "[\n") (Action.projectWith "[\n").cwd :=
      ⟨(keepsSettings_projectWith "[\n").toOffersSettings, rfl⟩
    have there : (Action.projectWith "[\n").files.status (Action.projectWith "[\n").cwd Settings.fileName =
        .ok (.file ⟨Text.encodeUtf8 "[\n".toList, FileSystem.fileMode⟩) := by
      decide +kernel
    obtain ⟨result, after, ended, same, loud⟩ :=
      (init_keeps_settings stands ⟨80, 0, 0⟩ (askFor_name .init [])).1 _ there fun _ _ read => by
        cases read
        exact List.not_mem_nil
    exact ⟨result, after, ended, same, loud fun _ _ _ _ _ read => by cases read; rfl⟩

/-- The root, by a path that goes up from it over and over. -/
def upwards (count : Nat) : Path := Path.ofSpot (List.replicate (count + 1) "..")

theorem isName_upwards {count : Nat} : ∀ name ∈ List.replicate count "..", isName name = true :=
  fun _ member => (List.mem_replicate.1 member).2 ▸ by decide

theorem text_upwards (count : Nat) :
    (upwards count).text.utf8ByteSize = 3 * (count + 1) ∧ '\x00' ∉ (upwards count).text.toList := by
  rw [upwards, Path.text_ofSpot isName_upwards]
  induction count with
  | zero => decide
  | succ count ih =>
    have sizes : "/".utf8ByteSize = 1 ∧ "..".utf8ByteSize = 2 := ⟨rfl, rfl⟩
    have others : '\x00' ∉ "/".toList ∧ '\x00' ∉ "..".toList := by decide
    rw [List.replicate_succ', FileSystem.spotText_concat (by simp)]
    simp only [String.utf8ByteSize_append, String.toList_append, List.mem_append, ih, others, sizes, or_self,
      not_false_iff, and_true]
    omega

theorem text_file_upwards (count : Nat) :
    (Settings.file (upwards count)).text = (upwards count).text ++ "/" ++ Settings.fileName := by
  rw [upwards, Settings.text_file_ofSpot isName_upwards, FileSystem.spotText_concat (by simp),
    Path.text_ofSpot isName_upwards]

theorem walk_upwards {files : FileSystem} (root : files.isDirectory [] = true) (count : Nat) :
    files.walk true [] (List.replicate count "..") = .arrived (.occupied []) := by
  induction count with
  | zero => rfl
  | succ count ih =>
    simp only [List.replicate_succ, FileSystem.walk, root]
    exact ih

def upwardsContext (count : Nat) : Context where
  workbench := Rehearsal.workbench ⟨[], [], none, none, []⟩
  settings := Settings.default
  cwd := upwards count
  dryRun := false

theorem standsAt_upwards {count : Nat} (short : 3 * (count + 1) < FileSystem.pathLimit) :
    (Opening.given (upwardsContext count)).StandsAt Machine.atProject ⟨[], 0⟩ := by
  obtain ⟨size, clean⟩ := text_upwards count
  have others : '\x00' ∉ "/".toList ∧ '\x00' ∉ Settings.fileName.toList := by decide
  have root : Machine.atProject.files.isDirectory [] = true := by decide
  have walked := FileSystem.walkOn_of_arrived FileSystem.mostLinks (walk_upwards root (count + 1))
  have located : Machine.atProject.files.locate Machine.atProject.cwd true (upwards count).text =
      .ok (.occupied []) := by
    rw [FileSystem.locate_text _ _ _ (size ▸ short), upwards, Path.ofSpot_eq isName_upwards]
    exact walked
  refine ⟨?_, ?_, by decide⟩
  · change holdsNul (Settings.file (upwards count)).text = false
    simp [holdsNul, text_file_upwards, clean, others]
  · change Machine.atProject.files.enter _ (upwards count).text = _
    rw [FileSystem.enter, located]
    rfl

/-- A path that is too long to be looked up keeps `init` from writing, and so does a request for help, which is
answered whether or not there is a file. -/
theorem init_not_always_keeps_settings :
    (¬ ∀ (opening : Opening) machine place surroundings, opening.StandsAt machine place →
      machine.files.entryAt? (place.spot ++ [Settings.fileName]) = none →
      (Action.perform (status surroundings opening.context ["init"]) machine).1 = .ok 0) ∧
    (¬ ∀ (opening : Opening) machine place surroundings rest, opening.StandsAt machine place →
      machine.files.entryAt? (place.spot ++ [Settings.fileName]) = none → "--force" ∉ rest →
      (opening.settingsFile machine).text.utf8ByteSize < FileSystem.pathLimit →
      (Action.perform (status surroundings opening.context ("init" :: rest)) machine).2.files.entryAt?
        (place.spot ++ [Settings.fileName]) ≠ none) ∧
    ¬ ∀ (opening : Opening) machine place surroundings there rest, opening.StandsAt machine place →
      machine.files.status place Settings.fileName = .ok there → "--force" ∉ rest →
      (Action.perform (status surroundings opening.context ("init" :: rest)) machine).1 ≠ .ok 0 := by
  refine ⟨fun always => ?_, fun always => ?_, fun always => ?_⟩
  · have stands : (Opening.given (upwardsContext 1364)).StandsAt Machine.atProject ⟨[], 0⟩ :=
      standsAt_upwards (by decide)
    have long : FileSystem.pathLimit ≤ (Settings.file (upwards 1364)).text.utf8ByteSize := by
      rw [text_file_upwards, String.utf8ByteSize_append, String.utf8ByteSize_append, (text_upwards 1364).1]
      decide
    have ended := always _ Machine.atProject _ ⟨80, 0, 0⟩ stands (by decide +kernel)
    have refused : Action.perform (runInit (upwardsContext 1364) []) Machine.atProject =
        (.error (.refused .nameTooLong (.name (Settings.file (upwards 1364)).text)), Machine.atProject) :=
      perform_runInit_of_nowhere stands.clean (FileSystem.locate_of_long long _ _ _) rfl
    have opened : Action.perform (Opening.given (upwardsContext 1364)).context Machine.atProject =
        (.ok (upwardsContext 1364), Machine.atProject) := rfl
    have told := perform_status_init ⟨80, 0, 0⟩ (askFor_name .init []) rfl rfl rfl opened
    rw [refused] at told
    exact absurd ((congrArg Prod.fst told).symm.trans ended) nofun
  · refine always (.given ⟨Rehearsal.workbench ⟨[], [], none, none, []⟩, Settings.default,
      Path.parse "/project", false⟩) Machine.atProject ⟨["project"], 5⟩ ⟨80, 0, 0⟩ ["--help"]
      ⟨?_, ?_, ?_⟩ ?_ ?_ ?_ ?_
    all_goals decide +kernel
  · refine always (.given ⟨Rehearsal.workbench ⟨[], [], none, none, []⟩, Settings.default,
      Path.parse "/project", false⟩) (Action.projectWith "[\n") ⟨["project"], 5⟩ ⟨80, 0, 0⟩
      (.file ⟨Text.encodeUtf8 "[\n".toList, FileSystem.fileMode⟩) ["--help"] ⟨?_, ?_, ?_⟩ ?_ ?_ ?_
    all_goals decide +kernel

end CommandLine

end Bookbinder
