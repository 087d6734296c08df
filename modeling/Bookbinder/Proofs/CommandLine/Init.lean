import Bookbinder.Proofs.CommandLine.Building
import Bookbinder.Proofs.FileSystem.Resolution
import Bookbinder.Proofs.Settings.Offenders

/-!
Writing a settings file with the built-in values. Main statement: over a file that can be loaded they are
written in any case, and nothing else changes; a file whose values are at fault is told of and stays, and a
path that is too long reaches none.
-/

set_option autoImplicit false

namespace Bookbinder

theorem Settings.file_parts (directory : Path) :
    (Settings.file directory).anchor = directory.anchor ∧
      (Settings.file directory).names = directory.names ++ [Settings.fileName] := by
  have name : Path.parse Settings.fileName = ⟨.here, [Settings.fileName], by decide⟩ := by decide
  rw [Settings.file, Path.child, name]
  exact ⟨rfl, rfl⟩

theorem Settings.text_file_ofSpot {spot : Spot} (valid : ∀ name ∈ spot, isName name = true) :
    (Settings.file (Path.ofSpot spot)).text = FileSystem.spotText (spot ++ [Settings.fileName]) := by
  have more : ∀ name ∈ spot ++ [Settings.fileName], isName name = true := by
    intro name member
    rcases List.mem_append.1 member with above | last
    · exact valid name above
    · rw [List.mem_singleton.1 last]
      decide
  have file : Settings.file (Path.ofSpot spot) = Path.ofSpot (spot ++ [Settings.fileName]) := by
    have parts := Settings.file_parts (Path.ofSpot spot)
    rw [Path.ofSpot_eq valid] at parts ⊢
    rw [Path.ofSpot_eq more, Path.mk.injEq]
    exact parts
  rw [file, Path.text_ofSpot more]

/-- The process stands in a directory that is still there. -/
structure Machine.OffersSettings (machine : Machine) : Prop where
  tree : machine.files.IsTree
  alive : machine.files.isAlive machine.cwd = true
  clean : holdsNul (FileSystem.spotText (machine.cwd.spot ++ [Settings.fileName])) = false

/-- A regular file with some content is the settings file of the current directory. -/
structure Machine.KeepsSettings (machine : Machine) (number : Nat) (content : Content) : Prop
    extends machine.OffersSettings where
  entry : machine.files.entryAt? (machine.cwd.spot ++ [Settings.fileName]) = some (.file number)
  held : machine.files.content? number = some content

/-- The settings file of the current directory. -/
def Machine.settingsFile (machine : Machine) : Path := Settings.file (Path.ofSpot machine.cwd.spot)

namespace Machine

variable {machine : Machine} {number : Nat} {content : Content}

theorem OffersSettings.isDirectory (offers : machine.OffersSettings) :
    machine.files.isDirectory machine.cwd.spot = true :=
  FileSystem.isDirectory_of_isAlive offers.alive

theorem OffersSettings.text_settingsFile (offers : machine.OffersSettings) :
    machine.settingsFile.text = FileSystem.spotText (machine.cwd.spot ++ [Settings.fileName]) := by
  obtain ⟨serial, mode, entry⟩ := FileSystem.entryAt?_of_isDirectory offers.isDirectory
  have valid : ∀ name ∈ machine.cwd.spot, isName name = true := fun name member =>
    (offers.tree.isSpot entry name member).1
  exact Settings.text_file_ofSpot valid

theorem OffersSettings.clean_settingsFile (offers : machine.OffersSettings) :
    holdsNul machine.settingsFile.text = false :=
  offers.text_settingsFile ▸ offers.clean

/-- The path of the settings file is not too long. -/
def ReachesSettings (machine : Machine) : Prop :=
  machine.settingsFile.text.utf8ByteSize < FileSystem.pathLimit

instance (machine : Machine) : Decidable machine.ReachesSettings :=
  inferInstanceAs (Decidable (_ < _))

theorem OffersSettings.locate (offers : machine.OffersSettings) (short : machine.ReachesSettings) (follow : Bool) :
    machine.files.locate machine.cwd follow machine.settingsFile.text =
      machine.files.walkOn follow FileSystem.mostLinks machine.cwd.spot [Settings.fileName] := by
  rw [ReachesSettings, offers.text_settingsFile] at short
  rw [offers.text_settingsFile]
  exact offers.tree.locate_child offers.isDirectory (by decide) short machine.cwd follow

theorem KeepsSettings.locate (keeps : machine.KeepsSettings number content) (short : machine.ReachesSettings)
    (follow : Bool) :
    machine.files.locate machine.cwd follow machine.settingsFile.text =
      .ok (.occupied (machine.cwd.spot ++ [Settings.fileName])) := by
  rw [keeps.toOffersSettings.locate short]
  refine FileSystem.walkOn_of_arrived _ ?_
  rw [FileSystem.walk_down follow [] keeps.isDirectory (by decide) (by decide) (by decide),
    FileSystem.signAt?, keeps.entry]
  rfl

theorem KeepsSettings.status (keeps : machine.KeepsSettings number content) (short : machine.ReachesSettings) :
    machine.files.status machine.cwd machine.settingsFile.text = .ok (.file content) :=
  FileSystem.status_of_file (keeps.locate short true) keeps.entry keeps.held

theorem KeepsSettings.perform_loadSettings (keeps : machine.KeepsSettings number content)
    (short : machine.ReachesSettings) :
    Action.perform (Action.loadSettings (Path.ofSpot machine.cwd.spot)) machine =
      ((Settings.read machine.settingsFile content.bytes).mapError .settings, machine) :=
  Action.perform_loadSettings machine keeps.clean_settingsFile (keeps.status short)

/-- The machine after the file got other bytes. -/
def rewritten (machine : Machine) (number : Nat) (content : Content) (bytes : Text.Bytes) : Machine :=
  { machine with files := machine.files.putContent number { content with bytes := bytes } }

theorem KeepsSettings.perform_writeFile (keeps : machine.KeepsSettings number content)
    (short : machine.ReachesSettings) (bytes : Text.Bytes) :
    Action.perform (Action.writeFile machine.settingsFile bytes) machine =
      (.ok (), machine.rewritten number content bytes) :=
  Action.perform_change keeps.clean_settingsFile
    (FileSystem.writeFile_of_file (keeps.locate short true) keeps.entry keeps.held fun _ => bytes)

theorem KeepsSettings.rewritten (keeps : machine.KeepsSettings number content) (bytes : Text.Bytes) :
    (machine.rewritten number content bytes).KeepsSettings number { content with bytes := bytes } where
  tree := keeps.tree.congr fun _ => rfl
  alive := keeps.alive
  clean := keeps.clean
  entry := keeps.entry
  held := by
    have held := FileSystem.content?_putContent machine.files number number { content with bytes := bytes }
    rwa [if_pos rfl] at held

theorem KeepsSettings.withRecords (keeps : machine.KeepsSettings number content) (emissions : List Emission)
    (events : List Event) :
    (Machine.mk machine.files machine.cwd emissions events).KeepsSettings number content where
  tree := keeps.tree
  alive := keeps.alive
  clean := keeps.clean
  entry := keeps.entry
  held := keeps.held

end Machine

namespace CommandLine

variable {machine : Machine} {number : Nat} {content : Content} {settings : Settings} {words : List String}

/-- Words that `init` can read come to what it does in the context that is opened. -/
theorem perform_status_init {rest : List String} {given : List Given} {makeContext : Action Context}
    {context : Context} (surroundings : Surroundings) (asks : AskFor words .init rest)
    (read : readWords Command.init.vocabulary true rest = .ok (given, []))
    (none : given.find? isRequest = none) (unnamed : lastBookDir? given = Option.none)
    (opened : Action.perform makeContext machine = (.ok context, machine)) :
    Action.perform (status surroundings makeContext words) machine =
      match Action.perform (runInit context given) machine with
      | (ending, after) =>
        (exitOf ending, { after with emissions := after.emissions ++ farewell ending }) := by
  have chosen : Action.perform (bookDir? .init given) machine = (.ok Option.none, machine) := by
    rw [bookDir?_of_none .init unnamed, Action.perform_pure]
  have heeded := perform_heed surroundings read none chosen
  rw [perform_status_eq, perform_of_askFor asks, Action.perform_bind, opened]
  simp only [run_eq, Action.perform_bind, heeded]
  rfl

/-- What is told once the file is written. -/
def wroteLine (file : Path) : Emission := .notice (Action.shown ("✓ Wrote " ++ file.text) true)

theorem perform_runInit_of_force {context : Context} (keeps : machine.KeepsSettings number content)
    (short : machine.ReachesSettings) (here : context.cwd = Path.ofSpot machine.cwd.spot) {given : List Given}
    (force : given.contains .force = true) :
    Action.perform (runInit context given) machine =
      (.ok (), { machine.rewritten number content (Text.encodeUtf8 Settings.default.write) with
        emissions := machine.emissions ++ [wroteLine machine.settingsFile] }) := by
  have saved : Action.perform (Action.saveSettings context.cwd Settings.default) machine =
      (.ok machine.settingsFile,
        machine.rewritten number content (Text.encodeUtf8 Settings.default.write)) := by
    rw [here]
    exact Action.perform_saveSettings (keeps.perform_writeFile short _)
  simp only [runInit, force, Bool.not_true, Bool.false_eq_true, if_false, Action.perform_bind, saved]
  rfl

theorem perform_status_of_force (keeps : machine.KeepsSettings number content) (short : machine.ReachesSettings)
    (asks : AskFor words .init ["--force"])
    (accepted : Settings.read machine.settingsFile content.bytes = .ok settings) (surroundings : Surroundings)
    (workbench : Workbench) :
    Action.perform (status surroundings (openContext workbench) words) machine =
      (.ok 0, { machine.rewritten number content (Text.encodeUtf8 Settings.default.write) with
        emissions := machine.emissions ++ [wroteLine machine.settingsFile] }) := by
  have loaded := keeps.perform_loadSettings short
  rw [accepted] at loaded
  have opened := perform_openContext_of_loaded keeps.alive loaded workbench
  have read : readWords Command.init.vocabulary true ["--force"] = .ok ([.force], []) := rfl
  rw [perform_status_init surroundings asks read rfl rfl opened, perform_runInit_of_force keeps short rfl rfl]
  simp only [farewell, List.append_nil]
  rfl

theorem perform_status_of_unreached {rest : List String} {command : Command} (offers : machine.OffersSettings)
    (long : ¬ machine.ReachesSettings) (asks : AskFor words command rest) (surroundings : Surroundings)
    (workbench : Workbench) :
    Action.perform (status surroundings (openContext workbench) words) machine =
      (.error (.refused .nameTooLong (.name machine.settingsFile.text)), machine) := by
  have here := Action.perform_currentDirectory offers.alive
  have loaded := Action.perform_loadSettings_of_long machine offers.clean_settingsFile (Nat.le_of_not_lt long)
  have opened : Action.perform (openContext workbench) machine =
      (.error (.refused .nameTooLong (.name machine.settingsFile.text)), machine) := by
    simp only [openContext, Action.perform_bind, Action.perform_attempt, Context.create, here, loaded]
    rfl
  rw [perform_status asks, Action.perform_bind, opened]
  rfl

/-- Over a regular file the built-in settings are written if the file can be loaded, whatever it says. Nothing
else changes, what is loaded afterwards are the built-in settings with that file as their source, and to do it
again changes nothing. A file whose values are at fault is told of, and nothing changes at all. A path that is
too long reaches no file. -/
theorem init_force_recovers (keeps : machine.KeepsSettings number content)
    (asks : AskFor words .init ["--force"]) (surroundings : Surroundings) (workbench : Workbench) :
    if machine.ReachesSettings then
      match Settings.read machine.settingsFile content.bytes with
      | .ok _ => ∃ files,
          Action.perform (status surroundings (openContext workbench) words) machine =
            (.ok 0, ⟨files, machine.cwd, machine.emissions ++ [wroteLine machine.settingsFile],
              machine.events⟩) ∧
          (∀ spot, files.entryAt? spot = machine.files.entryAt? spot) ∧
          (∀ other, files.content? other =
            if number = other then some ⟨Text.encodeUtf8 Settings.default.write, content.mode⟩
            else machine.files.content? other) ∧
          ∀ emissions events,
            (Action.perform (Action.loadSettings (Path.ofSpot machine.cwd.spot))
                ⟨files, machine.cwd, emissions, events⟩).1 =
              .ok { Settings.default with source := some machine.settingsFile } ∧
            Action.perform (status surroundings (openContext workbench) words)
                ⟨files, machine.cwd, emissions, events⟩ =
              (.ok 0, ⟨files, machine.cwd, emissions ++ [wroteLine machine.settingsFile], events⟩)
      | .error fault => fault.isValueFault = true →
          Action.perform (status surroundings (openContext workbench) words) machine =
            (.ok 1, ⟨machine.files, machine.cwd,
              machine.emissions ++ [.notice (Action.shown ("Error: " ++ fault.message) true)],
              machine.events⟩)
    else
      Action.perform (status surroundings (openContext workbench) words) machine =
        (.error (.refused .nameTooLong (.name machine.settingsFile.text)), machine) := by
  split
  · next short =>
    cases read : Settings.read machine.settingsFile content.bytes with
    | ok settings =>
      refine ⟨_, perform_status_of_force keeps short asks read surroundings workbench, fun _ => rfl,
        fun other => FileSystem.content?_putContent _ _ other _, fun emissions events => ?_⟩
      have again := (keeps.rewritten (Text.encodeUtf8 Settings.default.write)).withRecords emissions events
      have back := (Settings.read_write machine.settingsFile Settings.default).1 Action.default_complete
      constructor
      · have loaded := again.perform_loadSettings short
        exact (congrArg Prod.fst loaded).trans (congrArg (Except.mapError Failure.settings) back)
      · have twice := perform_status_of_force again short asks back surroundings workbench
        refine twice.trans ?_
        -- the bytes that are written the second time are there already
        simp only [Machine.rewritten, FileSystem.putContent_putContent]
        rfl
    | error fault =>
      intro told
      have loaded := keeps.perform_loadSettings short
      rw [read] at loaded
      rw [perform_status_of_refused asks surroundings workbench ⟨keeps.alive, rfl⟩ loaded, if_pos told]
  · next long => exact perform_status_of_unreached keeps.toOffersSettings long asks surroundings workbench

theorem keepsSettings_projectWith (text : String) :
    (Action.projectWith text).KeepsSettings Machine.atProject.files.next
      ⟨Text.encodeUtf8 text.toList, FileSystem.fileMode⟩ := by
  have empty : (Action.projectWith "").KeepsSettings Machine.atProject.files.next ⟨[], FileSystem.fileMode⟩ :=
    ⟨⟨FileSystem.IsTree.of_entries (by decide), by decide, by decide⟩,
      by decide, by decide⟩
  have written : Action.projectWith text = (Action.projectWith "").rewritten Machine.atProject.files.next
      ⟨[], FileSystem.fileMode⟩ (Text.encodeUtf8 text.toList) := by
    with_unfolding_all rfl
  rw [written]
  exact empty.rewritten _

theorem init_force_recovers_command :
    ∃ files,
      Action.perform (status ⟨80, 0, 0⟩ (openContext (Rehearsal.workbench ⟨[], [], none, none, []⟩))
          ["init", "--force"]) (Action.projectWith "prebuild = [\"make\"]\n") =
        (.ok 0, ⟨files, ⟨["project"], 5⟩, [wroteLine (Path.parse "/project/bookbuild.toml")], []⟩) ∧
      (Action.perform (Action.loadSettings (Path.parse "/project")) ⟨files, ⟨["project"], 5⟩, [], []⟩).1 =
        .ok { Settings.default with source := some (Path.parse "/project/bookbuild.toml") } := by
  have recovers := init_force_recovers (keepsSettings_projectWith "prebuild = [\"make\"]\n")
    (askFor_name .init ["--force"]) ⟨80, 0, 0⟩ (Rehearsal.workbench ⟨[], [], none, none, []⟩)
  rw [if_pos (by decide +kernel)] at recovers
  have accepted : (Settings.read (Action.projectWith "prebuild = [\"make\"]\n").settingsFile
      (Text.encodeUtf8 "prebuild = [\"make\"]\n".toList)).isOk = true := by
    decide +kernel
  split at recovers
  · obtain ⟨files, ended, _, _, after⟩ := recovers
    exact ⟨files, ended, (after [] []).1⟩
  · next fault refused =>
    rw [refused] at accepted
    cases accepted

/-- A file that is no settings file at all is told of before any command is heeded, and stays. -/
theorem init_force_not_always_recovers :
    ¬ ∀ machine number content surroundings workbench, Machine.KeepsSettings machine number content →
      (Action.perform (status surroundings (openContext workbench) ["init", "--force"]) machine).1 =
        .ok 0 := by
  intro always
  have recovers := always (Action.projectWith "[\n") _ _ ⟨80, 0, 0⟩
    (Rehearsal.workbench ⟨[], [], none, none, []⟩) (keepsSettings_projectWith "[\n")
  have ended : (Action.perform (status ⟨80, 0, 0⟩ (openContext (Rehearsal.workbench ⟨[], [], none, none, []⟩))
      ["init", "--force"]) (Action.projectWith "[\n")).1.toOption = some 1 := by
    decide +kernel
  rw [recovers] at ended
  cases ended

end CommandLine

end Bookbinder
