import Mathlib
import Bookbinder.Proofs.CommandLine.Words
import Bookbinder.Proofs.Machine.Visits
import Bookbinder.Proofs.Settings.Reload
import Bookbinder.Workbench.Rehearsal

/-!
What is said about a settings file whose values are at fault. Main statement: whatever table a file holds,
the settings are those of its values, or else the message names the file and the first key whose value is
not as it should be; except for a template that asks for an index which is no number.
-/

set_option autoImplicit false

namespace Bookbinder.Settings

inductive Demand where
  | text
  | texts
  | table
  deriving DecidableEq, Repr

def Demand.admits : Demand → Toml.Value → Bool
  | .text, .text value => value != ""
  | .texts, .array items => !items.isEmpty && items.all fun item => (textOf? item).isSome
  | .table, .table _ => true
  | _, _ => false

/-- What is demanded of the value of a key, in the table of the tool or outside of it. -/
structure Check where
  key : String
  inTool : Bool
  demand : Demand
  deriving DecidableEq, Repr

def checks : List Check :=
  [⟨"book_dir", false, .text⟩, ⟨"prebuild", false, .texts⟩, ⟨"tool", false, .table⟩,
    ⟨"name", true, .text⟩, ⟨"version", true, .text⟩, ⟨"platform", true, .text⟩,
    ⟨"url_template", true, .text⟩]

def toolOf (table : Toml.Table) : Toml.Table :=
  match table.get? "tool" with
  | some (.table inner) => inner
  | _ => []

def Check.value? (check : Check) (table : Toml.Table) : Option Toml.Value :=
  (if check.inTool then toolOf table else table).get? check.key

/-- A value that is left out is never at fault. -/
def Check.fails (check : Check) (table : Toml.Table) : Bool :=
  (check.value? table).any fun value => !check.demand.admits value

def Check.fault (check : Check) (file : Path) : Fault :=
  match check.demand with
  | .text => .notText check.key file
  | .texts => .notTexts check.key file
  | .table => .notTable check.key file

def textAt (table : Toml.Table) (key fallback : String) : String :=
  ((table.get? key).bind textOf?).getD fallback

def textsAt (table : Toml.Table) (key : String) (fallback : List String) : List String :=
  match table.get? key with
  | some (.array items) => items.filterMap textOf?
  | _ => fallback

/-- The release that a table describes if nothing in it is at fault. -/
def releaseOf (table : Toml.Table) : Release where
  name := textAt (toolOf table) "name" defaultRelease.name
  version := textAt (toolOf table) "version" defaultRelease.version
  platform := textAt (toolOf table) "platform" defaultRelease.platform
  template := textAt (toolOf table) "url_template" defaultRelease.template

def valuesOf (file : Path) (table : Toml.Table) : Settings where
  bookDir := Path.parse (textAt table "book_dir" defaultBookDir)
  prebuild := textsAt table "prebuild" defaultPrebuild
  release := releaseOf table
  source := some file

section

variable {table : Toml.Table} {key fallback : String} (file : Path)

theorem requireText_eq :
    requireText table key fallback file =
      if (table.get? key).any fun value => !Demand.text.admits value then .error (.notText key file)
      else .ok (textAt table key fallback) := by
  unfold requireText textAt
  rcases table.get? key with _ | value
  · rfl
  · cases value with
    | text value => by_cases empty : value = "" <;> simp [Demand.admits, empty, textOf?]
    | _ => simp [Demand.admits]

theorem mapM_textOf?_eq (items : List Toml.Value) :
    items.mapM textOf? =
      if items.all fun item => (textOf? item).isSome then some (items.filterMap textOf?) else none := by
  induction items with
  | nil => rfl
  | cons item rest ih =>
    rw [List.mapM_cons, ih]
    cases text : textOf? item with
    | none => simp [text]
    | some value => by_cases all : (rest.all fun item => (textOf? item).isSome) = true <;> simp [text, all]

theorem requireTexts_eq {fallback : List String} :
    requireTexts table key fallback file =
      if (table.get? key).any fun value => !Demand.texts.admits value then .error (.notTexts key file)
      else .ok (textsAt table key fallback) := by
  unfold requireTexts textsAt
  rcases table.get? key with _ | value
  · rfl
  · cases value with
    | array items =>
      simp only [mapM_textOf?_eq]
      by_cases all : (items.all fun item => (textOf? item).isSome) = true
      · cases items with
        | nil => rfl
        | cons item rest =>
          have first : (textOf? item).isSome = true := by simp_all
          obtain ⟨value, text⟩ := Option.isSome_iff_exists.1 first
          simp [Demand.admits, text, all]
      · simp [Demand.admits, all]
    | _ => simp [Demand.admits]

theorem requireTable_eq :
    requireTable table key file =
      if (table.get? key).any fun value => !Demand.table.admits value then .error (.notTable key file)
      else .ok (match table.get? key with
        | some (.table inner) => inner
        | _ => []) := by
  unfold requireTable
  rcases table.get? key with _ | value
  · rfl
  · cases value <;> simp [Demand.admits]

end

/-- The first check that fails tells what is wrong; if none does, the template is filled in. -/
theorem ofTable_eq (file : Path) (table : Toml.Table) :
    ofTable file table =
      match checks.find? fun check => check.fails table with
      | some check => .error (check.fault file)
      | none =>
        match (releaseOf table).url with
        | .error fault => .error (.template "url_template" file fault)
        | .ok _ => .ok (valuesOf file table) := by
  have bookDir : requireText table "book_dir" defaultBookDir file =
      if Check.fails ⟨"book_dir", false, .text⟩ table then .error (.notText "book_dir" file)
      else .ok (textAt table "book_dir" defaultBookDir) := requireText_eq file
  have prebuild : requireTexts table "prebuild" defaultPrebuild file =
      if Check.fails ⟨"prebuild", false, .texts⟩ table then .error (.notTexts "prebuild" file)
      else .ok (textsAt table "prebuild" defaultPrebuild) := requireTexts_eq file
  have tool : requireTable table "tool" file =
      if Check.fails ⟨"tool", false, .table⟩ table then .error (.notTable "tool" file)
      else .ok (toolOf table) := requireTable_eq file
  have inTool (key fallback : String) : requireText (toolOf table) key fallback file =
      if Check.fails ⟨key, true, .text⟩ table then .error (.notText key file)
      else .ok (textAt (toolOf table) key fallback) := requireText_eq file
  unfold ofTable
  simp only [bookDir, prebuild, tool, bind, Except.bind, pure, Except.pure, checks,
    List.find?_cons, List.find?_nil]
  -- the values are checked in this order, and the tool is looked into only if it is a table
  cases Check.fails ⟨"book_dir", false, .text⟩ table with
  | true => rfl
  | false =>
    cases Check.fails ⟨"prebuild", false, .texts⟩ table with
    | true => rfl
    | false =>
      cases Check.fails ⟨"tool", false, .table⟩ table with
      | true => rfl
      | false =>
        simp only [Bool.false_eq_true, if_false, inTool]
        cases Check.fails ⟨"name", true, .text⟩ table with
        | true => rfl
        | false =>
          cases Check.fails ⟨"version", true, .text⟩ table with
          | true => rfl
          | false =>
            cases Check.fails ⟨"platform", true, .text⟩ table with
            | true => rfl
            | false => cases Check.fails ⟨"url_template", true, .text⟩ table <;> rfl

/-- A value that is not as it should be, or a template that cannot be filled in. -/
def Offends (table : Toml.Table) (key : String) : Prop :=
  (∃ check ∈ checks, check.key = key ∧ check.fails table = true) ∨
    (key = "url_template" ∧ ∃ fault, (releaseOf table).url = .error fault)

/-- A message names a file, and a key of it. -/
def Tells (message key : String) (file : Path) : Prop :=
  ∃ demand reason, message = "'" ++ key ++ "' must " ++ demand ++ " in " ++ file.text ++ reason

theorem tells_fault (check : Check) (file : Path) : Tells (check.fault file).message check.key file := by
  obtain ⟨key, inTool, demand⟩ := check
  cases demand with
  | text => exact ⟨"be a non-empty string", "", by simp [Check.fault, Fault.message, String.append_assoc]⟩
  | texts =>
    exact ⟨"be a non-empty list of strings", "", by simp [Check.fault, Fault.message, String.append_assoc]⟩
  | table => exact ⟨"be a table", "", by simp [Check.fault, Fault.message, String.append_assoc]⟩

theorem isValueFault_fault (check : Check) (file : Path) : (check.fault file).isValueFault = true := by
  obtain ⟨key, inTool, demand⟩ := check
  cases demand <;> rfl

theorem tells_template (file : Path) {fault : Template.Fault} (kind : fault.kind ≠ .wrongIndexType) :
    Tells (Fault.template "url_template" file fault).message "url_template" file :=
  ⟨"only use \x7bname\x7d, \x7bversion\x7d and \x7bplatform\x7d", " (" ++ fault.report ++ ")", by
    simp [Fault.message, kind, String.append_assoc]⟩

theorem eq_indexNotNumber {fault : Template.Fault} (kind : fault.kind = .wrongIndexType) :
    fault = .indexNotNumber := by
  cases fault <;> first | rfl | cases kind

/-- What a table comes to: settings, a fault that names its key, or an index that is no number. -/
theorem ofTable_cases (file : Path) (table : Toml.Table) :
    (∃ settings, ofTable file table = .ok settings ∧ ∀ key, ¬ Offends table key) ∨
    (∃ fault key, ofTable file table = .error fault ∧ fault.isValueFault = true ∧ Offends table key ∧
      Tells fault.message key file) ∨
    (ofTable file table = .error (.template "url_template" file .indexNotNumber) ∧
      (∀ check ∈ checks, check.fails table = false) ∧
      (releaseOf table).url = .error .indexNotNumber) := by
  rw [ofTable_eq]
  cases first : checks.find? fun check => check.fails table with
  | some check =>
    have fails : check.fails table = true := by
      have holds := List.find?_some first
      exact holds
    have offends : Offends table check.key :=
      .inl ⟨check, List.mem_of_find?_eq_some first, rfl, fails⟩
    exact .inr (.inl ⟨_, check.key, rfl, isValueFault_fault check file, offends, tells_fault check file⟩)
  | none =>
    have passes : ∀ check ∈ checks, check.fails table = false := by simpa using first
    cases filled : (releaseOf table).url with
    | ok url =>
      refine .inl ⟨_, rfl, ?_⟩
      rintro key (⟨check, member, _, fails⟩ | ⟨_, fault, refused⟩)
      · rw [passes check member] at fails
        cases fails
      · rw [filled] at refused
        cases refused
    | error fault =>
      by_cases kind : fault.kind = .wrongIndexType
      · cases eq_indexNotNumber kind
        exact .inr (.inr ⟨rfl, passes, rfl⟩)
      · refine .inr (.inl ⟨_, "url_template", rfl, by simp [Fault.isValueFault, kind], ?_, ?_⟩)
        · exact .inr ⟨rfl, fault, filled⟩
        · exact tells_template file kind

end Bookbinder.Settings

namespace Bookbinder

/-- A settings file that holds a table lies in a directory. -/
structure Machine.HoldsSettings (machine : Machine) (directory : Path) (table : Toml.Table) : Prop where
  clean : holdsNul (Settings.file directory).text = false
  file : ∃ content text,
    machine.files.status machine.cwd (Settings.file directory).text = .ok (.file content) ∧
      Text.decodeUtf8 content.bytes = .ok text ∧ Toml.parse (Text.unifyNewlines text) = .ok table

theorem Machine.HoldsSettings.perform_loadSettings {machine : Machine} {directory : Path}
    {table : Toml.Table} (holds : machine.HoldsSettings directory table) :
    Action.perform (Action.loadSettings directory) machine =
      ((Settings.ofTable (Settings.file directory) table).mapError .settings, machine) := by
  obtain ⟨content, text, found, decoded, parsed⟩ := holds.file
  rw [Action.perform_loadSettings machine holds.clean found, Settings.read, decoded]
  simp only [Settings.parse, parsed]

/-- The process stands in a directory, which is still there. -/
structure Machine.StandsIn (machine : Machine) (directory : Path) : Prop where
  alive : machine.files.isAlive machine.cwd = true
  same : directory = Path.ofSpot machine.cwd.spot

namespace CommandLine

variable {machine : Machine} {directory : Path} {words rest : List String} {command : Command}
  {fault : Settings.Fault}

theorem perform_create_of_refused (workbench : Workbench) (stands : machine.StandsIn directory)
    (refused : Action.perform (Action.loadSettings directory) machine = (.error (.settings fault), machine)) :
    Action.perform (Context.create workbench) machine = (.error (.settings fault), machine) := by
  rw [Context.create, Action.perform_bind, Action.perform_currentDirectory stands.alive, ← stands.same]
  simp only [Action.perform_bind, refused]

/-- Settings whose values are at fault end every command before it does anything. -/
theorem perform_status_of_refused (asks : AskFor words command rest) (surroundings : Surroundings)
    (workbench : Workbench) (stands : machine.StandsIn directory)
    (refused : Action.perform (Action.loadSettings directory) machine = (.error (.settings fault), machine)) :
    Action.perform (status surroundings (openContext workbench) words) machine =
      if fault.isValueFault then
        (.ok 1, { machine with
          emissions := machine.emissions ++ [.notice (Action.shown ("Error: " ++ fault.message) true)] })
      else (.error (.settings fault), machine) := by
  have opened : Action.perform (openContext workbench) machine =
      if fault.isValueFault then
        (.error (.exit 1), { machine with
          emissions := machine.emissions ++ [.notice (Action.shown ("Error: " ++ fault.message) true)] })
      else (.error (.settings fault), machine) := by
    rw [openContext, Action.perform_bind, Action.perform_attempt,
      perform_create_of_refused workbench stands refused]
    cases told : fault.isValueFault with
    | true => simp only [told]; rfl
    | false => simp only [told]; rfl
  rw [perform_status asks, Action.perform_bind, opened]
  cases fault.isValueFault with
  | true => rfl
  | false => rfl

end CommandLine

namespace Action

/-- A machine whose process stands in a project with a settings file. -/
def projectWith (text : String) : Machine :=
  (perform (writeFile (Settings.file (Path.parse "/project")) (Text.encodeUtf8 text.toList))
    Machine.atProject).2

theorem status_projectWith (text : String) :
    ∃ mode, (projectWith text).files.status (projectWith text).cwd (Settings.file (Path.parse "/project")).text =
      .ok (.file ⟨Text.encodeUtf8 text.toList, mode⟩) := by
  have offers : Machine.atProject.OffersFile (Settings.file (Path.parse "/project")) :=
    ⟨by decide, .inl ⟨["project"], "bookbuild.toml", rfl⟩⟩
  obtain ⟨after, mode, written, found⟩ := perform_writeFile offers (Text.encodeUtf8 text.toList)
  rw [projectWith, written]
  exact ⟨mode, found⟩

theorem holdsSettings_projectWith {text : String} {table : Toml.Table}
    (parsed : Toml.parse (Text.unifyNewlines text.toList) = .ok table) :
    (projectWith text).HoldsSettings (Path.parse "/project") table := by
  obtain ⟨mode, found⟩ := status_projectWith text
  exact ⟨by decide, _, text.toList, found, Text.decodeUtf8_encodeUtf8 text.toList, parsed⟩

end Action

end Bookbinder
