import Bookbinder.Proofs.Attempts
import Bookbinder.Proofs.Text.Encoding
import Bookbinder.Proofs.Toml.Entries

/-!
The file that settings are written to, read again. The written text is one statement after the other
for the reader of configuration texts; the values that it enters are checked as those of any file.
Main statements: written settings are read back just if they are complete, and whatever a file gives
is complete.
-/

set_option autoImplicit false

namespace Bookbinder.Settings

/-- The entries of a written file that stand above its table. -/
def topTable (settings : Settings) : Toml.Table :=
  [("book_dir", .text settings.bookDir.text), ("prebuild", .array (settings.prebuild.map .text))]

/-- What has been read of a written file when its table holds some entries. -/
def toolDocument (settings : Settings) (entries : Toml.Table) : Toml.Document where
  table := settings.topTable ++ [("tool", .table entries)]
  frozen := [["prebuild"]]
  declared := [["tool"]]
  header := ["tool"]

theorem enter_bookDir (value : Toml.Value) (text : value.isNested = false) :
    Toml.Document.enter {} ["book_dir"] value = .ok { table := [("book_dir", value)] } := by
  simp [Toml.Document.enter, Toml.Document.stems, Toml.isFrozen, Toml.Table.under, Toml.addEntry,
    Toml.Table.get?, Pairs.get?, text, bind, Except.bind, pure, Except.pure]

theorem enter_prebuild (settings : Settings) :
    Toml.Document.enter { table := [("book_dir", .text settings.bookDir.text)] } ["prebuild"]
        (.array (settings.prebuild.map .text)) =
      .ok { table := settings.topTable, frozen := [["prebuild"]] } := by
  simp [Toml.Document.enter, Toml.Document.stems, Toml.isFrozen, Toml.Table.under, Toml.addEntry,
    Toml.Table.get?, Pairs.get?, Toml.Value.isNested, topTable, bind, Except.bind, pure, Except.pure]

theorem openTable_tool (settings : Settings) :
    (Toml.Document.endSection { table := settings.topTable, frozen := [["prebuild"]] }).openTable
        ["tool"] = .ok (settings.toolDocument []) := by
  simp [Toml.Document.openTable, Toml.Document.endSection, Toml.Document.isDeclared, Toml.isFrozen,
    Toml.Table.under, Toml.Table.get?, Toml.Table.put, Pairs.get?, Pairs.put, topTable, toolDocument,
    bind, Except.bind, pure, Except.pure]

theorem enter_tool (settings : Settings) (entries : Toml.Table) (name value : String)
    (fresh : entries.get? name = none) :
    (settings.toolDocument entries).enter [name] (.text value) =
      .ok (settings.toolDocument (entries ++ [(name, .text value)])) := by
  have stems : Toml.Document.stems ["tool"] [name] = [] := rfl
  have absent : Pairs.get? entries name = none := fresh
  simp [Toml.Document.enter, stems, Toml.isFrozen, Toml.Table.under, Toml.addEntry,
    Toml.Table.get?, Toml.Table.put, Pairs.get?, Pairs.put, topTable, toolDocument,
    Toml.Value.isNested, absent, bind, Except.bind, pure, Except.pure]

/-- The table that a written file of settings describes. -/
def table (settings : Settings) : Toml.Table :=
  settings.topTable ++
    [("tool", .table [
      ("name", .text settings.release.name),
      ("version", .text settings.release.version),
      ("platform", .text settings.release.platform),
      ("url_template", .text settings.release.template)])]

/-- The comment at the top of a written file. -/
def heading : List Char := " bookbuild configuration".toList

/-- A written file, one statement after the other. -/
theorem write_eq (settings : Settings) :
    settings.write =
      '#' :: (heading ++ '\n' ::
        (entryLine "book_dir" (writeText settings.bookDir.text) ++
        (entryLine "prebuild" (writeTexts settings.prebuild) ++
        ('\n' :: '[' :: ("tool".toList ++ ']' :: '\n' ::
        (entryLine "name" (writeText settings.release.name) ++
        (entryLine "version" (writeText settings.release.version) ++
        (entryLine "platform" (writeText settings.release.platform) ++
        (entryLine "url_template" (writeText settings.release.template) ++ []))))))))) := by
  have first : "# bookbuild configuration\n".toList = '#' :: (heading ++ ['\n']) := by decide
  have second : "\n[tool]\n".toList = '\n' :: '[' :: ("tool".toList ++ [']', '\n']) := by decide
  unfold write
  simp only [first, second, List.append_assoc, List.cons_append, List.nil_append, List.append_nil]

open Toml in
theorem readStatements_write (settings : Settings) (budget : Nat) :
    ∃ document, readStatements (budget + 10) {} settings.write = .ok document ∧
      document.table = settings.table := by
  rw [write_eq, readStatements_comment _ _ _ (List.all_eq_true.1 (by decide)) (by decide),
    readStatements_text _ _ (by decide) (enter_bookDir _ rfl),
    readStatements_texts _ _ (by decide) (enter_prebuild settings),
    readStatements_newline, readStatements_header _ _ (by decide) (openTable_tool settings),
    readStatements_text _ _ (by decide) (enter_tool settings _ _ _ rfl),
    readStatements_text _ _ (by decide) (enter_tool settings _ _ _ rfl),
    readStatements_text _ _ (by decide) (enter_tool settings _ _ _ rfl),
    readStatements_text _ _ (by decide) (enter_tool settings _ _ _ rfl),
    readStatements_nil]
  exact ⟨_, rfl, rfl⟩

theorem return_notMem_writeChar (c : Char) : '\r' ∉ Toml.writeChar c := by
  have digit : ∀ value, value < 16 → Text.hexDigit value ≠ '\r' := by decide
  have digits (count code : Nat) : '\r' ∉ Text.hexDigits count code := by
    induction count generalizing code with
    | zero => simp [Text.hexDigits]
    | succ count ih =>
      simp only [Text.hexDigits, List.mem_append, List.mem_singleton, not_or]
      exact ⟨ih _, (digit _ (Nat.mod_lt _ (by decide))).symm⟩
  unfold Toml.writeChar
  by_cases return' : c = '\r'
  · simp [return']
  repeat' split
  all_goals first
    | decide
    | simpa using digits 4 c.toNat
    | simpa using Ne.symm return'

theorem return_notMem_writeText (value : String) : '\r' ∉ writeText value := by
  have body : '\r' ∉ value.toList.flatMap Toml.writeChar := by
    simp only [List.mem_flatMap, not_exists, not_and]
    exact fun c _ => return_notMem_writeChar c
  simpa [writeText, Toml.writeBasic] using body

theorem return_notMem_writeTexts (values : List String) : '\r' ∉ writeTexts values := by
  have joined : '\r' ∉ Text.joinWith ", ".toList (values.map writeText) := by
    induction values with
    | nil => simp [Text.joinWith]
    | cons first others ih =>
      cases others with
      | nil => exact return_notMem_writeText first
      | cons second others =>
        simp only [List.map_cons, Text.joinWith, List.mem_append, not_or] at ih ⊢
        exact ⟨⟨return_notMem_writeText first, by decide⟩, ih⟩
  simpa [writeTexts] using joined

theorem return_notMem_entryLine {key : String} {value : List Char} (inKey : '\r' ∉ key.toList)
    (inValue : '\r' ∉ value) : '\r' ∉ entryLine key value := by
  simp [entryLine, inKey, inValue]

/-- What is written keeps its line ends when it is read as text. -/
theorem return_notMem_write (settings : Settings) : '\r' ∉ settings.write := by
  have line (key : String) (inKey : '\r' ∉ key.toList) (value : String) :=
    return_notMem_entryLine inKey (return_notMem_writeText value)
  have listed : '\r' ∉ entryLine "prebuild" (writeTexts settings.prebuild) :=
    return_notMem_entryLine (by decide) (return_notMem_writeTexts settings.prebuild)
  have top : '\r' ∉ heading := by decide
  rw [write_eq]
  simp only [List.mem_cons, List.mem_append, not_or, top, listed, line "book_dir" (by decide),
    line "name" (by decide), line "version" (by decide), line "platform" (by decide),
    line "url_template" (by decide)]
  decide

theorem parse_write (settings : Settings) :
    Toml.parse (Text.unifyNewlines settings.write) = .ok settings.table := by
  have long : 9 ≤ settings.write.length := by
    have top : heading.length = 24 := by decide
    rw [write_eq]
    simp only [List.length_cons, List.length_append, top]
    omega
  obtain ⟨budget, enough⟩ : ∃ budget, settings.write.length + 1 = budget + 10 :=
    ⟨settings.write.length - 9, by omega⟩
  obtain ⟨document, read, holds⟩ := readStatements_write settings budget
  rw [Text.unifyNewlines_of_notMem (return_notMem_write settings), Toml.parse, enough, read, ← holds]

/-- Settings that a file may give: none of their texts is empty, there is a command to prepare the
build, and the address of the release can be filled in. -/
structure Complete (settings : Settings) : Prop where
  prebuild : settings.prebuild ≠ []
  name : settings.release.name ≠ ""
  version : settings.release.version ≠ ""
  platform : settings.release.platform ≠ ""
  template : settings.release.template ≠ ""
  url : ∃ url, settings.release.url = .ok url

theorem requireText_of_get? {table : Toml.Table} {key value : String} (fallback : String) (file : Path)
    (held : table.get? key = some (.text value)) :
    requireText table key fallback file =
      if value = "" then .error (.notText key file) else .ok value := by
  simp only [requireText, held]

theorem mapM_textOf? (values : List String) :
    (values.map Toml.Value.text).mapM textOf? = some values := by
  induction values with
  | nil => rfl
  | cons first others ih =>
    rw [List.map_cons, List.mapM_cons, ih]
    rfl

theorem requireTexts_of_get? {table : Toml.Table} {key : String} {values : List String}
    (fallback : List String) (file : Path)
    (held : table.get? key = some (.array (values.map .text))) :
    requireTexts table key fallback file =
      if values = [] then .error (.notTexts key file) else .ok values := by
  have texts := mapM_textOf? values
  cases values with
  | nil => simp only [requireTexts, held, texts, if_true]
  | cons first others => simp only [requireTexts, held, texts, reduceCtorEq, if_false]

/-- The entries of the table of a written file. -/
def toolTable (settings : Settings) : Toml.Table :=
  [("name", .text settings.release.name), ("version", .text settings.release.version),
    ("platform", .text settings.release.platform), ("url_template", .text settings.release.template)]

/-- The settings that were written, or the first fault of their values. -/
theorem ofTable_table (file : Path) (settings : Settings) :
    ofTable file settings.table =
      if settings.prebuild = [] then .error (.notTexts "prebuild" file)
      else if settings.release.name = "" then .error (.notText "name" file)
      else if settings.release.version = "" then .error (.notText "version" file)
      else if settings.release.platform = "" then .error (.notText "platform" file)
      else if settings.release.template = "" then .error (.notText "url_template" file)
      else
        match settings.release.url with
        | .error fault => .error (.template "url_template" file fault)
        | .ok _ => .ok { settings with source := some file } := by
  have bookDir : requireText settings.table "book_dir" defaultBookDir file =
      .ok settings.bookDir.text := by
    rw [requireText_of_get? defaultBookDir file rfl, if_neg settings.bookDir.text_ne_empty]
  have prebuild : requireTexts settings.table "prebuild" defaultPrebuild file = _ :=
    requireTexts_of_get? defaultPrebuild file rfl
  have tool : requireTable settings.table "tool" file = .ok settings.toolTable := rfl
  have name : requireText settings.toolTable "name" defaultRelease.name file = _ :=
    requireText_of_get? defaultRelease.name file rfl
  have version : requireText settings.toolTable "version" defaultRelease.version file = _ :=
    requireText_of_get? defaultRelease.version file rfl
  have platform : requireText settings.toolTable "platform" defaultRelease.platform file = _ :=
    requireText_of_get? defaultRelease.platform file rfl
  have template : requireText settings.toolTable "url_template" defaultRelease.template file = _ :=
    requireText_of_get? defaultRelease.template file rfl
  unfold ofTable
  simp only [bookDir, prebuild, tool, name, version, platform, template, Path.parse_text, bind,
    Except.bind, pure, Except.pure, throw, throwThe, MonadExceptOf.throw]
  by_cases noPrebuild : settings.prebuild = []
  · simp only [noPrebuild, if_true]
  by_cases noName : settings.release.name = ""
  · simp only [noPrebuild, noName, if_true, if_false]
  by_cases noVersion : settings.release.version = ""
  · simp only [noPrebuild, noName, noVersion, if_true, if_false]
  by_cases noPlatform : settings.release.platform = ""
  · simp only [noPrebuild, noName, noVersion, noPlatform, if_true, if_false]
  by_cases noTemplate : settings.release.template = ""
  · simp only [noPrebuild, noName, noVersion, noPlatform, noTemplate, if_true, if_false]
  cases url : settings.release.url with
  | error fault => simp only [noPrebuild, noName, noVersion, noPlatform, noTemplate, if_false, url]
  | ok found => simp only [noPrebuild, noName, noVersion, noPlatform, noTemplate, if_false, url]

/-- Written settings are read back just if they are complete. -/
theorem read_write (file : Path) (settings : Settings) :
    (settings.Complete →
      read file (Text.encodeUtf8 settings.write) = .ok { settings with source := some file }) ∧
    (¬ settings.Complete → ∃ fault, read file (Text.encodeUtf8 settings.write) = .error fault) := by
  have reading : read file (Text.encodeUtf8 settings.write) = ofTable file settings.table := by
    simp only [read, parse, Text.decodeUtf8_encodeUtf8, parse_write]
  rw [reading, ofTable_table]
  constructor
  · intro complete
    obtain ⟨url, filled⟩ := complete.url
    rw [if_neg complete.prebuild, if_neg complete.name, if_neg complete.version,
      if_neg complete.platform, if_neg complete.template, filled]
  · intro incomplete
    by_cases noPrebuild : settings.prebuild = []
    · exact ⟨_, if_pos noPrebuild⟩
    by_cases noName : settings.release.name = ""
    · exact ⟨_, by rw [if_neg noPrebuild, if_pos noName]⟩
    by_cases noVersion : settings.release.version = ""
    · exact ⟨_, by rw [if_neg noPrebuild, if_neg noName, if_pos noVersion]⟩
    by_cases noPlatform : settings.release.platform = ""
    · exact ⟨_, by rw [if_neg noPrebuild, if_neg noName, if_neg noVersion, if_pos noPlatform]⟩
    by_cases noTemplate : settings.release.template = ""
    · exact ⟨_, by rw [if_neg noPrebuild, if_neg noName, if_neg noVersion, if_neg noPlatform,
        if_pos noTemplate]⟩
    rw [if_neg noPrebuild, if_neg noName, if_neg noVersion, if_neg noPlatform, if_neg noTemplate]
    cases filled : settings.release.url with
    | error fault => exact ⟨_, rfl⟩
    | ok url =>
      exact absurd ⟨noPrebuild, noName, noVersion, noPlatform, noTemplate, url, filled⟩ incomplete

theorem requireText_ne_empty {table : Toml.Table} {key fallback value : String} {file : Path}
    (some : fallback ≠ "") (given : requireText table key fallback file = .ok value) : value ≠ "" := by
  unfold requireText at given
  split at given
  · cases given
    exact some
  · next held _ =>
    by_cases empty : held = ""
    · simp [empty] at given
    · rw [if_neg empty] at given
      cases given
      exact empty
  · cases given

theorem requireTexts_ne_nil {table : Toml.Table} {key : String} {fallback values : List String}
    {file : Path} (some : fallback ≠ []) (given : requireTexts table key fallback file = .ok values) :
    values ≠ [] := by
  unfold requireTexts at given
  split at given
  · cases given
    exact some
  · split at given
    · cases given
      exact List.cons_ne_nil _ _
    · cases given
  · cases given

/-- Whatever settings a table gives are complete, and name their file. -/
theorem complete_of_ofTable {file : Path} {table : Toml.Table} {settings : Settings}
    (given : ofTable file table = .ok settings) : settings.Complete ∧ settings.source = some file := by
  unfold ofTable at given
  obtain ⟨bookDir, _, given⟩ := bind_eq_ok_iff.1 given
  obtain ⟨prebuild, prebuildGiven, given⟩ := bind_eq_ok_iff.1 given
  obtain ⟨tool, _, given⟩ := bind_eq_ok_iff.1 given
  obtain ⟨name, nameGiven, given⟩ := bind_eq_ok_iff.1 given
  obtain ⟨version, versionGiven, given⟩ := bind_eq_ok_iff.1 given
  obtain ⟨platform, platformGiven, given⟩ := bind_eq_ok_iff.1 given
  obtain ⟨template, templateGiven, given⟩ := bind_eq_ok_iff.1 given
  simp only at given
  split at given
  · cases given
  · next url filled =>
    cases given
    exact ⟨⟨requireTexts_ne_nil (by decide) prebuildGiven, requireText_ne_empty (by decide) nameGiven,
      requireText_ne_empty (by decide) versionGiven, requireText_ne_empty (by decide) platformGiven,
      requireText_ne_empty (by decide) templateGiven, url, filled⟩, rfl⟩

theorem complete_of_read {file : Path} {bytes : Text.Bytes} {settings : Settings}
    (given : read file bytes = .ok settings) : settings.Complete ∧ settings.source = some file := by
  unfold read at given
  split at given
  · cases given
  · unfold parse at given
    split at given
    · cases given
    · exact complete_of_ofTable given

end Bookbinder.Settings
