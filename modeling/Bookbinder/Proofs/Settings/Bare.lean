import Bookbinder.Proofs.Settings.Layout

/-!
Files with some settings and little else. Main statement: `laysOut_bareLines`, that whatever is given can be
laid out in every form.
-/

set_option autoImplicit false

namespace Bookbinder.Settings

open Toml (Key States Names Spells)

/-- The settings that stand at the top of a file. -/
def Setting.top : List Setting := [.bookDir, .prebuild]

/-- The settings of the tool. -/
def Setting.inTool : List Setting := [.name, .version, .platform, .template]

theorem Setting.mem_top_or_inTool (setting : Setting) : setting ∈ top ∨ setting ∈ inTool := by
  cases setting <;> decide

theorem Setting.exists_path_of_mem_inTool {setting : Setting} (member : setting ∈ inTool) :
    ∃ name, setting.path = ["tool", name] := by
  cases setting with
  | bookDir => cases (show Setting.bookDir ∉ inTool by decide) member
  | prebuild => cases (show Setting.prebuild ∉ inTool by decide) member
  | _ => exact ⟨_, rfl⟩

/-- What saved settings have for the value of a setting. -/
def Partial.written? (given : Partial) : Setting → Option (List Char)
  | .bookDir => given.bookDir.map writeText
  | .prebuild => given.prebuild.map writeTexts
  | .name => given.name.map writeText
  | .version => given.version.map writeText
  | .platform => given.platform.map writeText
  | .template => given.template.map writeText

/-- A key as saved settings have it, dotted if it has more than one part. -/
def keyText (key : Key) : List Char := Text.joinWith ['.'] (key.map String.toList) ++ " = ".toList

/-- The entries of those settings that are given, without the first parts of their keys. -/
def Partial.entries (given : Partial) (skipped : Nat) (settings : List Setting) : List Entry :=
  settings.filterMap fun setting =>
    (given.written? setting).map fun written => ⟨keyText (setting.path.drop skipped), written, [], setting⟩

def bareLines (given : Partial) (form : Form) : List Line :=
  (given.entries 0 Setting.top).map .setting ++
    match form with
    | .headed =>
      .other "[tool]".toList [.table ["tool"]] :: (given.entries 1 Setting.inTool).map .setting
    | .inline => [.tool (keyText ["tool"]) [] ((given.entries 1 Setting.inTool).map .setting) []]
    | .dotted => (given.entries 0 Setting.inTool).map .setting

variable {given : Partial} {form : Form} {settings : List Setting} {skipped : Nat} {entry : Entry}

theorem Partial.exists_spells {setting : Setting} {written : List Char}
    (held : given.written? setting = some written) :
    ∃ value, given.value? setting = some value ∧ Spells written value := by
  cases setting with
  | prebuild =>
    obtain ⟨values, given, rfl⟩ := Option.map_eq_some_iff.1 held
    exact ⟨.array (values.map .text), by rw [Partial.value?, given]; rfl, Toml.spells_writeTexts values⟩
  | _ =>
    obtain ⟨text, given, rfl⟩ := Option.map_eq_some_iff.1 held
    exact ⟨.text text, by rw [Partial.value?, given]; rfl, .text text⟩

theorem Partial.isSome_written? (given : Partial) (setting : Setting) :
    (given.written? setting).isSome = (given.value? setting).isSome := by
  cases setting <;> simp [Partial.written?, Partial.value?]

theorem names_keyText (setting : Setting) : Names (keyText setting.path) setting.path := by
  cases setting <;> exact ⟨[' '], rfl, rfl⟩

theorem names_keyText_inTool {setting : Setting} {name : String} (path : setting.path = ["tool", name]) :
    Names (keyText [name]) [name] := by
  cases setting with
  | bookDir => simp [Setting.path] at path
  | prebuild => simp [Setting.path] at path
  | _ =>
    obtain rfl := (List.cons.inj (List.cons.inj path).2).1
    exact ⟨[' '], rfl, rfl⟩

theorem Partial.mem_entries (member : entry ∈ given.entries skipped settings) :
    entry.setting ∈ settings ∧ entry.lead = keyText (entry.setting.path.drop skipped) ∧ entry.trail = [] ∧
      ∃ value, given.value? entry.setting = some value ∧ Spells entry.written value := by
  obtain ⟨setting, among, made⟩ := List.mem_filterMap.1 member
  obtain ⟨written, held, rfl⟩ := Option.map_eq_some_iff.1 made
  exact ⟨among, rfl, rfl, Partial.exists_spells held⟩

theorem Partial.map_setting_entries (given : Partial) (skipped : Nat) (settings : List Setting) :
    (given.entries skipped settings).map Entry.setting =
      settings.filter fun setting => (given.value? setting).isSome := by
  induction settings with
  | nil => rfl
  | cons setting settings ih =>
    rw [List.filter_cons, ← given.isSome_written? setting, ← ih, Partial.entries, List.filterMap_cons]
    cases given.written? setting <;> rfl

/-- An entry with its whole key. -/
theorem gives_of_mem_entries (member : entry ∈ given.entries 0 settings) :
    entry.Gives given entry.setting.path := by
  obtain ⟨-, lead, -, spells⟩ := Partial.mem_entries member
  refine ⟨?_, spells⟩
  rw [lead]
  exact names_keyText entry.setting

/-- An entry of the tool's table, where its key goes on. -/
theorem gives_of_mem_entries_inTool (member : entry ∈ given.entries 1 Setting.inTool) :
    ∃ name, entry.setting.path = ["tool", name] ∧ entry.Gives given [name] := by
  obtain ⟨among, lead, -, spells⟩ := Partial.mem_entries member
  obtain ⟨name, path⟩ := Setting.exists_path_of_mem_inTool among
  refine ⟨name, path, ?_, spells⟩
  rw [lead, path]
  exact names_keyText_inTool path

theorem settled_of_mem_entries (member : entry ∈ given.entries skipped settings) :
    Toml.skipComment (Toml.skipBlanks entry.trail) = .ok [] := by
  rw [(Partial.mem_entries member).2.2.1]
  rfl

theorem fitAll_append {entries : List Entry} {header : Key} {lines : List Line}
    (fit : ∀ entry ∈ entries, (Line.setting entry).Fits given form header)
    (others : FitAll given form header lines) :
    FitAll given form header (entries.map .setting ++ lines) := by
  induction entries with
  | nil => exact others
  | cons entry entries ih =>
    exact ⟨fit entry List.mem_cons_self, ih fun other member => fit other (List.mem_cons_of_mem _ member)⟩

theorem fitAll_settings {entries : List Entry} {header : Key}
    (fit : ∀ entry ∈ entries, (Line.setting entry).Fits given form header) :
    FitAll given form header (entries.map .setting) := by
  simpa using fitAll_append fit (show FitAll given form header [] from trivial)

theorem fits_entry {header key : Key} (member : entry ∈ given.entries skipped settings)
    (path : header ++ key = entry.setting.path) (gives : entry.Gives given key)
    (home : form.home? entry.setting = some header) : (Line.setting entry).Fits given form header :=
  ⟨⟨key, path, gives⟩, home, settled_of_mem_entries member⟩

theorem fits_top (form : Form) (member : entry ∈ given.entries 0 Setting.top) :
    (Line.setting entry).Fits given form [] := by
  refine fits_entry member rfl (gives_of_mem_entries member) ?_
  obtain ⟨among, -⟩ := Partial.mem_entries member
  revert among
  cases entry.setting <;> intro among <;> first | rfl | exact absurd among (by decide)

theorem fitAll_bareLines (given : Partial) (form : Form) : FitAll given form [] (bareLines given form) := by
  refine fitAll_append (fun entry member => fits_top form member) ?_
  cases form with
  | headed =>
    have header : States "[tool]".toList [.table ["tool"]] := .table rfl (by decide) (rfl) rfl
    refine ⟨⟨header, by simp [Form.Allows]⟩, ?_⟩
    have fit : ∀ entry ∈ given.entries 1 Setting.inTool, (Line.setting entry).Fits given .headed ["tool"] := by
      intro entry member
      obtain ⟨name, path, gives⟩ := gives_of_mem_entries_inTool member
      exact fits_entry member path.symm gives (by simp only [Form.home?, path])
    exact fitAll_settings fit
  | inline =>
    have blank : Toml.skipBlanks [] = [] := rfl
    have ends : Toml.skipComment (Toml.skipBlanks []) = .ok [] := rfl
    have tool : Names (keyText ["tool"]) ["tool"] := ⟨[' '], rfl, rfl⟩
    have none : ((given.entries 1 Setting.inTool).map Item.setting).filter Item.isOther = [] := by
      simp [List.filter_eq_nil_iff, Item.isOther]
    refine ⟨⟨rfl, rfl, tool, blank, ends, ?_, [], ?_⟩, trivial⟩
    · rintro _ among
      obtain ⟨entry, member, rfl⟩ := List.mem_map.1 among
      refine ⟨gives_of_mem_entries_inTool member, ?_⟩
      rw [(Partial.mem_entries member).2.2.1]
      rfl
    · rw [none]
      exact (Toml.states_inlineText_iff tool .nil blank ends).2 rfl
  | dotted =>
    have fit : ∀ entry ∈ given.entries 0 Setting.inTool, (Line.setting entry).Fits given .dotted [] := by
      intro entry member
      obtain ⟨name, path⟩ := Setting.exists_path_of_mem_inTool (Partial.mem_entries member).1
      exact fits_entry member rfl (gives_of_mem_entries member) (by simp only [Form.home?, path])
    exact fitAll_settings fit

/-- The given settings, each of them once. -/
theorem settings_bareLines (given : Partial) (form : Form) :
    (bareLines given form).flatMap Line.settings =
      (Setting.top ++ Setting.inTool).filter fun setting => (given.value? setting).isSome := by
  have lines (entries : List Entry) :
      (entries.map Line.setting).flatMap Line.settings = entries.map Entry.setting := by
    rw [List.flatMap_map, List.map_eq_flatMap]
    rfl
  have items (entries : List Entry) :
      (entries.map Item.setting).flatMap Item.settings = entries.map Entry.setting := by
    rw [List.flatMap_map, List.map_eq_flatMap]
    rfl
  rw [List.filter_append]
  cases form <;>
    simp [bareLines, lines, items, Line.settings, Partial.map_setting_entries, List.flatMap_append]

theorem plain_bareLines (given : Partial) (form : Form) :
    ∃ table, Toml.parse (textOf ((bareLines given form).flatMap Line.plain)) = .ok table := by
  have lines (entries : List Entry) : (entries.map Line.setting).flatMap Line.plain = [] := by
    simp [List.flatMap_map, Line.plain]
  have items (entries : List Entry) : (entries.map Item.setting).filter Item.isOther = [] := by
    simp [List.filter_eq_nil_iff, Item.isOther]
  have parsed (left : List Line) (readable : (Toml.parse (textOf left)).isOk = true) := exists_ok_of_isOk readable
  cases form with
  | headed => simpa [bareLines, lines, Line.plain] using parsed [_] (by decide)
  | inline => simpa [bareLines, lines, items, Line.plain] using parsed [_] (by decide)
  | dotted => simpa [bareLines, lines] using parsed [] (by decide)

/-- Whatever is given can be laid out in every form. -/
theorem laysOut_bareLines (given : Partial) (form : Form) : LaysOut (bareLines given form) given form := by
  refine ⟨fitAll_bareLines given form, ?_, ?_, plain_bareLines given form⟩
  · rw [settings_bareLines]
    exact List.filter_sublist.nodup (by decide)
  · intro setting some
    rw [settings_bareLines, List.mem_filter]
    exact ⟨List.mem_append.2 setting.mem_top_or_inTool, some⟩

example : textOf (bareLines ⟨some "docs", none, none, some "v2", none, none⟩ .inline) =
    "book_dir = \"docs\"\ntool = \x7bversion = \"v2\"\x7d".toList := by
  decide

/-- A line with a foreign key may stand above. -/
theorem LaysOut.below {lines : List Line} {text : List Char} {key : Key} {value : Toml.Value}
    (lays : LaysOut lines given form) (states : States text [.entry key value]) (foreign : Foreign key)
    (readable : ∃ table, Toml.parse (textOf ((Line.other text [.entry key value] :: lines).flatMap Line.plain)) =
      .ok table) : LaysOut (.other text [.entry key value] :: lines) given form := by
  have allowed : ∀ statement ∈ [Toml.Statement.entry key value], form.Allows [] statement := by
    simp only [List.forall_mem_singleton]
    exact .inl foreign
  exact ⟨⟨⟨states, allowed⟩, lays.fit⟩, lays.once, lays.all, readable⟩

end Bookbinder.Settings
