import Bookbinder.Proofs.Settings.Document
import Bookbinder.Proofs.Toml.Tables

/-!
Some of the settings, the others left as they are built in. Main statement: a table that holds some
settings, and anything under keys that no setting has, gives these settings over the built-in ones.
-/

set_option autoImplicit false

namespace Bookbinder.Settings

/-- One of the settings that a file may give. -/
inductive Setting where
  | bookDir
  | prebuild
  | name
  | version
  | platform
  | template
  deriving DecidableEq, Repr

/-- Where a setting stands in a file. -/
def Setting.path : Setting → Toml.Key
  | .bookDir => ["book_dir"]
  | .prebuild => ["prebuild"]
  | .name => ["tool", "name"]
  | .version => ["tool", "version"]
  | .platform => ["tool", "platform"]
  | .template => ["tool", "url_template"]

/-- Values for some of the settings. -/
structure Partial where
  bookDir : Option String := none
  prebuild : Option (List String) := none
  name : Option String := none
  version : Option String := none
  platform : Option String := none
  template : Option String := none
  deriving DecidableEq, Repr

namespace Partial

/-- What a file gives for a setting. -/
def value? (given : Partial) : Setting → Option Toml.Value
  | .bookDir => given.bookDir.map .text
  | .prebuild => given.prebuild.map fun commands => .array (commands.map .text)
  | .name => given.name.map .text
  | .version => given.version.map .text
  | .platform => given.platform.map .text
  | .template => given.template.map .text

def release (given : Partial) : Release where
  name := given.name.getD default.release.name
  version := given.version.getD default.release.version
  platform := given.platform.getD default.release.platform
  template := given.template.getD default.release.template

/-- The given values, over the built-in settings. -/
def completed (given : Partial) (file : Path) : Settings where
  bookDir := (given.bookDir.map Path.parse).getD default.bookDir
  prebuild := given.prebuild.getD default.prebuild
  release := given.release
  source := some file

/-- Values that settings may have: none is empty, and the address of the release can be filled in. -/
structure Sound (given : Partial) : Prop where
  bookDir : given.bookDir ≠ some ""
  prebuild : given.prebuild ≠ some []
  name : given.name ≠ some ""
  version : given.version ≠ some ""
  platform : given.platform ≠ some ""
  template : given.template ≠ some ""
  url : ∃ url, given.release.url = .ok url

end Partial

/-- A table that holds what is given under the keys of settings, and no more there. -/
structure Holds (table : Toml.Table) (given : Partial) : Prop where
  top : ∀ {setting : Setting} {name : String}, setting.path = [name] →
    table.get? name = given.value? setting
  tool : ∃ inner, table.sub? "tool" = some inner ∧ ∀ {setting : Setting} {name : String},
    setting.path = ["tool", name] → inner.get? name = given.value? setting

variable {table : Toml.Table} {key : String}

theorem requireText_of_option {value : Option String} (fallback : String) (file : Path)
    (held : table.get? key = value.map .text) (some : value ≠ some "") :
    requireText table key fallback file = .ok (value.getD fallback) := by
  cases value with
  | none => simp only [requireText, held, Option.map_none, Option.getD_none]
  | some text =>
    have full : text ≠ "" := by
      rintro rfl
      exact some rfl
    rw [requireText_of_get? fallback file held, if_neg full, Option.getD_some]

theorem requireTexts_of_option {values : Option (List String)} (fallback : List String) (file : Path)
    (held : table.get? key = values.map fun texts => .array (texts.map .text)) (some : values ≠ some []) :
    requireTexts table key fallback file = .ok (values.getD fallback) := by
  cases values with
  | none => simp only [requireTexts, held, Option.map_none, Option.getD_none]
  | some texts =>
    have full : texts ≠ [] := by
      rintro rfl
      exact some rfl
    rw [requireTexts_of_get? fallback file held, if_neg full, Option.getD_some]

theorem requireTable_of_sub? {inner : Toml.Table} (file : Path) (held : table.sub? key = some inner) :
    requireTable table key file = .ok inner := by
  unfold Toml.Table.sub? at held
  unfold requireTable
  split at held
  · next absent =>
    cases held
    simp only [absent]
  · next found =>
    cases held
    simp only [found]
  · cases held

/-- A table that holds sound settings gives them over the built-in ones. -/
theorem ofTable_of_holds {given : Partial} (file : Path) (holds : Holds table given) (sound : given.Sound) :
    ofTable file table = .ok (given.completed file) := by
  obtain ⟨inner, tool, held⟩ := holds.tool
  obtain ⟨url, filled⟩ := sound.url
  have bookDir := requireText_of_option defaultBookDir file
    (holds.top (show Setting.bookDir.path = _ from rfl)) sound.bookDir
  have prebuild := requireTexts_of_option defaultPrebuild file
    (holds.top (show Setting.prebuild.path = _ from rfl)) sound.prebuild
  have name := requireText_of_option defaultRelease.name file
    (held (show Setting.name.path = _ from rfl)) sound.name
  have version := requireText_of_option defaultRelease.version file
    (held (show Setting.version.path = _ from rfl)) sound.version
  have platform := requireText_of_option defaultRelease.platform file
    (held (show Setting.platform.path = _ from rfl)) sound.platform
  have template := requireText_of_option defaultRelease.template file
    (held (show Setting.template.path = _ from rfl)) sound.template
  have parsed : Path.parse (given.bookDir.getD defaultBookDir) =
      (given.bookDir.map Path.parse).getD default.bookDir := by
    cases given.bookDir <;> rfl
  have filled : Release.url ⟨given.name.getD defaultRelease.name, given.version.getD defaultRelease.version,
      given.platform.getD defaultRelease.platform, given.template.getD defaultRelease.template⟩ =
      .ok url := filled
  simp only [ofTable, bookDir, prebuild, requireTable_of_sub? file tool, name, version, platform, template,
    bind_ok, filled, parsed]
  rfl

end Bookbinder.Settings
