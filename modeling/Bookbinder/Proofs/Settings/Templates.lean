import Bookbinder.Proofs.Settings.Offenders
import Bookbinder.Proofs.Template.Expansion

/-!
Templates of settings that are loaded. Main statement: all their fields are known, so that there is always an
address; and a template of literal text and plain fields is never turned away.
-/

set_option autoImplicit false

namespace Bookbinder

open Template

namespace Release

theorem isWritten_of_url {release : Release} {url : String} (filled : release.url = .ok url) :
    ∃ pieces, IsWritten pieces release.template.toList :=
  isWritten_of_expand (url_eq_ok_iff.1 filled)

/-- A field of a template that is filled in asks for a value that there is. -/
theorem rootOf_of_url {release : Release} {url : String} (filled : release.url = .ok url) {field : Field}
    (has : HasField release.template.toList field) : ∃ slot : Slot, rootOf field.name = slot.label :=
  (release.values_isSome_iff _).1 (has.isSome (url_eq_ok_iff.1 filled)).1

theorem url_of_segments {release : Release} {segments : List Segment}
    (template : release.template = String.ofList (written segments)) :
    release.url = .ok (String.ofList (segments.flatMap (Segment.filled release.slot))) := by
  have plain := (url_withTemplate release).1 segments
  rwa [withTemplate, ← template] at plain

end Release

namespace Settings

theorem ofTable_of_segments (file : Path) {table : Toml.Table} {segments : List Segment}
    (passes : ∀ check ∈ checks, check.fails table = false)
    (template : (releaseOf table).template = String.ofList (written segments)) :
    ofTable file table = .ok (valuesOf file table) := by
  have blameless : (checks.find? fun check => check.fails table) = none :=
    List.find?_eq_none.2 fun check member => by simp [passes check member]
  rw [ofTable_eq, blameless, Release.url_of_segments template]

end Settings

namespace Action

/-- Settings that are loaded have a template that can be read, each of whose fields, those within specs too,
has a name that begins with one of the three that there are, and it can be filled in. On the other hand, a file
whose other values are as they should be is accepted if its template is plain, whatever values it is to take
up, and the address is then the text with the values in their places. -/
theorem loadSettings_template (machine : Machine) (directory : Path) :
    (∀ settings after, perform (loadSettings directory) machine = (.ok settings, after) →
      (∃ pieces, IsWritten pieces settings.release.template.toList) ∧
      (∀ field, HasField settings.release.template.toList field →
        ∃ slot : Slot, rootOf field.name = slot.label) ∧
      ∃ url, settings.release.url = .ok url) ∧
    ∀ table segments, machine.HoldsSettings directory table →
      (∀ check ∈ Settings.checks, check.fails table = false) →
      (Settings.releaseOf table).template = String.ofList (written segments) →
      ∃ settings, perform (loadSettings directory) machine = (.ok settings, machine) ∧
        settings.release = Settings.releaseOf table ∧
        settings.release.url =
          .ok (String.ofList (segments.flatMap (Segment.filled settings.release.slot))) := by
  constructor
  · intro settings after loaded
    obtain ⟨url, filled⟩ := (complete_of_loadSettings (congrArg Prod.fst loaded)).1.url
    exact ⟨Release.isWritten_of_url filled, fun _ => Release.rootOf_of_url filled, url, filled⟩
  · intro table segments holds passes template
    have loaded := holds.perform_loadSettings
    rw [Settings.ofTable_of_segments _ passes template] at loaded
    exact ⟨_, loaded, rfl, Release.url_of_segments template⟩

/-- Settings with a field within the spec of another. -/
def nestedText : String := "[tool]\nurl_template = \"\x7bname:>\x7bversion[1]\x7d9\x7d\"\n"

def nestedTable : Toml.Table :=
  [("tool", .table [("url_template", .text "\x7bname:>\x7bversion[1]\x7d9\x7d")])]

/-- Settings with a name that looks like a field, between doubled braces. -/
def bracedText : String :=
  "[tool]\nname = \"\x7bversion\x7d\"\nurl_template = \"\x7b\x7b\x7bname\x7d\x7d\x7d\"\n"

def bracedTable : Toml.Table :=
  [("tool", .table [("name", .text "\x7bversion\x7d"),
    ("url_template", .text "\x7b\x7b\x7bname\x7d\x7d\x7d")])]

theorem loadSettings_template_of_braces :
    (∃ settings, perform (loadSettings (Path.parse "/project")) (projectWith nestedText) =
        (.ok settings, projectWith nestedText) ∧
      HasField settings.release.template.toList ⟨"version[1]".toList, none, []⟩ ∧
      ∃ slot : Slot, rootOf "version[1]".toList = slot.label) ∧
    ∃ settings, perform (loadSettings (Path.parse "/project")) (projectWith bracedText) =
        (.ok settings, projectWith bracedText) ∧
      settings.release.url = .ok "\x7b\x7bversion\x7d\x7d" := by
  constructor
  · have parsed : Toml.parse (Text.unifyNewlines nestedText.toList) = .ok nestedTable := by cbv
    have given : Settings.ofTable (Settings.file (Path.parse "/project")) nestedTable =
        .ok (Settings.valuesOf (Settings.file (Path.parse "/project")) nestedTable) := by cbv
    have loaded := (holdsSettings_projectWith parsed).perform_loadSettings
    rw [given] at loaded
    have outer : scan "\x7bname:>\x7bversion[1]\x7d9\x7d".toList =
        ([.field ⟨"name".toList, none, ">\x7bversion[1]\x7d9".toList⟩], none) := by decide
    have inner : scan ">\x7bversion[1]\x7d9".toList =
        ([.literal '>', .field ⟨"version[1]".toList, none, []⟩, .literal '9'], none) := by decide
    -- one scan for the template, and one for the spec in it
    have around := HasField.direct (scan_eq_iff.1 outer) (List.mem_singleton.2 rfl)
    have within := HasField.direct (scan_eq_iff.1 inner) (List.mem_cons_of_mem _ List.mem_cons_self)
    have has := around.nested within
    exact ⟨_, loaded, has, ((loadSettings_template _ _).1 _ _ loaded).2.1 _ has⟩
  · have parsed : Toml.parse (Text.unifyNewlines bracedText.toList) = .ok bracedTable := by cbv
    obtain ⟨settings, loaded, same, url⟩ := (loadSettings_template _ _).2 bracedTable
      [.text ['\x7b'], .field .name, .text ['\x7d']] (holdsSettings_projectWith parsed) (by decide) (by decide)
    refine ⟨settings, loaded, ?_⟩
    rw [url, same]
    decide

end Action

end Bookbinder
