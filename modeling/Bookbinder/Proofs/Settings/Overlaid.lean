import Bookbinder.Proofs.Settings.Layout

/-!
Two documents that are read from one file, with some of the settings and without them. The tables differ
in nothing but the settings, and the marks in no more than the settings leave. Main statements: whatever
else stands in the file keeps the two so (`Overlaid.follow`), and a setting can be added to the one
(`Overlaid.give`, `Overlaid.enterTable`).
-/

set_option autoImplicit false

namespace Bookbinder.Settings

open Toml (Key Table Value Document Statement States)

/-- A document with some of the settings, beside one without them: the marks differ in no more than the
settings leave. -/
structure Overlaid (given : Partial) (form : Form) (done : List Setting) (plain full : Document) : Prop where
  header : full.header = plain.header
  start : full.header = [] → full.declared = []
  declared : ∀ key ∈ full.declared, key ∈ plain.declared ∨ form = .dotted ∧ key = ["tool"]
  pending : ∀ key ∈ full.pending, key ∈ plain.pending ∨ form = .dotted ∧ key = ["tool"]
  frozen : ∀ key ∈ full.frozen, key ∈ plain.frozen ∨ key = ["prebuild"]
  foreign : ∀ key ∈ plain.frozen, Foreign key ∨ form = .inline ∧ key = ["tool"]
  tables : Covers given done plain.table full.table
  vacant : form = .inline → plain.table.get? "tool" = none → full.table.get? "tool" = none

theorem Overlaid.of_mem {given : Partial} {form : Form} {done other : List Setting} {plain full : Document}
    (overlaid : Overlaid given form done plain full) (same : ∀ setting, setting ∈ done ↔ setting ∈ other) :
    Overlaid given form other plain full :=
  { overlaid with tables := overlaid.tables.of_mem same }

variable {given : Partial} {form : Form} {done : List Setting} {plain full after : Document}
  {key : Key} {value : Value} {setting : Setting}

theorem mem_stems {header stem : Key} (member : stem ∈ Document.stems header key) :
    ∃ count, count + 1 < key.length ∧ stem = header ++ key.take (count + 1) := by
  simp only [Document.stems, List.mem_map, List.mem_range] at member
  obtain ⟨count, small, same⟩ := member
  exact ⟨count, by omega, same.symm⟩

/-- No stem of an entry that is free without the settings is taken with them. -/
theorem Overlaid.stems_free (overlaid : Overlaid given form done plain full)
    (free : ∀ stem ∈ Document.stems plain.header key, stem ∉ plain.declared) :
    ∀ stem ∈ Document.stems full.header key, stem ∉ full.declared := by
  intro stem member taken
  rw [overlaid.header] at member
  rcases overlaid.declared stem taken with declared | ⟨-, same⟩
  · exact free stem member declared
  · -- a stem below a header is longer than the tool's key, and before any header nothing is declared
    obtain ⟨count, small, shape⟩ := mem_stems member
    have top : plain.header = [] := by
      have size := congrArg List.length (shape.symm.trans same)
      simp only [List.length_append, List.length_take, List.length_cons, List.length_nil] at size
      exact List.eq_nil_of_length_eq_zero (by omega)
    rw [overlaid.start (overlaid.header.trans top)] at taken
    cases taken

theorem Overlaid.free (overlaid : Overlaid given form done plain full)
    (free : Toml.isFrozen plain.frozen key = false) (other : ¬ ["prebuild"] <+: key) :
    Toml.isFrozen full.frozen key = false := by
  refine isFrozen_eq_false_iff.2 fun stem member leads => ?_
  rcases overlaid.frozen stem member with frozen | rfl
  · exact isFrozen_eq_false_iff.1 free stem frozen leads
  · exact other leads

theorem not_prebuild_prefix_dropLast {header : Key} (foreign : Foreign (header ++ key)) :
    ¬ ["prebuild"] <+: header ++ key.dropLast := by
  intro leads
  exact (foreign .prebuild).2
    (leads.trans ((List.prefix_append_right_inj header).2 (List.dropLast_prefix key)))

/-- An entry under a foreign key. -/
theorem Overlaid.enter (overlaid : Overlaid given form done plain full)
    (foreign : Foreign (plain.header ++ key)) (some : key ≠ []) (entered : plain.enter key value = .ok after) :
    ∃ fullAfter, full.enter key value = .ok fullAfter ∧ Overlaid given form done after fullAfter := by
  obtain ⟨name, rest, path, -⟩ := foreign.cases
  have fullPath : full.header ++ key = name :: rest := by rw [overlaid.header, path]
  obtain ⟨stems, unfrozen, table, altered, rfl⟩ := (Document.enter_eq_ok_iff path some).1 entered
  obtain ⟨fullTable, fullAltered, covers, vacant⟩ := overlaid.tables.alter (path ▸ foreign) altered
  have fullUnfrozen : Toml.isFrozen full.frozen (full.header ++ key.dropLast) = false := by
    rw [overlaid.header]
    exact overlaid.free unfrozen (not_prebuild_prefix_dropLast foreign)
  refine ⟨_, (Document.enter_eq_ok_iff fullPath some).2
    ⟨overlaid.stems_free stems, fullUnfrozen, fullTable, fullAltered, rfl⟩, ?_⟩
  refine ⟨overlaid.header, overlaid.start, overlaid.declared, ?_, ?_, ?_, covers, ?_⟩
  · intro stem member
    simp only [overlaid.header, List.mem_append] at member ⊢
    rcases member with passed | member
    · exact .inl (.inl passed)
    · exact (overlaid.pending stem member).imp_left .inr
  · intro stem member
    simp only [overlaid.header] at member ⊢
    cases nested : value.isNested with
    | false =>
      simp only [nested, Bool.false_eq_true, if_false] at member ⊢
      exact overlaid.frozen stem member
    | true =>
      simp only [nested, if_true, List.mem_cons] at member ⊢
      rcases member with rfl | member
      · exact .inl (.inl rfl)
      · exact (overlaid.frozen stem member).imp_left .inr
  · intro stem member
    cases nested : value.isNested with
    | false =>
      simp only [nested, Bool.false_eq_true, if_false] at member
      exact overlaid.foreign stem member
    | true =>
      simp only [nested, if_true, List.mem_cons] at member
      rcases member with rfl | member
      · exact .inl foreign
      · exact overlaid.foreign stem member
  · intro inline absent
    obtain ⟨plainAbsent, same⟩ := vacant absent
    exact same.trans (overlaid.vacant inline plainAbsent)

theorem Overlaid.declared_endSection (overlaid : Overlaid given form done plain full) :
    ∀ key ∈ full.endSection.declared,
      key ∈ plain.endSection.declared ∨ form = .dotted ∧ key = ["tool"] := by
  intro key member
  simp only [Document.endSection, List.mem_append] at member ⊢
  rcases member with pending | declared
  · exact (overlaid.pending key pending).imp_left .inl
  · exact (overlaid.declared key declared).imp_left .inr

/-- The header of the tool's table stands in a file only where its settings are given under it. -/
theorem Overlaid.undeclared (overlaid : Overlaid given form done plain full)
    (allowed : Foreign key ∨ form = .headed ∧ key = ["tool"]) (free : key ∉ plain.endSection.declared) :
    key ∉ full.endSection.declared := by
  intro taken
  rcases overlaid.declared_endSection key taken with declared | ⟨dotted, rfl⟩
  · exact free declared
  · rcases allowed with foreign | ⟨headed, -⟩
    · exact (foreign .name).1 (by decide)
    · rw [dotted] at headed
      cases headed

theorem Overlaid.alter_openTable (overlaid : Overlaid given form done plain full) {name : String}
    {rest : Key} (allowed : Foreign (name :: rest) ∨ form = .headed ∧ name :: rest = ["tool"]) {table : Table}
    (altered : Table.alter true (Toml.within true .ok) name rest plain.table = .ok table) :
    ∃ fullTable, Table.alter true (Toml.within true .ok) name rest full.table = .ok fullTable ∧
      Covers given done table fullTable ∧
      (form = .inline → table.get? "tool" = none → fullTable.get? "tool" = none) := by
  rcases allowed with foreign | ⟨headed, same⟩
  · obtain ⟨fullTable, fullAltered, covers, vacant⟩ := overlaid.tables.alter foreign altered
    refine ⟨fullTable, fullAltered, covers, fun inline absent => ?_⟩
    obtain ⟨plainAbsent, same⟩ := vacant absent
    exact same.trans (overlaid.vacant inline plainAbsent)
  · cases same
    obtain ⟨fullTable, fullAltered, covers, some⟩ := overlaid.tables.openTool altered
    exact ⟨fullTable, fullAltered, covers, fun _ absent => absurd absent some⟩

/-- A header of a table under a foreign key, or of the tool's table. -/
theorem Overlaid.openTable (overlaid : Overlaid given form done plain full)
    (allowed : Foreign key ∨ form = .headed ∧ key = ["tool"])
    (opened : plain.endSection.openTable key = .ok after) :
    ∃ fullAfter, full.endSection.openTable key = .ok fullAfter ∧ Overlaid given form done after fullAfter := by
  have other : ¬ ["prebuild"] <+: key := by
    rcases allowed with foreign | ⟨-, rfl⟩
    · exact (foreign .prebuild).2
    · decide
  obtain ⟨name, rest, rfl⟩ : ∃ name rest, key = name :: rest := by
    rcases allowed with foreign | ⟨-, rfl⟩
    · obtain ⟨name, rest, shape, -⟩ := foreign.cases
      exact ⟨name, rest, shape⟩
    · exact ⟨_, _, rfl⟩
  obtain ⟨free, unfrozen, table, altered, rfl⟩ := Document.openTable_eq_ok_iff.1 opened
  obtain ⟨fullTable, fullAltered, covers, vacant⟩ := overlaid.alter_openTable allowed altered
  refine ⟨_, Document.openTable_eq_ok_iff.2
    ⟨overlaid.undeclared allowed free, overlaid.free unfrozen other, fullTable, fullAltered, rfl⟩, ?_⟩
  refine ⟨rfl, by simp, ?_, by simp [Document.endSection], overlaid.frozen, overlaid.foreign, covers, vacant⟩
  intro stem member
  simp only [List.mem_cons] at member ⊢
  rcases member with rfl | member
  · exact .inl (.inl rfl)
  · exact (overlaid.declared_endSection stem member).imp_left .inr

/-- A header of an array of tables under a foreign key. -/
theorem Overlaid.openTableArray (overlaid : Overlaid given form done plain full) (foreign : Foreign key)
    (opened : plain.endSection.openTableArray key = .ok after) :
    ∃ fullAfter, full.endSection.openTableArray key = .ok fullAfter ∧
      Overlaid given form done after fullAfter := by
  obtain ⟨name, rest, rfl, -⟩ := foreign.cases
  obtain ⟨unfrozen, table, altered, rfl⟩ := Document.openTableArray_eq_ok_iff.1 opened
  obtain ⟨fullTable, fullAltered, covers, vacant⟩ := overlaid.tables.alter foreign altered
  have fullUnfrozen : Toml.isFrozen full.frozen (name :: rest) = false :=
    overlaid.free unfrozen (foreign .prebuild).2
  refine ⟨_, Document.openTableArray_eq_ok_iff.2 ⟨fullUnfrozen, fullTable, fullAltered, rfl⟩, ?_⟩
  refine ⟨rfl, by simp, ?_, by simp [Document.endSection], ?_, ?_, covers, ?_⟩
  · intro stem member
    simp only [List.mem_cons, List.mem_filter] at member ⊢
    rcases member with rfl | ⟨member, kept⟩
    · exact .inl (.inl rfl)
    · exact (overlaid.declared_endSection stem member).imp_left fun declared => .inr ⟨declared, kept⟩
  · intro stem member
    simp only [List.mem_filter] at member ⊢
    exact (overlaid.frozen stem member.1).imp_left fun frozen => ⟨frozen, member.2⟩
  · intro stem member
    exact overlaid.foreign stem (List.mem_filter.1 member).1
  · intro inline absent
    obtain ⟨plainAbsent, same⟩ := vacant absent
    exact same.trans (overlaid.vacant inline plainAbsent)

/-- Whatever may stand beside the settings. -/
theorem Overlaid.follow (overlaid : Overlaid given form done plain full) {text : List Char}
    {statement : Statement} (states : States text [statement]) (allowed : form.Allows plain.header statement)
    (followed : plain.follow statement = .ok after) :
    ∃ fullAfter, full.follow statement = .ok fullAfter ∧ Overlaid given form done after fullAfter ∧
      after.header = statement.leaves plain.header := by
  cases statement with
  | entry key value =>
    obtain foreign | ⟨-, other⟩ := allowed
    · obtain ⟨fullAfter, fullEntered, overlaidAfter⟩ := overlaid.enter foreign states.key_ne_nil followed
      exact ⟨fullAfter, fullEntered, overlaidAfter, Document.header_enter states.key_ne_nil followed⟩
    · cases other
  | table key =>
    have allowed : Foreign key ∨ form = .headed ∧ key = ["tool"] :=
      allowed.imp_right fun ⟨headed, same⟩ => ⟨headed, Statement.table.inj same⟩
    obtain ⟨fullAfter, fullOpened, overlaidAfter⟩ := overlaid.openTable allowed followed
    exact ⟨fullAfter, fullOpened, overlaidAfter, Document.header_openTable followed⟩
  | tableArray key =>
    obtain foreign | ⟨-, other⟩ := allowed
    · obtain ⟨fullAfter, fullOpened, overlaidAfter⟩ := overlaid.openTableArray foreign followed
      exact ⟨fullAfter, fullOpened, overlaidAfter, Document.header_openTableArray followed⟩
    · cases other

theorem nested_cases (gives : given.value? setting = some value) :
    value.isNested = false ∨ setting.path = ["prebuild"] := by
  cases setting with
  | prebuild => exact .inr rfl
  | _ =>
    obtain ⟨text, -, rfl⟩ := Option.map_eq_some_iff.1 gives
    exact .inl rfl

/-- What an entry with a setting leaves in the marks. -/
theorem Overlaid.marks (overlaid : Overlaid given form done plain full) {table : Table}
    (covers : Covers given (setting :: done) plain.table table)
    (vacant : form = .inline → table.get? "tool" = full.table.get? "tool")
    (path : full.header ++ key = setting.path) (gives : given.value? setting = some value)
    (passed : ∀ stem ∈ Document.stems full.header key, form = .dotted ∧ stem = ["tool"]) :
    Overlaid given form (setting :: done) plain
      { full with
        table := table
        frozen := if value.isNested then (full.header ++ key) :: full.frozen else full.frozen
        pending := Document.stems full.header key ++ full.pending } := by
  refine ⟨overlaid.header, overlaid.start, overlaid.declared, ?_, ?_, overlaid.foreign, covers, ?_⟩
  · intro stem member
    rcases List.mem_append.1 member with stems | member
    · exact .inr (passed stem stems)
    · exact overlaid.pending stem member
  · intro stem member
    rcases nested_cases gives with flat | listed
    · simp only [flat, Bool.false_eq_true, if_false] at member
      exact overlaid.frozen stem member
    · split at member
      · rcases List.mem_cons.1 member with rfl | member
        · exact .inr (path.trans listed)
        · exact overlaid.frozen stem member
      · exact overlaid.frozen stem member
  · intro inline absent
    exact (vacant inline).trans (overlaid.vacant inline absent)

theorem Overlaid.unfrozen (overlaid : Overlaid given form done plain full) (leads : key <+: setting.path)
    (other : ¬ ["prebuild"] <+: key) (apart : form = .inline → ¬ ["tool"] <+: key) :
    Toml.isFrozen full.frozen key = false := by
  refine isFrozen_eq_false_iff.2 fun stem member under => ?_
  rcases overlaid.frozen stem member with frozen | rfl
  · rcases overlaid.foreign stem frozen with foreign | ⟨inline, rfl⟩
    · exact (foreign setting).1 (under.trans leads)
    · exact apart inline under
  · exact other under

/-- An entry with a setting at the top of the file. -/
theorem Overlaid.enterTop (overlaid : Overlaid given form done plain full) {name : String}
    (path : setting.path = [name]) (top : plain.header = []) (new : setting ∉ done)
    (gives : given.value? setting = some value) :
    ∃ fullAfter, full.enter [name] value = .ok fullAfter ∧
      Overlaid given form (setting :: done) plain fullAfter := by
  have fullTop : full.header = [] := overlaid.header.trans top
  have fullPath : full.header ++ [name] = [name] := by rw [fullTop]; rfl
  have passed : Document.stems full.header [name] = [] := rfl
  obtain ⟨table, altered, covers, vacant⟩ := overlaid.tables.enterTop path new gives .overwritten
  have root : Toml.isFrozen full.frozen [] = false :=
    overlaid.unfrozen (show [] <+: setting.path from List.nil_prefix) (by decide) fun _ => by decide
  have unfrozen : Toml.isFrozen full.frozen (full.header ++ [name].dropLast) = false := by
    rw [fullTop]
    exact root
  refine ⟨_, (Document.enter_eq_ok_iff fullPath (by simp)).2
    ⟨by simp [passed], unfrozen, table, altered, rfl⟩, ?_⟩
  exact overlaid.marks covers (fun _ => vacant) (fullPath.trans path.symm) gives (by simp [passed])

/-- An entry with a setting of the tool, under its header or by a dotted key. -/
theorem Overlaid.enterTool (overlaid : Overlaid given form done plain full) {name : String}
    (path : setting.path = ["tool", name])
    (home : form = .headed ∧ plain.header = ["tool"] ∧ key = [name] ∨
      form = .dotted ∧ plain.header = [] ∧ key = ["tool", name])
    (new : setting ∉ done) (gives : given.value? setting = some value) :
    ∃ fullAfter, full.enter key value = .ok fullAfter ∧
      Overlaid given form (setting :: done) plain fullAfter := by
  have apart : form ≠ .inline := by
    rcases home with ⟨rfl, -⟩ | ⟨rfl, -⟩ <;> simp
  have some : key ≠ [] := by
    rcases home with ⟨-, -, rfl⟩ | ⟨-, -, rfl⟩ <;> simp
  have fullPath : full.header ++ key = ["tool", name] := by
    rw [overlaid.header]
    rcases home with ⟨-, header, rfl⟩ | ⟨-, header, rfl⟩ <;> rw [header] <;> rfl
  have parent : full.header ++ key.dropLast = ["tool"] := by
    rw [overlaid.header]
    rcases home with ⟨-, header, rfl⟩ | ⟨-, header, rfl⟩ <;> rw [header] <;> rfl
  have passed : ∀ stem ∈ Document.stems full.header key,
      form = .dotted ∧ stem = ["tool"] ∧ full.declared = [] := by
    intro stem member
    rcases home with ⟨-, -, rfl⟩ | ⟨dotted, header, rfl⟩
    · cases member
    · have top := overlaid.header.trans header
      rw [top] at member
      obtain rfl : stem = ["tool"] := by simpa [Document.stems] using member
      exact ⟨dotted, rfl, overlaid.start top⟩
  have free : ∀ stem ∈ Document.stems full.header key, stem ∉ full.declared := by
    intro stem member
    rw [(passed stem member).2.2]
    exact List.not_mem_nil
  obtain ⟨table, altered, covers⟩ := overlaid.tables.enterTool path new gives .overwritten
  have unfrozen : Toml.isFrozen full.frozen (full.header ++ key.dropLast) = false := by
    rw [parent]
    exact overlaid.unfrozen (show ["tool"] <+: setting.path by rw [path]; simp) (by decide)
      fun inline => absurd inline apart
  refine ⟨_, (Document.enter_eq_ok_iff fullPath some).2 ⟨free, unfrozen, table, altered, rfl⟩, ?_⟩
  exact overlaid.marks covers (fun inline => absurd inline apart) (fullPath.trans path.symm) gives
    fun stem member => ⟨(passed stem member).1, (passed stem member).2.1⟩

/-- An entry with a setting, wherever its form puts it. -/
theorem Overlaid.give (overlaid : Overlaid given form done plain full)
    (path : plain.header ++ key = setting.path) (home : form.home? setting = some plain.header)
    (new : setting ∉ done) (gives : given.value? setting = some value) :
    ∃ fullAfter, full.enter key value = .ok fullAfter ∧
      Overlaid given form (setting :: done) plain fullAfter := by
  rcases setting.path_cases with ⟨name, shape, -⟩ | ⟨name, shape⟩
  · have top : plain.header = [] := by simpa [Form.home?, shape, eq_comm] using home
    obtain rfl : key = [name] := by simpa [top, shape] using path
    exact overlaid.enterTop shape top new gives
  · refine overlaid.enterTool shape ?_ new gives
    cases form with
    | headed =>
      have under : plain.header = ["tool"] := by simpa [Form.home?, shape, eq_comm] using home
      exact .inl ⟨rfl, under, by simpa [under, shape] using path⟩
    | inline => simp [Form.home?, shape] at home
    | dotted =>
      have top : plain.header = [] := by simpa [Form.home?, shape, eq_comm] using home
      exact .inr ⟨rfl, top, by simpa [top, shape] using path⟩

theorem absent_of_enter {inner : Table} (top : plain.header = [])
    (entered : plain.enter ["tool"] (.table inner) = .ok after) : plain.table.get? "tool" = none := by
  have path : plain.header ++ ["tool"] = ["tool"] := by rw [top]; rfl
  obtain ⟨-, -, table, altered, -⟩ := (Document.enter_eq_ok_iff path (by simp)).1 entered
  exact (changeAt_fresh_eq_ok_iff.1 altered).1

/-- As long as there is no table of the tool, none of its settings is done. -/
theorem Overlaid.vacant_tool (overlaid : Overlaid given form done plain full) (inline : form = .inline)
    (absent : plain.table.get? "tool" = none) : CoversAt ["tool"] given done [] [] := by
  have fullAbsent := overlaid.vacant inline absent
  obtain ⟨inner, fullInner, held, fullHeld, covers⟩ := overlaid.tables.tool
  obtain rfl : inner = [] := by simpa [Table.sub?, absent, eq_comm] using held
  obtain rfl : fullInner = [] := by simpa [Table.sub?, fullAbsent, eq_comm] using fullHeld
  exact covers

/-- The tool's table on one line, with its settings or without. -/
theorem Overlaid.enterTable (overlaid : Overlaid given form done plain full) (inline : form = .inline)
    (top : plain.header = []) {settings : List Setting} {inner fullInner : Table}
    (below : ∀ setting ∈ settings, ∃ name, setting.path = ["tool", name])
    (covers : CoversAt ["tool"] given (settings ++ done) inner fullInner)
    (entered : plain.enter ["tool"] (.table inner) = .ok after) :
    ∃ fullAfter, full.enter ["tool"] (.table fullInner) = .ok fullAfter ∧
      Overlaid given form (settings ++ done) after fullAfter := by
  have fullTop : full.header = [] := overlaid.header.trans top
  have path : plain.header ++ ["tool"] = ["tool"] := by rw [top]; rfl
  have fullPath : full.header ++ ["tool"] = ["tool"] := by rw [fullTop]; rfl
  obtain ⟨-, -, table, altered, rfl⟩ := (Document.enter_eq_ok_iff path (by simp)).1 entered
  obtain ⟨absent, rfl⟩ := changeAt_fresh_eq_ok_iff.1 altered
  have root : Toml.isFrozen full.frozen [] = false :=
    overlaid.unfrozen (show [] <+: Setting.name.path from List.nil_prefix) (by decide) fun _ => by decide
  have unfrozen : Toml.isFrozen full.frozen (full.header ++ ["tool"].dropLast) = false := by
    rw [fullTop]
    exact root
  have fullAltered : Table.alter true (Toml.fresh (.table fullInner) .overwritten) "tool" [] full.table =
      .ok (full.table.put "tool" (.table fullInner)) :=
    changeAt_fresh_eq_ok_iff.2 ⟨overlaid.vacant inline absent, rfl⟩
  refine ⟨_, (Document.enter_eq_ok_iff fullPath (by simp)).2
    ⟨by simp [Document.stems], unfrozen, _, fullAltered, rfl⟩, ?_⟩
  refine ⟨overlaid.header, overlaid.start, overlaid.declared, ?_, ?_, ?_,
    overlaid.tables.enterTable below covers, ?_⟩
  · simpa [Document.stems] using overlaid.pending
  · intro stem member
    simp only [Value.isNested, if_true, List.mem_cons, path, fullPath] at member ⊢
    rcases member with rfl | member
    · exact .inl (.inl rfl)
    · exact (overlaid.frozen stem member).imp_left .inr
  · intro stem member
    simp only [Value.isNested, if_true, List.mem_cons, path] at member
    rcases member with rfl | member
    · exact .inr ⟨inline, rfl⟩
    · exact overlaid.foreign stem member
  · intro _ none
    simp [Table.get?_put] at none

theorem overlaid_nil : Overlaid given form [] {} {} where
  header := rfl
  start _ := rfl
  declared _ member := nomatch member
  pending _ member := nomatch member
  frozen _ member := nomatch member
  foreign _ member := nomatch member
  tables := covers_nil
  vacant _ _ := rfl

end Bookbinder.Settings
