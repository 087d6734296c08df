import Bookbinder.Proofs.Settings.Partial

/-!
Two tables that differ in nothing but settings: one holds some of them, the other none, and whatever
stands under keys that no setting has is the same. A change under such a key keeps them so, and a setting
can be added to the one. Main statements: `Covers.alter` and `Covers.enter`.
-/

set_option autoImplicit false

namespace Bookbinder.Settings

open Toml (Key Table Value)

/-- A key that leads neither to a setting nor on from one. -/
def Foreign (key : Key) : Prop := ∀ setting : Setting, ¬ key <+: setting.path ∧ ¬ setting.path <+: key

theorem Setting.path_cases (setting : Setting) :
    (∃ name, setting.path = [name] ∧ name ≠ "tool") ∨ ∃ name, setting.path = ["tool", name] := by
  cases setting
  · exact .inl ⟨_, rfl, by decide⟩
  · exact .inl ⟨_, rfl, by decide⟩
  all_goals exact .inr ⟨_, rfl⟩

theorem Setting.eq_of_path {setting other : Setting} (same : setting.path = other.path) :
    setting = other := by
  cases setting <;> cases other <;> first | rfl | exact absurd same (by decide)

/-- A foreign key leaves the keys of settings at its first name, or at its second one below the tool's. -/
theorem Foreign.cases {key : Key} (foreign : Foreign key) :
    ∃ name rest, key = name :: rest ∧
      ((∀ setting : Setting, ¬ [name] <+: setting.path) ∨
        name = "tool" ∧ ∃ second others, rest = second :: others ∧
          ∀ setting : Setting, ¬ ["tool", second] <+: setting.path) := by
  cases key with
  | nil => exact absurd List.nil_prefix (foreign .name).1
  | cons name rest =>
    refine ⟨name, rest, rfl, ?_⟩
    by_cases leading : ∃ setting : Setting, [name] <+: setting.path
    · obtain ⟨setting, leads⟩ := leading
      rcases setting.path_cases with ⟨only, path, -⟩ | ⟨last, path⟩
      · rw [path] at leads
        obtain rfl : name = only := by simpa using leads
        exact absurd (by rw [path]; simp) (foreign setting).2
      · rw [path] at leads
        obtain rfl : name = "tool" := by simpa using leads
        cases rest with
        | nil => exact absurd (by rw [path]; simp) (foreign setting).1
        | cons second others =>
          refine .inr ⟨rfl, second, others, rfl, fun other leads => ?_⟩
          rcases other.path_cases with ⟨only, path, -⟩ | ⟨last, path⟩
          · rw [path] at leads
            simp at leads
          · rw [path] at leads
            obtain rfl : second = last := by simpa using leads
            exact absurd (by rw [path]; simp) (foreign other).2
    · exact .inl fun setting leads => leading ⟨setting, leads⟩

/-- What is held of a setting when some of them are done. -/
def Partial.held (given : Partial) (done : List Setting) (setting : Setting) : Option Value :=
  if setting ∈ done then given.value? setting else none

/-- Below a stem, one table holds the settings that are done, and else what the other holds. -/
structure CoversAt (stem : Key) (given : Partial) (done : List Setting) (plain full : Table) : Prop where
  others : ∀ {name : String}, (∀ setting : Setting, ¬ stem ++ [name] <+: setting.path) →
    full.get? name = plain.get? name
  settings : ∀ {setting : Setting} {name : String}, setting.path = stem ++ [name] →
    full.get? name = given.held done setting

variable {stem : Key} {given : Partial} {done : List Setting} {plain full after : Table} {name : String}
  {setting : Setting} {value : Value}

theorem coversAt_nil : CoversAt stem given [] [] [] :=
  ⟨fun _ => rfl, fun _ => by simp [Partial.held, Table.get?, Pairs.get?]⟩

theorem changeAt_eq_ok_iff {change : Option Value → Except Toml.Fault Value} {table : Table} :
    Table.changeAt name change table = .ok after ↔
      ∃ value, change (table.get? name) = .ok value ∧ table.put name value = after :=
  map_eq_ok_iff

theorem changeAt_fresh_eq_ok_iff {taken : Toml.Fault} {table : Table} :
    Table.changeAt name (Toml.fresh value taken) table = .ok after ↔
      table.get? name = none ∧ table.put name value = after := by
  unfold Table.changeAt
  cases held : table.get? name with
  | none => simp [Toml.fresh, Except.map]
  | some old => simp [Toml.fresh, Except.map]

theorem CoversAt.changeAt (covers : CoversAt stem given done plain full)
    (other : ∀ setting : Setting, ¬ stem ++ [name] <+: setting.path)
    {change : Option Value → Except Toml.Fault Value} (changed : Table.changeAt name change plain = .ok after) :
    ∃ fullAfter, Table.changeAt name change full = .ok fullAfter ∧
      CoversAt stem given done after fullAfter := by
  obtain ⟨value, gives, rfl⟩ := changeAt_eq_ok_iff.1 changed
  rw [← covers.others other] at gives
  refine ⟨full.put name value, changeAt_eq_ok_iff.2 ⟨value, gives, rfl⟩, ?_, ?_⟩
  · intro third foreign
    rw [Table.get?_put, Table.get?_put, covers.others foreign]
  · intro setting third path
    have different : name ≠ third := by
      rintro rfl
      exact other setting (path ▸ List.prefix_rfl)
    rw [Table.get?_put, if_neg different, covers.settings path]

/-- A setting that is not done yet can be added. -/
theorem CoversAt.enter (covers : CoversAt stem given done plain full) (path : setting.path = stem ++ [name])
    (new : setting ∉ done) (gives : given.value? setting = some value) (taken : Toml.Fault) :
    ∃ fullAfter, Table.changeAt name (Toml.fresh value taken) full = .ok fullAfter ∧
      CoversAt stem given (setting :: done) plain fullAfter := by
  have absent : full.get? name = none := by
    rw [covers.settings path, Partial.held, if_neg new]
  refine ⟨full.put name value, changeAt_eq_ok_iff.2 ⟨value, by rw [absent]; rfl, rfl⟩, ?_, ?_⟩
  · intro other foreign
    have different : name ≠ other := by
      rintro rfl
      exact foreign setting (path ▸ List.prefix_rfl)
    rw [Table.get?_put, if_neg different, covers.others foreign]
  · intro second other otherPath
    rw [Table.get?_put]
    by_cases same : name = other
    · subst same
      obtain rfl := Setting.eq_of_path (path.trans otherPath.symm)
      simp [Partial.held, gives]
    · have different : second ≠ setting := by
        rintro rfl
        simp [path] at otherPath
        exact same otherPath
      rw [if_neg same, covers.settings otherPath]
      simp [Partial.held, different]

/-- What is done elsewhere does not matter. -/
theorem CoversAt.elsewhere (covers : CoversAt stem given done plain full)
    (apart : ∀ name, setting.path ≠ stem ++ [name]) :
    CoversAt stem given (setting :: done) plain full := by
  refine ⟨covers.others, fun {other name} path => ?_⟩
  have different : other ≠ setting := by
    rintro rfl
    exact apart name path
  rw [covers.settings path]
  simp [Partial.held, different]

theorem CoversAt.elsewhereAll (covers : CoversAt stem given done plain full) {settings : List Setting}
    (apart : ∀ setting ∈ settings, ∀ name, setting.path ≠ stem ++ [name]) :
    CoversAt stem given (settings ++ done) plain full := by
  induction settings with
  | nil => exact covers
  | cons setting settings ih =>
    exact (ih fun other member => apart other (List.mem_cons_of_mem _ member)).elsewhere
      (apart setting List.mem_cons_self)

theorem CoversAt.of_mem (covers : CoversAt stem given done plain full) {other : List Setting}
    (same : ∀ setting, setting ∈ done ↔ setting ∈ other) : CoversAt stem given other plain full := by
  refine ⟨covers.others, fun path => ?_⟩
  rw [covers.settings path]
  simp only [Partial.held, same]

/-- Two tables of a whole file. -/
structure Covers (given : Partial) (done : List Setting) (plain full : Table) : Prop where
  top : CoversAt [] given done plain full
  tool : ∃ inner fullInner, plain.sub? "tool" = some inner ∧ full.sub? "tool" = some fullInner ∧
    CoversAt ["tool"] given done inner fullInner

theorem covers_nil : Covers given [] [] [] := ⟨coversAt_nil, [], [], rfl, rfl, coversAt_nil⟩

theorem Covers.of_mem (covers : Covers given done plain full) {other : List Setting}
    (same : ∀ setting, setting ∈ done ↔ setting ∈ other) : Covers given other plain full := by
  obtain ⟨inner, fullInner, held, fullHeld, tool⟩ := covers.tool
  exact ⟨covers.top.of_mem same, inner, fullInner, held, fullHeld, tool.of_mem same⟩

theorem sub?_put (table : Table) (name other : String) (value : Value) :
    (table.put name value).sub? other =
      if name = other then (match value with | .table inner => some inner | _ => none)
      else table.sub? other := by
  simp only [Table.sub?, Table.get?_put]
  by_cases same : name = other
  · simp only [if_pos same]
    cases value <;> rfl
  · simp only [if_neg same]

theorem sub?_put_table (table : Table) (name : String) (inner : Table) :
    (table.put name (.table inner)).sub? name = some inner := by
  rw [sub?_put, if_pos rfl]

theorem get?_put_of_ne (table : Table) {name other : String} (apart : other ≠ name) (value : Value) :
    (table.put name value).get? other = table.get? other := by
  rw [Table.get?_put, if_neg (Ne.symm apart)]

/-- The key of the tool's table leads to settings and is no setting, so what stands there does not show at
the top. -/
theorem CoversAt.of_apart (covers : CoversAt [] given done plain full) {plainAfter fullAfter : Table}
    (plainSame : ∀ {name : String}, name ≠ "tool" → plainAfter.get? name = plain.get? name)
    (fullSame : ∀ {name : String}, name ≠ "tool" → fullAfter.get? name = full.get? name) :
    CoversAt [] given done plainAfter fullAfter := by
  constructor
  · intro name foreign
    have apart : name ≠ "tool" := by
      rintro rfl
      exact foreign .name (by decide)
    rw [plainSame apart, fullSame apart, covers.others foreign]
  · intro setting name path
    have apart : name ≠ "tool" := by
      rintro rfl
      cases setting <;> simp [Setting.path] at path
    rw [fullSame apart, covers.settings path]

theorem changeAt_within {table inner : Table} (held : table.sub? name = some inner) (intoArrays : Bool)
    (change : Table → Except Toml.Fault Table) :
    Table.changeAt name (Toml.within intoArrays change) table =
      (change inner).map fun changed => table.put name (.table changed) := by
  unfold Table.sub? at held
  unfold Table.changeAt
  split at held
  · next absent =>
    cases held
    rw [absent, Toml.within]
    cases change [] <;> rfl
  · next found =>
    cases held
    rw [found, Toml.within]
    cases change inner <;> rfl
  · cases held

theorem alter_eq_changeAt (intoArrays : Bool) (change : Option Value → Except Toml.Fault Value)
    (name : String) (rest : Key) :
    ∃ first, Table.alter intoArrays change name rest = Table.changeAt name first := by
  cases rest with
  | nil => exact ⟨_, rfl⟩
  | cons next rest => exact ⟨_, rfl⟩

/-- A change within the tool's table. -/
theorem Covers.changeTool (covers : Covers given done plain full) {intoArrays : Bool}
    {change : Table → Except Toml.Fault Table}
    (keeps : ∀ {inner fullInner innerAfter}, CoversAt ["tool"] given done inner fullInner →
      change inner = .ok innerAfter → ∃ fullInnerAfter, change fullInner = .ok fullInnerAfter ∧
        CoversAt ["tool"] given done innerAfter fullInnerAfter)
    (changed : Table.changeAt "tool" (Toml.within intoArrays change) plain = .ok after) :
    ∃ fullAfter, Table.changeAt "tool" (Toml.within intoArrays change) full = .ok fullAfter ∧
      Covers given done after fullAfter ∧ after.get? "tool" ≠ none := by
  obtain ⟨inner, fullInner, held, fullHeld, tool⟩ := covers.tool
  rw [changeAt_within held] at changed
  obtain ⟨innerAfter, innerChanged, rfl⟩ := map_eq_ok_iff.1 changed
  obtain ⟨fullInnerAfter, fullChanged, toolAfter⟩ := keeps tool innerChanged
  refine ⟨full.put "tool" (.table fullInnerAfter), ?_, ⟨?_, ?_⟩, ?_⟩
  · rw [changeAt_within fullHeld, fullChanged]
    rfl
  · exact covers.top.of_apart (fun apart => get?_put_of_ne plain apart _)
      (fun apart => get?_put_of_ne full apart _)
  · exact ⟨innerAfter, fullInnerAfter, sub?_put_table _ _ _, sub?_put_table _ _ _, toolAfter⟩
  · simp [Table.get?_put]

/-- A change under a foreign key. -/
theorem Covers.alter (covers : Covers given done plain full) {rest : Key} (foreign : Foreign (name :: rest))
    {change : Option Value → Except Toml.Fault Value}
    (changed : Table.alter true change name rest plain = .ok after) :
    ∃ fullAfter, Table.alter true change name rest full = .ok fullAfter ∧
      Covers given done after fullAfter ∧
      (after.get? "tool" = none → plain.get? "tool" = none ∧ fullAfter.get? "tool" = full.get? "tool") := by
  obtain ⟨first, keys, same, other | ⟨rfl, second, others, rfl, other⟩⟩ := foreign.cases
  · cases same
    have apart : name ≠ "tool" := by
      rintro rfl
      exact other .name (by decide)
    obtain ⟨first, shape⟩ := alter_eq_changeAt true change name rest
    rw [shape] at changed ⊢
    obtain ⟨fullAfter, fullChanged, top⟩ := covers.top.changeAt other changed
    obtain ⟨value, -, rfl⟩ := changeAt_eq_ok_iff.1 changed
    obtain ⟨fullValue, -, rfl⟩ := changeAt_eq_ok_iff.1 fullChanged
    refine ⟨_, fullChanged, ⟨top, ?_⟩, ?_⟩
    · simpa only [sub?_put, if_neg apart] using covers.tool
    · simp only [Table.get?_put, if_neg apart]
      exact fun absent => ⟨absent, trivial⟩
  · cases same
    obtain ⟨first, shape⟩ := alter_eq_changeAt true change second others
    have keeps {inner fullInner innerAfter : Table} (tool : CoversAt ["tool"] given done inner fullInner)
        (changed : Table.alter true change second others inner = .ok innerAfter) :
        ∃ fullInnerAfter, Table.alter true change second others fullInner = .ok fullInnerAfter ∧
          CoversAt ["tool"] given done innerAfter fullInnerAfter := by
      rw [shape] at changed ⊢
      exact tool.changeAt other changed
    obtain ⟨fullAfter, fullChanged, coversAfter, some⟩ := covers.changeTool keeps changed
    exact ⟨fullAfter, fullChanged, coversAfter, fun absent => absurd absent some⟩

/-- The header of the tool's table. -/
theorem Covers.openTool (covers : Covers given done plain full)
    (changed : Table.alter true (Toml.within true .ok) "tool" [] plain = .ok after) :
    ∃ fullAfter, Table.alter true (Toml.within true .ok) "tool" [] full = .ok fullAfter ∧
      Covers given done after fullAfter ∧ after.get? "tool" ≠ none :=
  covers.changeTool (fun tool changed => by cases changed; exact ⟨_, rfl, tool⟩) changed

/-- A setting at the top of a file. -/
theorem Covers.enterTop (covers : Covers given done plain full) (path : setting.path = [name])
    (new : setting ∉ done) (gives : given.value? setting = some value) (taken : Toml.Fault) :
    ∃ fullAfter, Table.alter true (Toml.fresh value taken) name [] full = .ok fullAfter ∧
      Covers given (setting :: done) plain fullAfter ∧ fullAfter.get? "tool" = full.get? "tool" := by
  have apart : name ≠ "tool" := by
    rintro rfl
    cases setting <;> simp [Setting.path] at path
  obtain ⟨fullAfter, changed, top⟩ := covers.top.enter path new gives taken
  obtain ⟨held, -, rfl⟩ := changeAt_eq_ok_iff.1 changed
  obtain ⟨inner, fullInner, tool, fullTool, coversTool⟩ := covers.tool
  refine ⟨_, changed, ⟨top, inner, fullInner, tool, ?_, coversTool.elsewhere ?_⟩, ?_⟩
  · rw [sub?_put, if_neg apart, fullTool]
  · intro other same
    rw [path] at same
    simp at same
  · rw [Table.get?_put, if_neg apart]

/-- A setting of the tool. -/
theorem Covers.enterTool (covers : Covers given done plain full) (path : setting.path = ["tool", name])
    (new : setting ∉ done) (gives : given.value? setting = some value) (taken : Toml.Fault) :
    ∃ fullAfter, Table.alter true (Toml.fresh value taken) "tool" [name] full = .ok fullAfter ∧
      Covers given (setting :: done) plain fullAfter := by
  obtain ⟨inner, fullInner, tool, fullTool, coversTool⟩ := covers.tool
  obtain ⟨fullInnerAfter, changed, coversAfter⟩ := coversTool.enter path new gives taken
  refine ⟨full.put "tool" (.table fullInnerAfter), ?_, ⟨?_, ?_⟩⟩
  · rw [Table.alter, changeAt_within fullTool, Table.alter, changed]
    rfl
  · refine (covers.top.of_apart (fun _ => rfl) (fun apart => get?_put_of_ne full apart _)).elsewhere
      fun other same => ?_
    rw [path] at same
    simp at same
  · exact ⟨inner, fullInnerAfter, tool, sub?_put_table _ _ _, coversAfter⟩

/-- The tool's table on one line. -/
theorem Covers.enterTable (covers : Covers given done plain full) {settings : List Setting}
    {inner fullInner : Table} (below : ∀ setting ∈ settings, ∃ name, setting.path = ["tool", name])
    (tool : CoversAt ["tool"] given (settings ++ done) inner fullInner) :
    Covers given (settings ++ done) (plain.put "tool" (.table inner)) (full.put "tool" (.table fullInner)) := by
  refine ⟨CoversAt.elsewhereAll ?_ ?_, inner, fullInner, sub?_put_table _ _ _, sub?_put_table _ _ _, tool⟩
  · exact covers.top.of_apart (fun apart => get?_put_of_ne plain apart _)
      (fun apart => get?_put_of_ne full apart _)
  · intro setting member name same
    obtain ⟨last, path⟩ := below setting member
    rw [path] at same
    simp at same

end Bookbinder.Settings
