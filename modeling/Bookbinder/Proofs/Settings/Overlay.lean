import Bookbinder.Proofs.Settings.Bare
import Bookbinder.Proofs.Settings.Offenders
import Bookbinder.Proofs.Settings.Overlaid

/-!
A settings file with some of the settings, read line by line beside the same file without them. Main
statement: `loadSettings_of_laysOut`, that a file which lays out some settings, among anything else that
can be read, loads as these settings over the built-in ones.
-/

set_option autoImplicit false

namespace Bookbinder.Settings

open Toml (Key Table Value Document Statement States)

variable {given : Partial} {form : Form} {done : List Setting}

theorem followAll_singleton (document : Document) (statement : Statement) :
    document.followAll [statement] = document.follow statement := by
  simp [Document.followAll]

/-- A line keeps what is read of a file with the settings beside what is read of it without them. -/
theorem Line.Fits.step {line : Line} {header : Key} (fit : line.Fits given form header)
    (once : line.settings.Nodup) :
    ∃ plainStated stated, Toml.StateAll (line.plain.map Line.text) plainStated ∧
      States line.text stated ∧
      ∀ {done : List Setting} {plain full after : Document}, Overlaid given form done plain full →
        plain.header = header → (∀ setting ∈ line.settings, setting ∉ done) →
        plain.followAll plainStated = .ok after →
        ∃ fullAfter, full.followAll stated = .ok fullAfter ∧
          Overlaid given form (line.settings ++ done) after fullAfter ∧
          after.header = line.leaves header := by
  cases line with
  | setting entry =>
    obtain ⟨⟨key, path, names, value, gives, spells⟩, home, ends⟩ := fit
    refine ⟨[], [.entry key value], .nil, Toml.states_entry names spells.writes ends, ?_⟩
    rintro done plain full after overlaid rfl new followed
    cases followed
    obtain ⟨fullAfter, entered, overlaidAfter⟩ :=
      overlaid.give path home (new _ List.mem_cons_self) gives
    exact ⟨fullAfter, (followAll_singleton full _).trans entered, overlaidAfter, rfl⟩
  | tool lead blanks items trail =>
    obtain ⟨inline, rfl, names, blank, ends, fits, table, states⟩ := fit
    obtain ⟨plainPairs, pairs, plainAre, are, onward⟩ := enterAll_items fits once
    have entered := (Toml.states_inlineText_iff names plainAre blank ends).1 states
    have below : ∀ setting ∈ items.flatMap Item.settings, ∃ name, setting.path = ["tool", name] := by
      intro setting member
      obtain ⟨item, among, held⟩ := List.mem_flatMap.1 member
      have fit := fits item among
      cases item with
      | setting entry =>
        obtain rfl : setting = entry.setting := by simpa [Item.settings] using held
        obtain ⟨⟨name, path, -⟩, -⟩ := fit
        exact ⟨name, path⟩
      | other text pair => cases held
    -- what the entries make up does not depend on what is done before
    have unfrozen : ∀ key ∈ ([] : List Key), Foreign ("tool" :: key) := by simp
    obtain ⟨fullTable, fullEntered, -⟩ := onward (fun _ _ => List.not_mem_nil) unfrozen coversAt_nil entered
    have plainStates : Toml.StateAll [toolText lead blanks (items.filter Item.isOther) trail]
        ([.entry ["tool"] (.table table)] ++ []) := .cons states .nil
    refine ⟨[.entry ["tool"] (.table table)], [.entry ["tool"] (.table fullTable)], plainStates,
      (Toml.states_inlineText_iff names are blank ends).2 fullEntered, ?_⟩
    intro done plain full after overlaid top new followed
    have followed : plain.enter ["tool"] (.table table) = .ok after :=
      (followAll_singleton plain _).symm.trans followed
    obtain ⟨again, reentered, covers⟩ := onward new unfrozen
      (overlaid.vacant_tool inline (absent_of_enter top followed)) entered
    obtain rfl : fullTable = again := Except.ok.inj (fullEntered.symm.trans reentered)
    obtain ⟨fullAfter, fullFollowed, overlaidAfter⟩ := overlaid.enterTable inline top below covers followed
    exact ⟨fullAfter, (followAll_singleton full _).trans fullFollowed, overlaidAfter,
      (Document.header_enter (by simp) followed).trans top⟩
  | other text stated =>
    obtain ⟨states, allowed⟩ := fit
    have single : Toml.StateAll [text] (stated ++ []) := .cons states .nil
    rw [List.append_nil] at single
    refine ⟨stated, stated, single, states, ?_⟩
    rintro done plain full after overlaid rfl - followed
    cases stated with
    | nil =>
      cases followed
      exact ⟨full, rfl, overlaid, rfl⟩
    | cons statement others =>
      obtain rfl : others = [] := by cases states <;> rfl
      rw [followAll_singleton] at followed
      obtain ⟨fullAfter, fullFollowed, overlaidAfter, header⟩ :=
        overlaid.follow states (allowed statement List.mem_cons_self) followed
      exact ⟨fullAfter, (followAll_singleton full _).trans fullFollowed, overlaidAfter, header⟩

/-- All lines, one after the other. -/
theorem FitAll.run {lines : List Line} {header : Key} (fit : FitAll given form header lines)
    (once : (lines.flatMap Line.settings).Nodup) :
    ∃ plainStated stated, Toml.StateAll ((lines.flatMap Line.plain).map Line.text) plainStated ∧
      Toml.StateAll (lines.map Line.text) stated ∧
      ∀ {done : List Setting} {plain full after : Document}, Overlaid given form done plain full →
        plain.header = header → (∀ setting ∈ lines.flatMap Line.settings, setting ∉ done) →
        plain.followAll plainStated = .ok after →
        ∃ fullAfter, full.followAll stated = .ok fullAfter ∧
          Overlaid given form (lines.flatMap Line.settings ++ done) after fullAfter := by
  induction lines generalizing header with
  | nil =>
    refine ⟨[], [], .nil, .nil, fun {done plain full after} overlaid _ _ followed => ?_⟩
    cases followed
    exact ⟨full, rfl, overlaid⟩
  | cons line lines ih =>
    rw [List.flatMap_cons] at once
    obtain ⟨onceHere, onceLater, apart⟩ := List.nodup_append.1 once
    obtain ⟨plainHere, here, plainStates, states, step⟩ := fit.1.step onceHere
    obtain ⟨plainLater, later, plainOthers, others, onward⟩ := ih fit.2 onceLater
    refine ⟨plainHere ++ plainLater, here ++ later, ?_, .cons states others, ?_⟩
    · rw [List.flatMap_cons, List.map_append]
      exact plainStates.append plainOthers
    · intro done plain full after overlaid top new followed
      rw [Toml.followAll_append] at followed
      obtain ⟨between, first, followed⟩ := bind_eq_ok_iff.1 followed
      simp only [List.flatMap_cons, List.mem_append] at new
      obtain ⟨fullBetween, fullFirst, overlaidBetween, header⟩ :=
        step overlaid top (fun setting member => new setting (.inl member)) first
      have stillNew : ∀ setting ∈ lines.flatMap Line.settings, setting ∉ line.settings ++ done := by
        intro setting member
        rw [List.mem_append, not_or]
        exact ⟨fun before => apart setting before setting member rfl, new setting (.inr member)⟩
      obtain ⟨fullAfter, fullFollowed, overlaidAfter⟩ := onward overlaidBetween header stillNew followed
      refine ⟨fullAfter, ?_, overlaidAfter.of_mem fun setting => ?_⟩
      · rw [Toml.followAll_append, fullFirst]
        exact fullFollowed
      · simp only [List.flatMap_cons, List.mem_append]
        tauto

/-- Once all settings are done, the tables hold what is given. -/
theorem Covers.holds {plain full : Table} (covers : Covers given done plain full)
    (all : ∀ setting, (given.value? setting).isSome → setting ∈ done) : Holds full given := by
  have held (setting : Setting) : given.held done setting = given.value? setting := by
    unfold Partial.held
    split
    · rfl
    · next absent =>
      refine (Option.not_isSome_iff_eq_none.1 fun some => absent (all setting some)).symm
  obtain ⟨inner, fullInner, -, fullHeld, tool⟩ := covers.tool
  exact ⟨fun path => (covers.top.settings path).trans (held _), fullInner, fullHeld,
    fun path => (tool.settings path).trans (held _)⟩

/-- The table of a file that lays out some settings holds them. -/
theorem LaysOut.holds {lines : List Line} (lays : LaysOut lines given form) :
    ∃ table, Toml.parse (textOf lines) = .ok table ∧ Holds table given := by
  obtain ⟨plainStated, stated, plainStates, states, run⟩ := lays.fit.run lays.once
  obtain ⟨plainTable, readable⟩ := lays.readable
  obtain ⟨plainLast, plainFollowed, -⟩ :=
    (eq_ok_iff_of_toOption (Toml.parse_joinWith plainStates)).1 readable
  obtain ⟨last, followed, overlaid⟩ := run overlaid_nil rfl (fun _ _ => List.not_mem_nil) plainFollowed
  refine ⟨last.table, ?_, overlaid.tables.holds fun setting some => ?_⟩
  · exact (eq_ok_iff_of_toOption (Toml.parse_joinWith states)).2 ⟨last, followed, rfl⟩
  · exact List.mem_append_left [] (lays.all setting some)

def mirrorGiven : Partial := { bookDir := some "docs", version := some "v2" }

/-- Settings under dotted keys, below a key of the tool that is no setting. -/
def mirrorLines : List Line :=
  .other (keyText ["tool", "mirror"] ++ (writeText "m" ++ [])) [.entry ["tool", "mirror"] (.text "m")] ::
    bareLines mirrorGiven .dotted

def mirrorText : String := "tool.mirror = \"m\"\nbook_dir = \"docs\"\ntool.version = \"v2\""

theorem laysOut_mirrorLines : LaysOut mirrorLines mirrorGiven .dotted := by
  have names : Toml.Names (keyText ["tool", "mirror"]) ["tool", "mirror"] := ⟨[' '], rfl, rfl⟩
  have foreign : Foreign ["tool", "mirror"] := by
    intro setting
    cases setting <;> decide
  exact (laysOut_bareLines mirrorGiven .dotted).below
    (Toml.states_entry names (Toml.Spells.text "m").writes rfl) foreign
    (exists_ok_of_isOk (by decide))

end Bookbinder.Settings
