import Bookbinder.Build
import Bookbinder.Workbench.Rehearsal
import Bookbinder.Proofs.Settings.Document

/-!
The book directory of a build, after any number of overrides. Main statement: it is absolute, it is the last of
them seen from the current directory, it comes back as it was when it is saved as text and read again, and nothing
else of a build changes with it.
-/

set_option autoImplicit false

namespace Bookbinder

namespace Settings

/-- A directory is the same after it was written into a settings file as a book directory and read from there. -/
def Returns (settings : Settings) (directory : Path) : Prop :=
  ∃ table text, Toml.parse (Text.unifyNewlines (settings.withBookDir directory).write) = .ok table ∧
    (∀ file, requireText table "book_dir" defaultBookDir file = .ok text) ∧ Path.parse text = directory

/-- That does not depend on the other settings, though they may be refused. -/
theorem returns (settings : Settings) (directory : Path) : settings.Returns directory := by
  refine ⟨_, directory.text, parse_write _, fun file => ?_, directory.parse_text⟩
  rw [requireText_of_get? defaultBookDir file rfl]
  exact if_neg directory.text_ne_empty

end Settings

namespace Context

/-- A context with one book directory after the other in place of its own. -/
def overridden (context : Context) (overrides : List Path) : Context := overrides.foldl withBookDir context

/-- Of several book directories, only the last one counts. -/
theorem overridden_eq (context : Context) (overrides : List Path) :
    context.overridden overrides =
      { context with settings := { context.settings with
          bookDir := overrides.getLastD context.settings.bookDir } } := by
  induction overrides generalizing context with
  | nil => rfl
  | cons first others ih =>
    rw [overridden, List.foldl_cons]
    refine (ih (context.withBookDir first)).trans ?_
    cases others <;> rfl

theorem bookDir_overridden (context : Context) (overrides : List Path) :
    (context.overridden overrides).bookDir = context.cwd / overrides.getLastD context.settings.bookDir := by
  rw [overridden_eq]
  rfl

/-- A directory that is absolute is the same from everywhere. -/
theorem bookDir_of_isAbsolute (context : Context) {directory : Path} (absolute : directory.isAbsolute = true) :
    (context.withBookDir directory).bookDir = directory := by
  show context.cwd.join directory = directory
  rw [Path.isAbsolute, bne_iff_ne] at absolute
  rw [Path.join]
  split
  · next here => exact absurd here absolute
  · rfl

/-- Paths come back from their texts, and joining them does not depend on the order; so the book directory of a
build that starts in an absolute directory is absolute and stays as it is, whatever overrides there are. -/
theorem bookDir_stable (context : Context) (absolute : context.cwd.isAbsolute = true) (overrides : List Path) :
    (∀ a : String, Path.parse (Path.parse a).text = Path.parse a) ∧
      (∀ a b c : String,
        Path.parse a / Path.parse b / Path.parse c = Path.parse a / (Path.parse b / Path.parse c)) ∧
      (context.overridden overrides).bookDir.isAbsolute = true ∧
      (context.overridden overrides).bookDir = context.cwd / overrides.getLastD context.settings.bookDir ∧
      Path.parse (context.overridden overrides).bookDir.text = (context.overridden overrides).bookDir ∧
      ((context.overridden overrides).withBookDir
        (Path.parse (context.overridden overrides).bookDir.text)).bookDir = (context.overridden overrides).bookDir ∧
      (context.overridden overrides).settings.Returns (context.overridden overrides).bookDir ∧
      (context.overridden overrides).settings.Returns (context.overridden overrides).settings.bookDir ∧
      context.overridden overrides =
        { context with settings := { context.settings with
            bookDir := (context.overridden overrides).settings.bookDir } } := by
  have isAbsolute : (context.overridden overrides).bookDir.isAbsolute = true := by
    rw [bookDir_overridden]
    exact Path.isAbsolute_join absolute
  refine ⟨fun a => Path.parse_text _, fun a b c => Path.join_assoc _ _ _, isAbsolute, bookDir_overridden _ _,
    Path.parse_text _, ?_, Settings.returns _ _, Settings.returns _ _, ?_⟩
  · rw [Path.parse_text]
    exact bookDir_of_isAbsolute _ isAbsolute
  · rw [overridden_eq]

/-- A build in which nothing is installed, and whose current directory is written in more than one way. -/
def atSources : Context :=
  ⟨Rehearsal.workbench ⟨[], [], none, none, []⟩, Settings.default, Path.parse "/tmp/./work/", false⟩

/-- Two dots stay in a path, and so do two slashes before it. -/
theorem bookDir_stable_elsewhere :
    atSources.cwd.isAbsolute = true ∧
      (atSources.overridden [Path.parse "//srv/./docs", Path.parse "../docs//en"]).bookDir =
        Path.parse "/tmp/work/../docs/en" ∧
      (atSources.overridden [Path.parse "../docs//en", Path.parse "//srv/./docs"]).bookDir =
        Path.parse "//srv/docs" := by
  have absolute : atSources.cwd.isAbsolute = true := by decide
  obtain ⟨-, -, -, inside, -⟩ :=
    bookDir_stable atSources absolute [Path.parse "//srv/./docs", Path.parse "../docs//en"]
  obtain ⟨-, -, -, outside, -⟩ :=
    bookDir_stable atSources absolute [Path.parse "../docs//en", Path.parse "//srv/./docs"]
  refine ⟨absolute, inside.trans ?_, outside.trans ?_⟩ <;> decide

end Context

end Bookbinder
