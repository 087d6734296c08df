import Bookbinder.Proofs.FileSystem.Writing
import Bookbinder.Proofs.Machine.Operations
import Bookbinder.Proofs.Settings.Document

/-!
Settings that are saved and loaded again. Main statement: what is loaded after settings were saved are
these settings, with the file as their source, if and only if a file may give them.
-/

set_option autoImplicit false

namespace Bookbinder

/-- A file can be written at a path: nothing is there yet, or a regular file is. -/
structure Machine.OffersFile (machine : Machine) (path : Path) : Prop where
  clean : holdsNul path.text = false
  offers : machine.files.OffersFile machine.cwd path.text

namespace Action

theorem perform_writeFile {machine : Machine} {path : Path} (offers : machine.OffersFile path)
    (bytes : Text.Bytes) :
    ∃ after mode, perform (writeFile path bytes) machine = (.ok (), { machine with files := after }) ∧
      after.status machine.cwd path.text = .ok (.file ⟨bytes, mode⟩) := by
  obtain ⟨after, mode, written, status⟩ := FileSystem.status_writeFile offers.offers bytes
  exact ⟨after, mode, perform_change offers.clean written, status⟩

theorem perform_exists? {machine : Machine} {path : Path} {status : FileSystem.Status}
    (clean : holdsNul path.text = false)
    (found : machine.files.status machine.cwd path.text = .ok status) :
    perform (exists? path) machine = (.ok true, machine) := by
  simp only [exists?, statusOf?, clean, Bool.false_eq_true, if_false, perform_bind, perform_get, found]
  rfl

theorem perform_exists?_of_error {machine : Machine} {path : Path} {errno : Errno}
    (clean : holdsNul path.text = false)
    (nowhere : machine.files.status machine.cwd path.text = .error errno) :
    perform (exists? path) machine =
      if errno.meansAbsence then (.ok false, machine)
      else (.error (.refused errno (.name path.text)), machine) := by
  simp only [exists?, statusOf?, clean, Bool.false_eq_true, if_false, perform_bind, perform_get, nowhere]
  cases errno.meansAbsence <;> rfl

theorem perform_readFile {machine : Machine} {path : Path} {content : Content}
    (clean : holdsNul path.text = false)
    (found : machine.files.status machine.cwd path.text = .ok (.file content)) :
    perform (readFile path) machine = (.ok content.bytes, machine) := by
  unfold readFile
  rw [perform_query clean]
  simp only [FileSystem.readFile, found]
  rfl

/-- Loading from a file that is there is reading its bytes. -/
theorem perform_loadSettings (machine : Machine) {directory : Path} {content : Content}
    (clean : holdsNul (Settings.file directory).text = false)
    (found : machine.files.status machine.cwd (Settings.file directory).text = .ok (.file content)) :
    perform (loadSettings directory) machine =
      ((Settings.read (Settings.file directory) content.bytes).mapError .settings, machine) := by
  simp only [loadSettings, perform_bind, perform_exists? clean found, Bool.not_true,
    Bool.false_eq_true, if_false, perform_readFile clean found]
  cases Settings.read (Settings.file directory) content.bytes with
  | ok settings => rfl
  | error fault => rfl

/-- No settings are loaded from a file whose path is too long. -/
theorem perform_loadSettings_of_long (machine : Machine) {directory : Path}
    (clean : holdsNul (Settings.file directory).text = false)
    (long : FileSystem.pathLimit ≤ (Settings.file directory).text.utf8ByteSize) :
    perform (loadSettings directory) machine =
      (.error (.refused .nameTooLong (.name (Settings.file directory).text)), machine) := by
  have nowhere : machine.files.status machine.cwd (Settings.file directory).text = .error .nameTooLong := by
    rw [FileSystem.status, FileSystem.locate_of_long long]
    rfl
  simp only [loadSettings, perform_bind, perform_exists?_of_error clean nowhere]
  rfl

/-- Where no file is, the built-in settings are loaded. -/
theorem perform_loadSettings_of_absent {machine : Machine} {directory : Path}
    (clean : holdsNul (Settings.file directory).text = false)
    (absent : machine.files.status machine.cwd (Settings.file directory).text = .error .noEntry) :
    perform (loadSettings directory) machine = (.ok Settings.default, machine) := by
  simp only [loadSettings, perform_bind, perform_exists?_of_error clean absent]
  rfl

/-- What is loaded after a file was written depends on nothing but the bytes. -/
theorem loadSettings_after_writeFile {machine : Machine} {directory : Path}
    (offers : machine.OffersFile (Settings.file directory)) (bytes : Text.Bytes) :
    ∃ after, perform (writeFile (Settings.file directory) bytes) machine = (.ok (), after) ∧
      perform (loadSettings directory) after =
        ((Settings.read (Settings.file directory) bytes).mapError .settings, after) := by
  obtain ⟨after, mode, written, found⟩ := perform_writeFile offers bytes
  exact ⟨{ machine with files := after }, written,
    perform_loadSettings { machine with files := after } offers.clean found⟩

theorem perform_saveSettings {machine after : Machine} {directory : Path} {settings : Settings}
    (written : perform (writeFile (Settings.file directory) (Text.encodeUtf8 settings.write)) machine =
      (.ok (), after)) :
    perform (saveSettings directory settings) machine = (.ok (Settings.file directory), after) := by
  simp only [saveSettings, perform_bind, written, perform_pure]

/-- Settings that are loaded are the built-in ones or those of the file. -/
theorem loadSettings_cases {machine : Machine} {directory : Path} {settings : Settings}
    (loaded : (perform (loadSettings directory) machine).1 = .ok settings) :
    settings = Settings.default ∨
      ∃ bytes, Settings.read (Settings.file directory) bytes = .ok settings := by
  obtain ⟨found, after, _, loaded⟩ := perform_bind_eq_ok loaded
  cases found with
  | false =>
    cases loaded
    exact .inl rfl
  | true =>
    obtain ⟨bytes, last, _, loaded⟩ := perform_bind_eq_ok loaded
    refine .inr ⟨bytes, ?_⟩
    cases given : Settings.read (Settings.file directory) bytes with
    | error fault =>
      simp only [given] at loaded
      cases loaded
    | ok read =>
      simp only [given] at loaded
      cases loaded
      rfl

theorem default_complete : Settings.default.Complete := by
  refine ⟨by decide, by decide, by decide, by decide, by decide, ?_⟩
  have filled : Settings.default.release.url.isOk = true := by decide +kernel
  cases address : Settings.default.release.url with
  | error fault =>
    rw [address] at filled
    cases filled
  | ok url => exact ⟨url, rfl⟩

theorem complete_of_loadSettings {machine : Machine} {directory : Path} {settings : Settings}
    (loaded : (perform (loadSettings directory) machine).1 = .ok settings) :
    settings.Complete ∧
      (settings.source = none ∨ settings.source = some (Settings.file directory)) := by
  rcases loadSettings_cases loaded with rfl | ⟨bytes, given⟩
  · exact ⟨default_complete, .inl rfl⟩
  · obtain ⟨complete, source⟩ := Settings.complete_of_read given
    exact ⟨complete, .inr source⟩

/-- Saved settings are loaded as they were saved, with the file as their source, just if they are
complete; any others are refused. Settings that were themselves loaded come back the same. -/
theorem loadSettings_after_saveSettings {machine : Machine} {directory : Path}
    (offers : machine.OffersFile (Settings.file directory)) (settings : Settings) :
    ∃ after, perform (saveSettings directory settings) machine = (.ok (Settings.file directory), after) ∧
      ((perform (loadSettings directory) after).1 =
          .ok { settings with source := some (Settings.file directory) } ↔ settings.Complete) ∧
      (¬ settings.Complete →
        ∃ fault, (perform (loadSettings directory) after).1 = .error (.settings fault)) ∧
      ((perform (loadSettings directory) machine).1 = .ok settings →
        (perform (loadSettings directory) after).1 =
            .ok { settings with source := some (Settings.file directory) } ∧
          (settings.source ≠ none → (perform (loadSettings directory) after).1 = .ok settings)) := by
  obtain ⟨after, written, loading⟩ :=
    loadSettings_after_writeFile offers (Text.encodeUtf8 settings.write)
  obtain ⟨kept, refused⟩ := Settings.read_write (Settings.file directory) settings
  have back (complete : settings.Complete) : (perform (loadSettings directory) after).1 =
      .ok { settings with source := some (Settings.file directory) } := by
    rw [loading, kept complete]
    rfl
  have refusal (incomplete : ¬ settings.Complete) :
      ∃ fault, (perform (loadSettings directory) after).1 = .error (.settings fault) := by
    obtain ⟨fault, faulty⟩ := refused incomplete
    rw [loading, faulty]
    exact ⟨fault, rfl⟩
  refine ⟨after, perform_saveSettings written, ⟨?_, back⟩, refusal, ?_⟩
  · intro same
    refine Classical.byContradiction fun incomplete => ?_
    obtain ⟨fault, faulty⟩ := refusal incomplete
    rw [same] at faulty
    cases faulty
  · intro loaded
    obtain ⟨complete, source⟩ := complete_of_loadSettings loaded
    refine ⟨back complete, fun read => ?_⟩
    rw [back complete, ← source.resolve_left read]

/-- Settings whose command holds what a configuration text has to escape. -/
def awkwardSettings : Settings :=
  { Settings.default with prebuild := ["echo \"\r\n\\ü\""] }

theorem loadSettings_after_saveSettings_awkward :
    Machine.atProject.OffersFile (Settings.file Path.empty) ∧
      ∃ after,
        perform (saveSettings Path.empty awkwardSettings) Machine.atProject =
          (.ok (Settings.file Path.empty), after) ∧
        (perform (loadSettings Path.empty) after).1 =
          .ok { awkwardSettings with source := some (Settings.file Path.empty) } := by
  have offers : Machine.atProject.OffersFile (Settings.file Path.empty) :=
    ⟨by decide, .inl ⟨["project"], "bookbuild.toml", rfl⟩⟩
  have complete : awkwardSettings.Complete :=
    ⟨by decide, default_complete.name, default_complete.version, default_complete.platform,
      default_complete.template, default_complete.url⟩
  obtain ⟨after, saved, ⟨_, loaded⟩, _⟩ := loadSettings_after_saveSettings offers awkwardSettings
  exact ⟨offers, after, saved, loaded complete⟩

end Action

end Bookbinder
