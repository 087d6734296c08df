import Bookbinder.Proofs.Build.Resolution
import Bookbinder.Proofs.Delivery.Requests
import Bookbinder.Proofs.Settings.Offenders

/-!
Addresses that settings can give. Main statement: a release is downloaded from its address or the user is told
why not, and a build then ends in the step that looks for the tool; except for addresses that go astray, which
end the program.
-/

set_option autoImplicit false

namespace Bookbinder.Delivery

open Bookbinder.Action (perform)

variable {store : Store} {network : Web.Network} {url : String}

/-- What is told says what failed, with which address, and why. -/
def Fault.Names (fault : Fault) (url : String) : Prop :=
  ∃ task reason,
    fault.message = "Failed to " ++ task ++ " release archive\nURL: " ++ url ++ "\n" ++ reason

theorem names_notDownloaded (url : String) (problem : Web.Problem) :
    (Fault.notDownloaded url problem).Names url :=
  ⟨"download", problem.line, rfl⟩

theorem names_notStored (url : String) (errno : Errno) : (Fault.notStored url errno).Names url := by
  have told : (Fault.notStored url errno).message =
      "Failed to " ++ "store" ++ " release archive\nURL: " ++ url ++ ("\n" ++ "Error: ") ++
        errno.message .unnamed := rfl
  refine ⟨"store", "Error: " ++ errno.message .unnamed, ?_⟩
  rw [told]
  simp only [String.append_assoc]

/-- How a download ends: it completes, or its failure is told with the address, or the address went astray. -/
inductive Settles (network : Web.Network) (url : String) : Except Failure Text.Bytes → Prop where
  | completes (content : Text.Bytes) : Settles network url (.ok content)
  | told {fault : Fault} (named : fault.Names url) : Settles network url (.error (.delivery fault))
  | astray {fault : Web.Fault} (astray : Web.Astray network url fault) :
      Settles network url (.error (.web fault))

theorem settles_downloaded (store : Store) (network : Web.Network) (url : String) :
    Settles network url (downloaded store network url) := by
  unfold downloaded
  cases ended : (Web.fetch network url).result with
  | error trouble =>
    cases trouble with
    | problem problem => exact .told (names_notDownloaded url problem)
    | fault fault => exact .astray (Web.fetch_fault_iff.1 ended)
  | ok content =>
    simp only
    cases store.write 0 (pieces pieceSize content) with
    | error errno => exact .told (names_notStored url errno)
    | ok kept => exact .completes kept

theorem downloaded_web_iff {fault : Web.Fault} :
    downloaded store network url = .error (.web fault) ↔ Web.Astray network url fault := by
  rw [← Web.fetch_fault_iff]
  unfold downloaded
  constructor
  · intro ended
    cases outcome : (Web.fetch network url).result with
    | error trouble =>
      rw [outcome] at ended
      cases trouble <;> cases ended
      rfl
    | ok content =>
      simp only [outcome] at ended
      cases written : store.write 0 (pieces pieceSize content) <;> simp [written] at ended
  · intro ended
    rw [ended]

theorem perform_bring_of_failed {failure : Failure} (failed : downloaded store network url = .error failure)
    (directory : Path) (machine : Machine) :
    (perform (bring store network url directory) machine).1 = .error failure := by
  have comes := (bring_cases store network url directory machine).2.2
  rw [failed] at comes
  exact comes.1

/-- From the address that settings give, the release is downloaded, or a failure that names the address is told,
unless the address goes astray. A build that has found no tool ends in the step that looks for it if the failure
is told, and an address that goes astray ends it without an outcome. -/
theorem download_tells_or_astray {settings : Settings} {home : Path} {before : Machine}
    (loaded : (perform (Action.loadSettings home) before).1 = .ok settings) :
    ∃ url, settings.release.url = .ok url ∧ ∀ store network, ∃ result,
      (∀ machine, (perform (downloadTo store network url) machine).1 = result) ∧
      Settles network url result ∧
      (∀ fault, result = .error (.web fault) ↔ Web.Astray network url fault) ∧
      ∀ context machine visit ready looked, context.workbench.fetch = bring store network →
        context.settings.release = settings.release → Build.Prepares context machine visit ready →
        perform (context.workbench.findTool settings.release.name) ready = (.ok none, looked) →
        (perform (Build.run context) machine).2.HasDirectory visit.origin →
        (∀ fault, result = .error (.delivery fault) →
          (perform (Build.run context) machine).1 = .ok ⟨1, some .resolveTool, none⟩) ∧
        ∀ fault, result = .error (.web fault) →
          (perform (Build.run context) machine).1 = .error (.web fault) := by
  obtain ⟨url, address⟩ := (Action.complete_of_loadSettings loaded).1.url
  refine ⟨url, address, fun store network => ⟨downloaded store network url, fun machine => ?_,
    settles_downloaded store network url, fun fault => downloaded_web_iff, ?_⟩⟩
  · rw [perform_downloadTo]
  intro context machine visit ready looked brings same prepares missing back
  rw [← same] at address missing
  obtain ⟨emissions, resolved⟩ := Build.perform_resolveAndBuild_of_missing visit.place missing address
  rw [brings] at resolved
  have result := prepares.continues.result back
  rw [resolved] at result
  have brought {failure : Failure} (failed : downloaded store network url = .error failure) :=
    perform_bring_of_failed failed visit.place (Tool.announced context.settings.release looked)
  generalize perform (bring store network url visit.place) (Tool.announced context.settings.release looked) =
    outcome at brought result
  obtain ⟨reply, after⟩ := outcome
  constructor
  · intro fault failed
    obtain rfl : reply = .error (.delivery fault) := brought failed
    exact result
  · intro fault failed
    obtain rfl : reply = .error (.web fault) := brought failed
    exact result

/-! ### An address that is not reached, and one with a port that is no number -/

/-- Built-in settings but for the address of the release. -/
def settingsFor (url : String) : Settings :=
  { Settings.default with
    release := { Settings.default.release with template := url }
    source := some (Settings.file (Path.parse "/project")) }

theorem loadSettings_settingsFor (text url : String)
    (parsed : Toml.parse (Text.unifyNewlines text.toList) = .ok [("tool", .table [("url_template", .text url)])])
    (given : Settings.ofTable (Settings.file (Path.parse "/project"))
      [("tool", .table [("url_template", .text url)])] = .ok (settingsFor url)) :
    (perform (Action.loadSettings (Path.parse "/project")) (Action.projectWith text)).1 =
      .ok (settingsFor url) := by
  rw [(Action.holdsSettings_projectWith parsed).perform_loadSettings, given]
  rfl

/-- Nothing is reached. -/
def deadNetwork : Web.Network := fun _ => .unreachable "no route"

/-- A workbench that finds no tool and brings releases over that network. -/
def cutOffContext : Context where
  workbench := ⟨fun _ => pure none, fun _ _ => pure 0, bring ⟨fun _ => none⟩ deadNetwork⟩
  settings := { Build.besideSettings with release := (settingsFor address).release }
  cwd := Path.empty
  dryRun := false

theorem download_tells_or_astray_unreachable :
    (perform (Action.loadSettings (Path.parse "/project"))
        (Action.projectWith "[tool]\nurl_template = \"https://h/a.tgz\"\n")).1 = .ok (settingsFor address) ∧
      (perform (Build.run cutOffContext) Machine.atProject).1 = .ok ⟨1, some .resolveTool, none⟩ := by
  have loaded := loadSettings_settingsFor "[tool]\nurl_template = \"https://h/a.tgz\"\n" "https://h/a.tgz"
    (by cbv) (by cbv)
  obtain ⟨url, given, settles⟩ := download_tells_or_astray loaded
  have same : (settingsFor address).release.url = .ok address := by with_unfolding_all rfl
  obtain rfl : address = url := Except.ok.inj (same.symm.trans given)
  obtain ⟨result, downloads, _, _, builds⟩ := settles ⟨fun _ => none⟩ deadNetwork
  have ended := builds cutOffContext Machine.atProject _ _ _ rfl rfl ⟨⟨_, rfl, rfl⟩⟩ rfl
    ⟨by decide +kernel, by decide +kernel⟩
  refine ⟨loaded, ended.1 (.notDownloaded address (.unreachable "no route")) ?_⟩
  have ends : Web.Ends deadNetwork start (.error (.problem (.unreachable "no route"))) := .unreachable rfl
  have asked := Web.fetch_of_begins opens_address.begins deadNetwork
  rw [Web.follow_of_ends ends] at asked
  rw [← downloads Machine.atProject, perform_downloadTo, downloaded, asked]

/-- Settings may give an address whose port is no number, and then nobody is told. -/
theorem download_not_always_tells :
    ¬ ∀ (before : Machine) (home : Path) (settings : Settings) (url : String) (store : Store)
      (network : Web.Network) (machine : Machine),
      (perform (Action.loadSettings home) before).1 = .ok settings → settings.release.url = .ok url →
      (∃ content, (perform (downloadTo store network url) machine).1 = .ok content) ∨
        ∃ fault, (perform (downloadTo store network url) machine).1 = .error (.delivery fault) := by
  intro always
  have loaded := loadSettings_settingsFor "[tool]\nurl_template = \"https://h:port/a.tgz\"\n"
    "https://h:port/a.tgz" (by cbv) (by cbv)
  have astray : downloaded ⟨fun _ => none⟩ deadNetwork "https://h:port/a.tgz" =
      .error (.web (.address (.port "port"))) :=
    downloaded_web_iff.2 (.malformed (by with_unfolding_all rfl))
  rcases always _ _ _ "https://h:port/a.tgz" ⟨fun _ => none⟩ deadNetwork Machine.atProject loaded
    (by with_unfolding_all rfl) with ⟨content, completes⟩ | ⟨fault, told⟩
  · rw [perform_downloadTo, astray] at completes
    cases completes
  · rw [perform_downloadTo, astray] at told
    cases told

end Bookbinder.Delivery
