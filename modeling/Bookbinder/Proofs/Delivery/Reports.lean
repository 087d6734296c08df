import Bookbinder.Proofs.Archive.Faults
import Bookbinder.Proofs.Build.Resolution
import Bookbinder.Proofs.Delivery.Containment
import Bookbinder.Workbench.System

/-!
What is told of an archive that cannot be extracted. Main statement: whatever content is served, bringing
it into a directory succeeds or its failure is told, and a build then ends in the step that looks for the
tool; except for some kinds of defects, which end the program.
-/

set_option autoImplicit false

namespace Bookbinder.Delivery

open Action (perform Gives FailsOnly)

variable {supply : Supply} {url : String} {content : Text.Bytes}

/-- Failures that are not told, each with what is wrong with the content. -/
inductive Unreported (content : Text.Bytes) : Failure → Prop where
  | nul : Unreported content .embeddedNul
  | listing {fault : Archive.Fault} : Archive.ofBytes content = .error fault → fault.isReported = false →
      Unreported content (.archive fault)
  | extracting {archive : Archive} {fault : Archive.Fault} : Archive.ofBytes content = .ok archive →
      archive.Slips fault → fault.isReported = false → Unreported content (.archive fault)

/-- How bringing content into a directory can fail. -/
inductive Undelivered (url : String) (content : Text.Bytes) : Failure → Prop where
  | stored : Undelivered url content (.delivery (.notStored url .noSpace))
  | told (cause : Cause) : Undelivered url content (.delivery (.notExtracted url cause))
  | untold {failure : Failure} : Unreported content failure → Undelivered url content failure

/-- A failure of extracting as it is told, or not. -/
theorem undelivered_told {failure : Failure}
    (fails : (∃ errno subject, failure = .refused errno subject) ∨
      (∃ fault, failure = .archive fault ∧ fault.isReported = true) ∨ Unreported content failure) :
    Undelivered url content (told url failure) := by
  rcases fails with ⟨errno, subject, rfl⟩ | ⟨fault, rfl, reported⟩ | untold
  · exact .told _
  · rw [told, if_pos reported]
    exact .told _
  · cases untold with
    | nul => exact .untold .nul
    | listing read hidden =>
      simp only [told, hidden, Bool.false_eq_true, if_false]
      exact .untold (.listing read hidden)
    | extracting read slips hidden =>
      simp only [told, hidden, Bool.false_eq_true, if_false]
      exact .untold (.extracting read slips hidden)

theorem failsOnly_unpack (content : Text.Bytes) (directory : Path) :
    FailsOnly
      (fun failure => (∃ errno subject, failure = .refused errno subject) ∨
        (∃ fault, failure = .archive fault ∧ fault.isReported = true) ∨ Unreported content failure)
      (unpack content directory) := by
  unfold unpack
  cases read : Archive.ofBytes content with
  | error fault =>
    refine Action.gives_throw_bind ?_ _
    cases told : fault.isReported with
    | true => exact .inr (.inl ⟨fault, rfl, told⟩)
    | false => exact .inr (.inr (.listing read told))
  | ok archive =>
    rw [Archive.liftFault]
    simp only [pure_bind]
    have extracted := Archive.failsOnly_extract archive directory.text
    refine Action.Gives.bind (extracted.weaken (fun _ _ => trivial) ?_) fun _ _ =>
      Action.gives_pure trivial
    rintro failure (⟨errno, subject⟩ | _ | reported | slips | none)
    · exact .inl ⟨errno, subject, rfl⟩
    · exact .inr (.inr .nul)
    · exact .inr (.inl ⟨_, rfl, reported⟩)
    · next fault =>
      cases told : fault.isReported with
      | true => exact .inr (.inl ⟨fault, rfl, told⟩)
      | false => exact .inr (.inr (.extracting read slips told))
    · exact absurd none id

theorem failsOnly_deliver (url : String) (directory : Path) (content : Text.Bytes) :
    FailsOnly (Undelivered url content) (deliver url directory content) := by
  refine (failsOnly_unpack content directory).attempt.bind fun result ended => ?_
  cases result with
  | ok names => exact Action.failsOnly_emit _
  | error failure => exact Action.gives_throw (undelivered_told ended)

/-- What is served is downloaded, if there is room to keep it. -/
theorem gives_download (served : (Web.fetch supply.network url).result = .ok content) :
    Gives (fun bytes => bytes = content) (Undelivered url content) (download supply url) := by
  refine ⟨fun machine => ?_⟩
  rw [download, perform_downloadTo, downloaded, served]
  simp only [Supply.write_store]
  cases supply.isFull && !content.isEmpty with
  | true => exact .stored
  | false => rfl

theorem failsOnly_fetch (served : (Web.fetch supply.network url).result = .ok content) (directory : Path) :
    FailsOnly (Undelivered url content) (fetch supply url directory) := by
  have brought : FailsOnly (Undelivered url content) (download supply url >>= deliver url directory) := by
    refine (gives_download served).bind ?_
    rintro _ rfl
    exact failsOnly_deliver url directory _
  exact (Action.failsOnly_emit _).bind fun _ _ => brought

/-- Whatever comes over the network, no failure to bring an archive is an end that somebody chose. -/
theorem failsOnly_fetch_unchosen (supply : Supply) (url : String) (directory : Path) :
    FailsOnly (fun failure => failure ≠ .interrupted ∧ ∀ status, failure ≠ .exit status)
      (fetch supply url directory) := by
  cases served : (Web.fetch supply.network url).result with
  | ok content =>
    refine (failsOnly_fetch served directory).weaken (fun _ _ => trivial) ?_
    rintro failure (_ | _ | untold)
    · simp
    · simp
    · cases untold <;> simp
  | error trouble =>
    have refused : Gives (fun _ => False)
        (fun failure => failure ≠ .interrupted ∧ ∀ status, failure ≠ .exit status)
        (download supply url) := by
      refine ⟨fun machine => ?_⟩
      rw [download, perform_downloadTo, downloaded, served]
      cases trouble <;> simp
    -- no content comes, so nothing is done with it
    exact (Action.failsOnly_emit _).bind fun _ _ => refused.bind fun _ none => none.elim

/-- Whatever content is served, bringing it into a directory succeeds or fails; the failure is told, unless
the content has one of some defects. A build that has found no tool goes on in the first case, ends in the
step that looks for the tool if the failure is told, and passes any other failure on. -/
theorem fetch_tells_failure (served : (Web.fetch supply.network url).result = .ok content) :
    (∀ directory machine, (perform (fetch supply url directory) machine).1 = .ok () ∨
      ∃ failure, (perform (fetch supply url directory) machine).1 = .error failure ∧
        Undelivered url content failure) ∧
    ∀ context machine visit ready looked, context.workbench.fetch = fetch supply →
      context.settings.release.url = .ok url → Build.Prepares context machine visit ready →
      perform (context.workbench.findTool context.settings.release.name) ready = (.ok none, looked) →
      (perform (Build.run context) machine).2.HasDirectory visit.origin →
      match (perform (fetch supply url visit.place)
          (Tool.announced context.settings.release looked)).1 with
      | .ok () => ∃ brought, (perform (Build.run context) machine).1 =
          (perform (Build.buildWith context visit.place (.downloaded context.settings.release)) brought).1
      | .error (.delivery _) =>
          (perform (Build.run context) machine).1 = .ok ⟨1, some .resolveTool, none⟩
      | .error failure => (perform (Build.run context) machine).1 = .error failure ∧
          Unreported content failure := by
  constructor
  · intro directory machine
    have ends := (failsOnly_fetch served directory).ends machine
    cases ended : (perform (fetch supply url directory) machine).1 with
    | ok done => exact .inl rfl
    | error failure =>
      rw [ended] at ends
      exact .inr ⟨failure, rfl, ends⟩
  · intro context machine visit ready looked brings address prepares missing back
    have ends := (failsOnly_fetch served visit.place).ends (Tool.announced context.settings.release looked)
    obtain ⟨emissions, resolved⟩ :=
      Build.perform_resolveAndBuild_of_missing visit.place missing address
    rw [brings] at resolved
    have result := prepares.continues.result back
    rw [resolved] at result
    generalize perform (fetch supply url visit.place) (Tool.announced context.settings.release looked) =
      outcome at ends result ⊢
    rcases outcome with ⟨reply, after⟩
    cases reply with
    | ok done => exact ⟨_, result⟩
    | error failure =>
      cases ends with
      | stored => exact result
      | told cause => exact result
      | untold untold =>
        cases untold with
        | nul => exact ⟨result, .nul⟩
        | listing read hidden => exact ⟨result, .listing read hidden⟩
        | extracting read slips hidden => exact ⟨result, .extracting read slips hidden⟩

theorem result_serving (content : Text.Bytes) :
    (Web.fetch (Supply.serving content).network address).result = .ok content := by
  with_unfolding_all rfl

/-- A workbench that finds no tool, and to which some content is served. -/
def bareWorkbench (content : Text.Bytes) : Workbench :=
  ⟨fun _ => pure none, fun _ _ => pure 0, fetch (.serving content)⟩

/-- A build that has to bring its tool from there. -/
def bareContext (content : Text.Bytes) : Context where
  workbench := bareWorkbench content
  settings := { Build.besideSettings with release := ⟨"tool", "1", "here", address⟩ }
  cwd := Path.empty
  dryRun := false

/-- Served a text that is no archive, a build ends in the step that looks for the tool. -/
theorem fetch_tells_failure_of_text :
    (Web.fetch (Supply.serving [0x6e, 0x6f]).network address).result = .ok [0x6e, 0x6f] ∧
      (perform (Build.run (bareContext [0x6e, 0x6f])) Machine.atProject).1 =
        .ok ⟨1, some .resolveTool, none⟩ := by
  have served := result_serving [0x6e, 0x6f]
  refine ⟨served, ?_⟩
  have ended := (fetch_tells_failure served).2 (bareContext [0x6e, 0x6f]) Machine.atProject _ _ _ rfl
    (by with_unfolding_all rfl) ⟨⟨_, rfl, rfl⟩⟩ rfl ⟨by decide +kernel, by decide +kernel⟩
  -- the text is no archive, and that is told, so the second case is what is known of the build
  with_unfolding_all exact ended

/-- Two bytes that could begin an archive, and nothing after them. -/
theorem fetch_not_always_tells :
    ¬ ∀ supply url content directory machine, (Web.fetch supply.network url).result = .ok content →
      machine.HasDirectory directory →
      (perform (fetch supply url directory) machine).1 = .ok () ∨
        ∃ fault, (perform (fetch supply url directory) machine).1 = .error (.delivery fault) := by
  intro always
  have escapes : (perform (fetch (.serving [0x1f, 0x8b]) address place) Machine.atProject).1 =
      .error (.archive (.stream .cut)) := by
    with_unfolding_all rfl
  rcases always (.serving [0x1f, 0x8b]) address [0x1f, 0x8b] place Machine.atProject (result_serving _)
    ⟨by decide, by decide +kernel⟩ with ended | ⟨fault, told⟩
  · rw [escapes] at ended
    cases ended
  · rw [escapes] at told
    cases told

end Bookbinder.Delivery
