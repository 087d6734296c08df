import Bookbinder.Build
import Bookbinder.Proofs.FileSystem.Standing
import Bookbinder.Proofs.Machine.Operations
import Bookbinder.Workbench.Rehearsal

/-!
Stays in a directory. What happens during a stay is left open: it may change files, go elsewhere, stay
in further directories and end with any failure. Main statement: a stay that cannot begin leaves all as
it was, and after any other the process stands where it came from, provided that the path of that place
still leads there.
-/

set_option autoImplicit false

namespace Bookbinder

/-- The process stands at the same spot, and in the same directory if that is still there. -/
structure Machine.BackAt (machine : Machine) (cwd : WorkingDirectory) : Prop where
  spot : machine.cwd.spot = cwd.spot
  same : machine.files.isAlive cwd = true → machine.cwd = cwd

namespace Action

variable {α β : Type}

theorem perform_currentDirectory {machine : Machine}
    (alive : machine.files.isAlive machine.cwd = true) :
    perform currentDirectory machine = (.ok (Path.ofSpot machine.cwd.spot), machine) := by
  simp only [currentDirectory, perform_bind, perform_get, alive, if_true, perform_pure]

theorem perform_currentDirectory_of_gone {machine : Machine}
    (gone : machine.files.isAlive machine.cwd = false) :
    perform currentDirectory machine = (.error (.refused .noEntry .unnamed), machine) := by
  simp only [currentDirectory, perform_bind, perform_get, gone, Bool.false_eq_true, if_false,
    perform_throw]

theorem perform_enterDirectory {machine : Machine} {path : Path} {place : WorkingDirectory}
    (clean : holdsNul path.text = false)
    (entered : machine.files.enter machine.cwd path.text = .ok place) :
    perform (enterDirectory path) machine = (.ok (), { machine with cwd := place }) := by
  unfold enterDirectory
  rw [perform_bind, perform_query clean, entered]
  rfl

/-- To enter a directory changes nothing but the current directory, and nothing at all if it fails. -/
theorem enterDirectory_cases (path : Path) (machine : Machine) :
    (∃ failure, perform (enterDirectory path) machine = (.error failure, machine)) ∨
      ∃ place, machine.files.enter machine.cwd path.text = .ok place ∧
        perform (enterDirectory path) machine = (.ok (), { machine with cwd := place }) := by
  cases unclean : holdsNul path.text with
  | true =>
    refine .inl ⟨.embeddedNul, ?_⟩
    unfold enterDirectory
    rw [perform_bind, perform_query_of_holdsNul unclean]
  | false =>
    cases entered : machine.files.enter machine.cwd path.text with
    | error errno =>
      refine .inl ⟨.refused errno (.name path.text), ?_⟩
      unfold enterDirectory
      rw [perform_bind, perform_query unclean, entered]
      rfl
    | ok place => exact .inr ⟨place, rfl, perform_enterDirectory unclean entered⟩

end Action

/-- A path leads to a directory. -/
structure Machine.HasDirectory (machine : Machine) (path : Path) : Prop where
  clean : holdsNul path.text = false
  leads : machine.files.leadsToDirectory machine.cwd path.text = true

theorem FileSystem.locate_anchored {path : String} (anchored : path.toList.head? = some '/')
    (files : FileSystem) (follow : Bool) (cwd other : WorkingDirectory) :
    files.locate cwd follow path = files.locate other follow path := by
  simp only [FileSystem.locate, anchored, if_true]

theorem FileSystem.enter_of_leadsToDirectory {files : FileSystem} {cwd : WorkingDirectory} {path : String}
    (leads : files.leadsToDirectory cwd path = true) : ∃ place, files.enter cwd path = .ok place := by
  unfold FileSystem.leadsToDirectory FileSystem.status at leads
  unfold FileSystem.enter
  cases located : files.locate cwd true path with
  | error errno =>
    rw [located] at leads
    cases leads
  | ok location =>
    rw [located] at leads
    cases location with
    | gone => exact ⟨cwd, rfl⟩
    | vacant directory name => cases leads
    | occupied spot =>
      simp only [bind, Except.bind, FileSystem.statusAt] at leads ⊢
      cases entry : files.entryAt? spot with
      | none => simp [entry] at leads
      | some held =>
        cases held with
        | directory serial mode => exact ⟨⟨spot, serial⟩, rfl⟩
        | file number =>
          cases content : files.content? number <;> simp [entry, content] at leads
        | symlink target => simp [entry] at leads
        | shell => simp [entry] at leads
        | sink => simp [entry] at leads

/-- A directory that was entered is there. -/
theorem FileSystem.isAlive_of_enter {files : FileSystem} {cwd place : WorkingDirectory} {path : String}
    (alive : files.isAlive cwd = true) (entered : files.enter cwd path = .ok place) :
    files.isAlive place = true := by
  unfold FileSystem.enter at entered
  cases located : files.locate cwd true path with
  | error errno =>
    rw [located] at entered
    cases entered
  | ok location =>
    rw [located] at entered
    cases location with
    | gone =>
      cases entered
      exact alive
    | vacant directory name => cases entered
    | occupied spot =>
      simp only [bind, Except.bind] at entered
      split at entered
      · next serial mode entry =>
        cases entered
        simp [FileSystem.isAlive, entry]
      · cases entered

namespace Action

variable {α β : Type}

/-- An arrival either fails and changes nothing, or knows the way back. -/
theorem arrive_cases (target : Path) (machine : Machine) :
    (∃ failure, perform (arrive target) machine = (.error failure, machine)) ∨
      ∃ visit entered, perform (arrive target) machine = (.ok visit, entered) ∧
        visit.origin = Path.ofSpot machine.cwd.spot ∧
        visit.place = Path.ofSpot entered.cwd.spot ∧
        machine.files.enter machine.cwd target.text = .ok entered.cwd ∧
        entered.files = machine.files ∧ entered.events = machine.events := by
  cases alive : machine.files.isAlive machine.cwd with
  | false =>
    refine .inl ⟨.refused .noEntry .unnamed, ?_⟩
    rw [arrive, perform_bind, perform_currentDirectory_of_gone alive]
  | true =>
    rcases enterDirectory_cases target machine with ⟨failure, refused⟩ | ⟨place, entered, moved⟩
    · refine .inl ⟨failure, ?_⟩
      simp only [arrive, perform_bind, perform_currentDirectory alive, refused]
    · -- the directory that was just entered is there, so the process can tell where it stands
      have there : perform currentDirectory { machine with cwd := place } =
          (.ok (Path.ofSpot place.spot), { machine with cwd := place }) :=
        perform_currentDirectory (FileSystem.isAlive_of_enter alive entered)
      have arrived : ∃ emissions, perform (arrive target) machine =
          (.ok ⟨Path.ofSpot machine.cwd.spot, Path.ofSpot place.spot⟩,
            { machine with cwd := place, emissions := emissions }) := by
        simp only [arrive, perform_bind, perform_currentDirectory alive, moved, there, trace,
          perform_emit, perform_pure]
        exact ⟨_, rfl⟩
      obtain ⟨emissions, arrived⟩ := arrived
      exact .inr ⟨_, _, arrived, rfl, rfl, entered, rfl, rfl⟩

/-- To depart is to stand at the origin again, if its path still leads there. -/
theorem perform_depart {machine : Machine} {visit : Visit} {spot : Spot}
    (origin : visit.origin = Path.ofSpot spot) (stands : machine.files.StandsPlainly spot) :
    ∃ serial mode emissions, machine.files.entryAt? spot = some (.directory serial mode) ∧
      perform (depart visit) machine =
        (.ok (), { machine with cwd := ⟨spot, serial⟩, emissions := emissions }) := by
  obtain ⟨serial, mode, entry, entered⟩ := stands.enter machine.cwd
  have departed : ∃ emissions, perform (depart visit) machine =
      (.ok (), { machine with cwd := ⟨spot, serial⟩, emissions := emissions }) := by
    rw [depart, perform_bind, origin, perform_enterDirectory stands.clean entered]
    exact ⟨_, rfl⟩
  obtain ⟨emissions, departed⟩ := departed
  exact ⟨serial, mode, emissions, entry, departed⟩

/-- A stay that can begin ends as its body ends, at the place where it began. -/
theorem perform_inDirectory {target : Path} {body : Path → Action α} {machine entered after : Machine}
    {visit : Visit} {result : Except Failure α} (arrived : perform (arrive target) machine = (.ok visit, entered))
    (origin : visit.origin = Path.ofSpot machine.cwd.spot)
    (ended : perform (body visit.place) entered = (result, after))
    (stands : after.files.StandsPlainly machine.cwd.spot) :
    ∃ last, perform (inDirectory target body) machine = (result, last) ∧ last.BackAt machine.cwd ∧
      last.files = after.files ∧ last.events = after.events := by
  obtain ⟨serial, mode, emissions, entry, departed⟩ := perform_depart origin stands
  have left : perform (inDirectory target body) machine =
      (result, { after with cwd := ⟨machine.cwd.spot, serial⟩, emissions := emissions }) := by
    rw [inDirectory, perform_bind, arrived]
    simp only [perform_ensuring, ended, departed]
  refine ⟨_, left, ⟨rfl, fun alive => ?_⟩, rfl, rfl⟩
  have same : serial = machine.cwd.serial := by
    simpa [FileSystem.isAlive, entry] using alive
  rw [same]

theorem depart_keeps (visit : Visit) (machine : Machine) :
    (perform (depart visit) machine).2.files = machine.files ∧
      (perform (depart visit) machine).2.events = machine.events := by
  rw [depart, perform_bind]
  rcases enterDirectory_cases visit.origin machine with ⟨failure, refused⟩ | ⟨place, _, entered⟩
  · rw [refused]
    exact ⟨rfl, rfl⟩
  · rw [entered]
    exact ⟨rfl, rfl⟩

/-- Files and events after a stay are those that its body left, also if the process cannot go back. -/
theorem inDirectory_keeps {target : Path} {machine entered : Machine} {visit : Visit}
    (arrived : perform (arrive target) machine = (.ok visit, entered)) (body : Path → Action α) :
    (perform (inDirectory target body) machine).2.files =
        (perform (body visit.place) entered).2.files ∧
      (perform (inDirectory target body) machine).2.events =
        (perform (body visit.place) entered).2.events := by
  have kept := depart_keeps visit (perform (body visit.place) entered).2
  rw [inDirectory, perform_bind, arrived]
  simp only [perform_ensuring]
  cases departed : perform (depart visit) (perform (body visit.place) entered).2 with
  | mk result last =>
    rw [departed] at kept
    cases result with
    | error failure => exact kept
    | ok left => exact kept

/-- A stay ends as its body ended if there is a directory to go back to. -/
theorem inDirectory_result {target : Path} {machine entered : Machine} {visit : Visit}
    (arrived : perform (arrive target) machine = (.ok visit, entered))
    (absolute : visit.origin.isAbsolute = true) (body : Path → Action α)
    (there : (perform (inDirectory target body) machine).2.HasDirectory visit.origin) :
    (perform (inDirectory target body) machine).1 = (perform (body visit.place) entered).1 := by
  obtain ⟨clean, leads⟩ := there
  -- the origin is anchored, so it leads where it led when the process was still inside
  rw [(inDirectory_keeps arrived body).1, FileSystem.leadsToDirectory, FileSystem.status,
    FileSystem.locate_anchored (Path.head?_text_of_isAbsolute absolute) _ _ _
      (perform (body visit.place) entered).2.cwd] at leads
  obtain ⟨place, enters⟩ := FileSystem.enter_of_leadsToDirectory leads
  rw [inDirectory, perform_bind, arrived]
  simp only [perform_ensuring, depart, perform_bind, perform_enterDirectory clean enters, trace,
    perform_emit]

theorem perform_inDirectory_of_error {target : Path} {machine after : Machine} {failure : Failure}
    (refused : perform (arrive target) machine = (.error failure, after)) (body : Path → Action α) :
    perform (inDirectory target body) machine = (.error failure, after) := by
  rw [inDirectory, perform_bind, refused]

end Action

/-- A build says how it went, and changes nothing more, after it has left the book directory. -/
theorem Build.perform_run (context : Context) (machine : Machine) :
    ∃ emissions, Action.perform (Build.run context) machine =
      ((Action.perform (Action.inDirectory context.bookDir (Build.runSteps context)) machine).1,
        { (Action.perform (Action.inDirectory context.bookDir (Build.runSteps context)) machine).2 with
          emissions := emissions }) := by
  rw [Build.run, Action.perform_bind]
  rcases Action.perform (Action.inDirectory context.bookDir (Build.runSteps context)) machine with
    ⟨failure | outcome, after⟩
  · exact ⟨after.emissions, rfl⟩
  · exact ⟨_, rfl⟩

namespace Action

variable {α : Type}

/-- A stay in a directory is over when it is over: one that cannot begin changes nothing, whatever was
to be done in it, and any other ends as its body ended, with the process where it came from. -/
theorem inDirectory_returns (target : Path) (body : Path → Action α) (context : Context)
    (machine : Machine) :
    (∀ failure after, perform (arrive target) machine = (.error failure, after) →
      after = machine ∧ perform (inDirectory target body) machine = (.error failure, machine)) ∧
    (∀ visit entered, perform (arrive target) machine = (.ok visit, entered) →
      machine.files.enter machine.cwd target.text = .ok entered.cwd ∧
      ∀ result after, perform (body visit.place) entered = (result, after) →
        after.files.StandsPlainly machine.cwd.spot →
        ∃ last, perform (inDirectory target body) machine = (result, last) ∧
          last.BackAt machine.cwd ∧ last.files = after.files ∧ last.events = after.events) ∧
    ((perform (Build.run context) machine).2.files.StandsPlainly machine.cwd.spot →
      (perform (Build.run context) machine).2.BackAt machine.cwd) := by
  refine ⟨?_, ?_, ?_⟩
  · intro failure after refused
    rcases arrive_cases target machine with ⟨other, unmoved⟩ | ⟨visit, entered, arrived, _⟩
    · rw [unmoved] at refused
      cases refused
      exact ⟨rfl, perform_inDirectory_of_error unmoved body⟩
    · rw [arrived] at refused
      cases refused
  · intro visit entered arrived
    rcases arrive_cases target machine with ⟨failure, unmoved⟩ | ⟨visit', entered', same, origin, known⟩
    · rw [unmoved] at arrived
      cases arrived
    · rw [same] at arrived
      cases arrived
      exact ⟨known.2.1, fun result after ended stands => perform_inDirectory same origin ended stands⟩
  · intro stands
    obtain ⟨emissions, finished⟩ := Build.perform_run context machine
    rw [finished] at stands ⊢
    rcases arrive_cases context.bookDir machine with ⟨failure, unmoved⟩ | ⟨visit, entered, arrived, origin, _⟩
    · rw [perform_inDirectory_of_error unmoved]
      exact ⟨rfl, fun _ => rfl⟩
    · rw [(inDirectory_keeps arrived _).1] at stands
      cases ended : perform (Build.runSteps context visit.place) entered with
      | mk result after =>
        rw [ended] at stands
        obtain ⟨last, left, back, _⟩ := perform_inDirectory arrived origin ended stands
        rw [left]
        exact ⟨back.spot, back.same⟩

end Action

theorem Machine.atProject_standsPlainly : Machine.atProject.files.StandsPlainly ["project"] :=
  ⟨by decide, by decide, by decide, by decide⟩

/-- A build in a directory beside the project, with nothing installed. -/
def Context.elsewhere : Context where
  workbench := Rehearsal.workbench ⟨[], [], none, none, []⟩
  settings := Settings.default.withBookDir (Path.parse "/tmp")
  cwd := Path.parse "/project"
  dryRun := false

namespace Action

theorem inDirectory_returns_after_exit :
    (∃ last, perform (inDirectory (Path.parse "/tmp") fun _ => (throw (.exit 3) : Action Unit))
        Machine.atProject = (.error (.exit 3), last) ∧ last.BackAt Machine.atProject.cwd) ∧
    (perform (inDirectory (Path.parse "missing") fun _ => (throw (.exit 3) : Action Unit))
      Machine.atProject).2 = Machine.atProject ∧
    (perform (Build.run Context.elsewhere) Machine.atProject).2.BackAt Machine.atProject.cwd := by
  have built : (perform (Build.run Context.elsewhere) Machine.atProject).2.files.StandsPlainly
      Machine.atProject.cwd.spot :=
    ⟨by decide, by decide, by decide +kernel, by decide +kernel⟩
  obtain ⟨_, stay, build⟩ := inDirectory_returns (Path.parse "/tmp")
    (fun _ => (throw (.exit 3) : Action Unit)) Context.elsewhere Machine.atProject
  obtain ⟨refused, _⟩ := inDirectory_returns (Path.parse "missing")
    (fun _ => (throw (.exit 3) : Action Unit)) Context.elsewhere Machine.atProject
  obtain ⟨last, left, back, _⟩ := (stay _ _ rfl).2 _ _ rfl Machine.atProject_standsPlainly
  refine ⟨⟨last, left, back⟩, ?_, build built⟩
  rw [(refused _ _ rfl).2]

end Action

end Bookbinder
