import Bookbinder.Proofs.Build.Announcement
import Bookbinder.Proofs.CommandLine.Building

/-!
The command `build` and the same with `--dry-run`. Main statement: where all that is asked of others goes
well, both exit with zero and come of one script, whose requests are made by the one and announced, each in
its place, by the other.
-/

set_option autoImplicit false

namespace Bookbinder.CommandLine

variable {rest : List String} {given : List Given} {machine : Machine} {bookDir : Option Path}

/-! ### One word more -/

theorem readWords_dryRun (read : readWords Command.build.vocabulary true rest = .ok (given, [])) :
    readWords Command.build.vocabulary true ("--dry-run" :: rest) = .ok (.dryRun :: given, []) := by
  have known : readWord Command.build.vocabulary "--dry-run" = .ok (.inl [.dryRun]) := rfl
  have notDashes : "--dry-run" ≠ "--" := by decide
  have option : isOptionWord "--dry-run" = true := rfl
  rw [readWords, if_neg notDashes, if_pos option, known]
  simp only [read]
  rfl

theorem lastBookDir?_dryRun (given : List Given) : lastBookDir? (.dryRun :: given) = lastBookDir? given := by
  simp [lastBookDir?, List.findSome?_append]

theorem wantsSummary_dryRun (given : List Given) : wantsSummary (.dryRun :: given) = wantsSummary given := by
  simp [wantsSummary, List.findSome?_append]

theorem bookDir?_dryRun (given : List Given) : bookDir? .build (.dryRun :: given) = bookDir? .build given := by
  rw [bookDir?, bookDir?, lastBookDir?_dryRun]

/-! ### Both runs -/

def inDryRun (machine : Machine) : Machine := announcedAs true machine

theorem build_announced {crew : Crew} {installed : String → Option String} (willing : crew.Willing installed)
    {context : Context} (others : context.workbench = crew.workbench) (effects : context.dryRun = false)
    (surroundings : Surroundings)
    (read : readWords Command.build.vocabulary true rest = .ok (given, []))
    (none : given.find? isRequest = none) (undry : .dryRun ∉ given)
    (chosen : Action.perform (bookDir? .build given) machine = (.ok bookDir, machine))
    (elapses : wantsSummary given = true → surroundings.Elapses)
    (there : machine.HasDirectory (contextFor context bookDir).bookDir) {url : String}
    (address : context.settings.release.url = .ok url)
    (alive : machine.files.isAlive machine.cwd = true)
    (returns : (Action.perform (status surroundings (pure context) ("build" :: rest)) machine).2.HasDirectory
      (Path.ofSpot machine.cwd.spot))
    (dryReturns : (Action.perform (status surroundings (pure context) ("build" :: "--dry-run" :: rest))
      machine).2.HasDirectory (Path.ofSpot machine.cwd.spot)) :
    ∃ inside, machine.files.enter machine.cwd (contextFor context bookDir).bookDir.text = .ok inside ∧
      ∃ (parts : List Build.Part) (last final : Machine),
        Action.perform (status surroundings (pure context) ("build" :: rest)) machine = (.ok 0, last) ∧
        Action.perform (status surroundings (pure context) ("build" :: "--dry-run" :: rest)) machine =
          (.ok 0, final) ∧
        Build.Plays parts (Path.ofSpot inside.spot) machine last (inDryRun machine) final ∧
        parts.flatMap Build.Part.asked = Build.requestsIn (contextFor context bookDir).settings
          (Path.ofSpot inside.spot) url (installed context.settings.release.name) := by
  obtain ⟨inside, entered⟩ := FileSystem.enter_of_leadsToDirectory there.leads
  refine ⟨inside, entered, ?_⟩
  -- both runs, down to the builds that they consist of
  have asks : AskFor ("build" :: rest) .build rest := askFor_name .build rest
  have dryAsks : AskFor ("build" :: "--dry-run" :: rest) .build ("--dry-run" :: rest) := askFor_name .build _
  have heeded := perform_heed surroundings read none chosen
  have dryHeeded : Action.perform (heed .build surroundings ("--dry-run" :: rest)) machine =
      (.ok (.dryRun :: given, bookDir), machine) :=
    perform_heed surroundings (readWords_dryRun read) none ((bookDir?_dryRun given).symm ▸ chosen)
  have run := perform_status_build surroundings asks heeded elapses there
  have dryRun := perform_status_build surroundings dryAsks dryHeeded
    ((wantsSummary_dryRun given).symm ▸ elapses) there
  have unasked : given.contains .dryRun = false := by simpa using undry
  have asked : (Given.dryRun :: given).contains .dryRun = true := by simp
  rw [unasked] at run
  rw [asked, wantsSummary_dryRun] at dryRun
  rw [run] at returns
  rw [dryRun] at dryReturns
  have effectful : (contextFor context bookDir).dryRun = false := by
    cases bookDir <;> exact effects
  have announces : (contextOf (contextFor context bookDir) true).workbench = crew.workbench.announcing := by
    simp only [contextOf, Context.asDryRun, effectful, if_true, Bool.false_eq_true, if_false,
      contextFor_workbench, others]
  have same : (contextOf (contextFor context bookDir) true).settings = (contextFor context bookDir).settings := by
    simp only [contextOf, Context.asDryRun, effectful, if_true, Bool.false_eq_true, if_false]
  have place : (contextOf (contextFor context bookDir) true).cwd = (contextFor context bookDir).cwd := by
    simp only [contextOf, Context.asDryRun, effectful, if_true, Bool.false_eq_true, if_false]
  obtain ⟨parts, last, final, built, told, plays, asks⟩ := Build.plays_run willing
    ((contextFor_workbench context bookDir).trans others) announces same place
    ((contextFor_release context bookDir).symm ▸ address) machine (inDryRun machine) rfl rfl alive there.clean
    entered ⟨returns.clean, returns.leads⟩ ⟨dryReturns.clean, dryReturns.leads⟩
  have result : Action.perform (Build.run (contextOf (contextFor context bookDir) false))
      (announcedAs false machine) = _ := built
  have dryResult : Action.perform (Build.run (contextOf (contextFor context bookDir) true))
      (announcedAs true machine) = _ := told
  rw [result] at run
  rw [dryResult] at dryRun
  -- both end with the report, if there is to be one
  refine ⟨parts ++ _, _, _, run, dryRun, plays.tell _ last.cwd final.cwd, ?_⟩
  simp [asks, List.flatMap_map, Build.Part.asked, contextFor_release]

/-! ### A book beside the project -/

/-- Others who do all that they are asked for, and say so. -/
def helpfulCrew : Crew where
  findTool _ _ := none
  run _ _ _ := .ok 0
  fetch _ _ _ := .ok ()
  files machine _ := machine.files
  emissions _ _ := [.trace "crew" "done"]

theorem helpfulCrew_willing : helpfulCrew.Willing fun _ => none :=
  ⟨fun _ _ _ => rfl, fun _ _ _ => rfl, fun _ _ => rfl⟩

def helpedContext (prebuild : List String) : Context :=
  ⟨helpfulCrew.workbench, { Build.besideSettings with prebuild := prebuild }, Path.parse "/project", false⟩

theorem build_announced_beside :
    ∃ (parts : List Build.Part) (last final : Machine),
      Action.perform (status ⟨80, 0, 0⟩ (pure (helpedContext ["prepare"])) ["build"]) Machine.atProject =
        (.ok 0, last) ∧
      Action.perform (status ⟨80, 0, 0⟩ (pure (helpedContext ["prepare"])) ["build", "--dry-run"])
        Machine.atProject = (.ok 0, final) ∧
      Build.Plays parts (Path.parse "/tmp") Machine.atProject last (inDryRun Machine.atProject) final ∧
      parts.flatMap Build.Part.asked =
        [.command ["prepare"] (Path.parse "/tmp"), .lookup "tool", .fetch "address" (Path.parse "/tmp"),
          .command ["./tool", "build"] (Path.parse "/tmp")] := by
  have read : readWords Command.build.vocabulary true [] = .ok ([], []) := rfl
  have chosen : Action.perform (bookDir? .build []) Machine.atProject = (.ok none, Machine.atProject) := rfl
  have there : Machine.atProject.HasDirectory (contextFor (helpedContext ["prepare"]) none).bookDir :=
    ⟨by decide +kernel, by decide +kernel⟩
  have address : (helpedContext ["prepare"]).settings.release.url = .ok "address" := rfl
  have entered : Machine.atProject.files.enter Machine.atProject.cwd "/tmp" = .ok ⟨["tmp"], 1⟩ := by
    with_unfolding_all rfl
  obtain ⟨inside, enters, parts, last, final, run, dry, plays, asked⟩ :=
    build_announced helpfulCrew_willing rfl rfl ⟨80, 0, 0⟩ read rfl (by simp) chosen (fun _ => ⟨_, rfl⟩) there
      address (by decide +kernel) ⟨by decide +kernel, by decide +kernel⟩ ⟨by decide +kernel, by decide +kernel⟩
  cases enters.symm.trans entered
  exact ⟨parts, last, final, run, dry, plays, asked⟩

/-- Others who take the project away while a command runs. -/
def sweepingCrew : Crew := { helpfulCrew with
  files := fun machine event =>
    match event with
    | .command _ _ => machine.files.removeTree ["project"]
    | _ => machine.files }

/-- A line is shown without the sequences that a terminal would take for commands; and a build of which all
steps went well may fail yet, if its first directory is gone or the clock has no end. -/
theorem build_not_always_announced :
    (¬ ∀ surroundings (crew : Crew) installed (context : Context) machine words directory, crew.Willing installed →
      context.workbench = crew.workbench →
      .command words directory ∈
        (Action.perform (status surroundings (pure context) ["build"]) machine).2.events →
      .notice ("[DRY RUN] Would run: " ++ Text.join " " words ++ " (in " ++ directory.text ++ ")\n") ∈
        (Action.perform (status surroundings (pure context) ["build", "--dry-run"]) machine).2.emissions) ∧
    (¬ ∀ surroundings (crew : Crew) installed (context : Context) (machine : Machine), surroundings.Elapses →
      crew.Willing installed → context.workbench = crew.workbench → context.settings.release.url.isOk →
      machine.HasDirectory context.bookDir →
      (Action.perform (status surroundings (pure context) ["build"]) machine).1 = .ok 0) ∧
    ¬ ∀ surroundings, (Action.perform (status surroundings (pure (helpedContext ["prepare"])) ["build"])
      Machine.atProject).1 = .ok 0 := by
  refine ⟨fun always => ?_, fun always => ?_, fun always => ?_⟩
  · have announced := always ⟨80, 0, 0⟩ helpfulCrew _ (helpedContext ["\x1b[31mprepare\x1b[0m"])
      Machine.atProject ["\x1b[31mprepare\x1b[0m"] (Path.parse "/tmp") helpfulCrew_willing rfl
      (by decide +kernel)
    revert announced
    decide +kernel
  · have there : Machine.atProject.HasDirectory (helpedContext ["prepare"]).bookDir :=
      ⟨by decide +kernel, by decide +kernel⟩
    have succeeds := always ⟨80, 0, 0⟩ sweepingCrew (fun _ => none)
      { helpedContext ["prepare"] with workbench := sweepingCrew.workbench } Machine.atProject ⟨_, rfl⟩
      ⟨fun _ _ _ => rfl, fun _ _ _ => rfl, fun _ _ => rfl⟩ rfl rfl ⟨there.clean, there.leads⟩
    have fails : (Action.perform (status ⟨80, 0, 0⟩
        (pure { helpedContext ["prepare"] with workbench := sweepingCrew.workbench }) ["build"])
        Machine.atProject).1.isOk = false := by
      decide +kernel
    rw [succeeds] at fails
    cases fails
  · have succeeds := always ⟨80, 0, 1 / 0⟩
    have fails : (Action.perform (status ⟨80, 0, 1 / 0⟩ (pure (helpedContext ["prepare"])) ["build"])
        Machine.atProject).1.isOk = false := by
      decide +kernel
    rw [succeeds] at fails
    cases fails

end Bookbinder.CommandLine
