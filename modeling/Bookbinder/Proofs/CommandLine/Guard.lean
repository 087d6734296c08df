import Bookbinder.Proofs.CommandLine.ExitStatus
import Bookbinder.Proofs.CommandLine.Failures
import Bookbinder.Proofs.CommandLine.ReadOnly

/-!
The guard before a build. Main statement: the guard lets a path through just when it can be entered, and a
build whose book directory cannot be entered ends before it asks for anything.
-/

set_option autoImplicit false

namespace Bookbinder

namespace FileSystem

variable {files : FileSystem} {cwd : WorkingDirectory} {path : String} {errno : Errno}

/-- A path leads nowhere, or it is too long for that to be told. -/
def IsLost (errno : Errno) : Prop := errno.meansAbsence = true ∨ errno = .nameTooLong

theorem walk_lost {follow : Bool} {spot : Spot} {names : List String}
    (refused : files.walk follow spot names = .refused errno) : IsLost errno := by
  induction names generalizing spot with
  | nil => cases refused
  | cons name rest ih =>
    rw [walk] at refused
    split at refused
    · cases refused
      exact .inl rfl
    split at refused
    · exact ih refused
    split at refused
    · exact ih refused
    split at refused
    · cases refused
      exact .inr rfl
    split at refused
    · split at refused
      · cases refused
      · cases refused
        exact .inl rfl
    · split at refused <;> cases refused
    · exact ih refused

theorem walkOn_lost {follow : Bool} {budget : Nat} {spot : Spot} {names : List String}
    (refused : files.walkOn follow budget spot names = .error errno) : IsLost errno := by
  induction budget generalizing spot names with
  | zero =>
    rw [walkOn] at refused
    split at refused
    · cases refused
    · next walked =>
      cases refused
      exact walk_lost walked
    · cases refused
      exact .inl rfl
  | succ budget ih =>
    rw [walkOn] at refused
    split at refused
    · cases refused
    · next walked =>
      cases refused
      exact walk_lost walked
    · exact ih refused

theorem locate_lost {follow : Bool} (refused : files.locate cwd follow path = .error errno) :
    IsLost errno := by
  unfold locate at refused
  split at refused
  · cases refused
    exact .inl rfl
  split at refused
  · cases refused
    exact .inr rfl
  split at refused
  · exact walkOn_lost refused
  split at refused
  · exact walkOn_lost refused
  · dsimp only at refused
    split at refused
    · cases refused
    · split at refused
      · exact walkOn_lost refused
      · cases refused
        exact .inl rfl
    · cases refused
      exact .inl rfl

/-- Only a path that is too long, or has too long a name in it, cannot be told to lead nowhere. -/
theorem status_lost (refused : files.status cwd path = .error errno)
    (fits : files.locate cwd true path ≠ .error .nameTooLong) : errno.meansAbsence = true := by
  unfold status at refused
  cases located : files.locate cwd true path with
  | error cause =>
    rw [located] at refused
    cases refused
    rcases locate_lost located with absent | rfl
    · exact absent
    · exact absurd located fits
  | ok location =>
    rw [located] at refused
    cases location with
    | gone => cases refused
    | vacant directory name =>
      cases refused
      rfl
    | occupied spot =>
      -- what stands there can be anything but nothing
      simp only [bind, Except.bind, statusAt] at refused
      split at refused
      · cases refused
      · split at refused
        · cases refused
        · cases refused
          rfl
      · cases refused
      · cases refused
      · cases refused
        rfl
      · cases refused
        rfl

theorem leadsToDirectory_of_enter {place : WorkingDirectory} (entered : files.enter cwd path = .ok place) :
    files.leadsToDirectory cwd path = true := by
  unfold enter at entered
  unfold leadsToDirectory status
  cases located : files.locate cwd true path with
  | error errno =>
    rw [located] at entered
    cases entered
  | ok location =>
    rw [located] at entered
    cases location with
    | gone => rfl
    | vacant directory name => cases entered
    | occupied spot =>
      simp only [bind, Except.bind, statusAt] at entered ⊢
      split at entered
      · next entry => rw [entry]
      · cases entered

end FileSystem

namespace Machine

/-- One can go to a path. -/
def CanEnter (machine : Machine) (path : Path) : Prop :=
  ∃ place, Action.perform (Action.enterDirectory path) machine = (.ok (), { machine with cwd := place })

theorem hasDirectory_iff_canEnter {machine : Machine} {path : Path} (clean : holdsNul path.text = false) :
    machine.HasDirectory path ↔ machine.CanEnter path := by
  constructor
  · intro there
    obtain ⟨place, entered⟩ := FileSystem.enter_of_leadsToDirectory there.leads
    exact ⟨place, Action.perform_enterDirectory clean entered⟩
  · rintro ⟨place, went⟩
    rcases Action.enterDirectory_cases path machine with ⟨failure, failed⟩ | ⟨_, entered, _⟩
    · rw [failed] at went
      cases went
    · exact ⟨clean, FileSystem.leadsToDirectory_of_enter entered⟩

/-- A path is not so long, and has no name so long, that it cannot be looked up. -/
def FitsPath (machine : Machine) (path : Path) : Prop :=
  machine.files.locate machine.cwd true path.text ≠ .error .nameTooLong

end Machine

namespace Action

variable {path : Path} {machine : Machine}

/-- What is told of a book directory that is not there. -/
def missing (path : Path) : Emission := .notice (shown ("Error: Book directory not found: " ++ path.text) true)

theorem perform_ensureBookDirectory_iff (clean : holdsNul path.text = false) :
    perform (ensureBookDirectory path) machine = (.ok (), machine) ↔ machine.CanEnter path := by
  rw [← Machine.hasDirectory_iff_canEnter clean]
  constructor
  · intro passed
    rcases ensureBookDirectory_cases path machine with ⟨there, _⟩ | ⟨_, failed⟩ | ⟨failure, failed, _⟩
    · exact there
    · rw [passed] at failed
      cases failed
    · rw [passed] at failed
      cases failed
  · intro there
    exact perform_ensureBookDirectory_of_told clean (FileSystem.tellsDirectory_of_leadsToDirectory there.leads)

theorem perform_ensureBookDirectory_of_missing (clean : holdsNul path.text = false)
    (nowhere : ¬ machine.CanEnter path) (fits : machine.FitsPath path) :
    perform (ensureBookDirectory path) machine =
      (.error (.exit 1), { machine with emissions := machine.emissions ++ [missing path] }) := by
  have untold : machine.files.tellsDirectory machine.cwd path.text = .ok false := by
    cases told : machine.files.tellsDirectory machine.cwd path.text with
    | ok found =>
      cases found with
      | false => rfl
      | true =>
        refine absurd ?_ nowhere
        exact (Machine.hasDirectory_iff_canEnter clean).1
          ⟨clean, FileSystem.leadsToDirectory_of_tellsDirectory told⟩
    | error errno =>
      unfold FileSystem.tellsDirectory at told
      split at told
      · cases told
      · next cause failed =>
        rw [FileSystem.status_lost failed fits] at told
        cases told
  rw [ensureBookDirectory, perform_bind, perform_isDirectory clean, untold]
  rfl

theorem perform_ensureBookDirectory_of_closed (clean : holdsNul path.text = false)
    (closed : ¬ machine.CanEnter path) :
    ∃ failure lines, perform (ensureBookDirectory path) machine =
      (.error failure, { machine with emissions := machine.emissions ++ lines }) := by
  have kept : machine = { machine with emissions := machine.emissions ++ [] } := by simp
  rw [ensureBookDirectory, perform_bind, perform_isDirectory clean]
  cases told : machine.files.tellsDirectory machine.cwd path.text with
  | error errno => exact ⟨_, [], congrArg (Prod.mk _) kept⟩
  | ok found =>
    cases found with
    | false => exact ⟨_, _, rfl⟩
    | true =>
      have there : machine.HasDirectory path := ⟨clean, FileSystem.leadsToDirectory_of_tellsDirectory told⟩
      exact absurd ((Machine.hasDirectory_iff_canEnter clean).1 there) closed

theorem perform_ensureBookDirectory_of_long (clean : holdsNul path.text = false)
    (long : FileSystem.pathLimit ≤ path.text.utf8ByteSize) :
    perform (ensureBookDirectory path) machine =
      (.error (.refused .nameTooLong (.name path.text)), machine) := by
  have unknown : machine.files.tellsDirectory machine.cwd path.text = .error .nameTooLong := by
    rw [FileSystem.tellsDirectory, FileSystem.status, FileSystem.locate_of_long long]
    rfl
  rw [ensureBookDirectory, perform_bind, perform_isDirectory clean, unknown]
  rfl

/-- To arrive somewhere is to go there, unless one would not know the way back. -/
theorem arrive_iff_canEnter (alive : machine.files.isAlive machine.cwd = true)
    (clean : holdsNul path.text = false) :
    (∃ visit entered, perform (arrive path) machine = (.ok visit, entered)) ↔ machine.CanEnter path := by
  constructor
  · rintro ⟨visit, entered, arrived⟩
    rcases arrive_cases path machine with ⟨failure, failed⟩ | ⟨_, _, _, _, _, went, _⟩
    · rw [failed] at arrived
      cases arrived
    · exact ⟨_, perform_enterDirectory clean went⟩
  · rintro ⟨place, went⟩
    obtain ⟨inside, entered⟩ := FileSystem.enter_of_leadsToDirectory
      ((Machine.hasDirectory_iff_canEnter clean).2 ⟨place, went⟩).leads
    exact ⟨_, _, perform_arrive_of_enter machine alive clean entered⟩

end Action

namespace CommandLine

variable {surroundings : Surroundings} {opening : Opening} {words rest : List String} {given : List Given}
  {context : Context} {machine : Machine}

/-- Words ask for a build and for nothing that is answered instead, and all of them can be read. -/
def AsksToBuild (words : List String) (given : List Given) : Prop :=
  ∃ rest, AskFor words .build rest ∧ readWords Command.build.vocabulary true rest = .ok (given, []) ∧
    given.find? isRequest = none

/-- The book directory of a build with some options. -/
def bookDirOf (context : Context) (given : List Given) : Path :=
  (contextFor context ((lastBookDir? given).map Path.parse)).bookDir

/-- The book directory that is named in words is a file. -/
def NamesFile (given : List Given) (machine : Machine) : Prop :=
  ∃ text, lastBookDir? given = some text ∧ machine.files.leadsToFile machine.cwd text = true

theorem perform_reject {α : Type} (usage path : String) (fault : UsageFault) (machine : Machine) :
    ∃ lines, Action.perform (reject usage path fault : Action α) machine =
      (.error (.exit 2), { machine with emissions := machine.emissions ++ lines }) := by
  unfold reject
  cases fault.showsUsage with
  | true =>
    simp only [if_true, Action.perform_bind, Action.tellError, Action.tellLine, Action.tell,
      Action.perform_emit, Action.perform_throw, List.append_assoc]
    exact ⟨_, rfl⟩
  | false => exact ⟨_, rfl⟩

theorem perform_heed_of_file (clean : ∀ text, lastBookDir? given = some text → holdsNul text = false)
    (read : readWords Command.build.vocabulary true rest = .ok (given, []))
    (none : given.find? isRequest = none) (isFile : NamesFile given machine) :
    ∃ lines, Action.perform (heed .build surroundings rest) machine =
      (.error (.exit 2), { machine with emissions := machine.emissions ++ lines }) := by
  obtain ⟨text, named, file⟩ := isFile
  have chosen := perform_bookDir?_of_named .build named (clean text named) machine
  rw [if_pos file] at chosen
  obtain ⟨lines, rejected⟩ := perform_reject (α := Option Path) Command.build.help.usage
    (programName ++ " " ++ Command.build.name) (.notDirectory bookDirOption.1 text) machine
  rw [heed_of_read read, answerRequests_of_none none, pure_bind, Action.perform_bind, chosen, rejected]
  exact ⟨lines, rfl⟩

theorem perform_heed_of_no_file (clean : ∀ text, lastBookDir? given = some text → holdsNul text = false)
    (read : readWords Command.build.vocabulary true rest = .ok (given, []))
    (none : given.find? isRequest = none) (noFile : ¬ NamesFile given machine) :
    Action.perform (heed .build surroundings rest) machine =
      (.ok (given, (lastBookDir? given).map Path.parse), machine) := by
  refine perform_heed surroundings read none ?_
  cases named : lastBookDir? given with
  | none =>
    rw [bookDir?_of_none .build named]
    rfl
  | some text =>
    rw [perform_bookDir?_of_named .build named (clean text named), if_neg]
    · rfl
    · exact fun file => noFile ⟨text, named, file⟩

theorem perform_status_heeded (asks : AskFor words .build rest)
    (opens : Action.perform opening.context machine = (.ok context, machine)) :
    Action.perform (status surroundings opening.context words) machine =
      match Action.perform (heed .build surroundings rest >>= fun heeded =>
          runBuild surroundings (contextFor context heeded.2) heeded.1) machine with
      | (ending, after) =>
        (exitOf ending, { after with emissions := after.emissions ++ farewell ending }) := by
  have acts : (fun heeded : List Given × Option Path =>
      act .build surroundings (contextFor context heeded.2) heeded.1) =
        fun heeded => runBuild surroundings (contextFor context heeded.2) heeded.1 := rfl
  rw [perform_status_eq, perform_of_askFor asks, Action.perform_bind, opens]
  simp only [run_eq, acts]

/-- What is announced of a dry run leaves files where they are. -/
theorem canEnter_announcedAs {path : Path} (clean : holdsNul path.text = false) (dryRun : Bool)
    (machine : Machine) : (announcedAs dryRun machine).CanEnter path ↔ machine.CanEnter path := by
  rw [← Machine.hasDirectory_iff_canEnter clean, ← Machine.hasDirectory_iff_canEnter clean]
  cases dryRun <;> exact ⟨fun there => ⟨there.clean, there.leads⟩, fun there => ⟨there.clean, there.leads⟩⟩

/-- A guard that does not let a build through is all there is of it. -/
theorem perform_runBuild_of_guard {failure : Failure} {after : Machine}
    (guarded : Action.perform (Action.ensureBookDirectory context.bookDir)
      (announcedAs (given.contains .dryRun) machine) = (.error failure, after)) :
    Action.perform (runBuild surroundings context given) machine = (.error failure, after) := by
  have built : Action.perform (buildThere (contextOf context (given.contains .dryRun)))
      (announcedAs (given.contains .dryRun) machine) = (.error failure, after) := by
    rw [buildThere, contextOf_bookDir, Action.perform_bind, guarded]
  rw [runBuild_eq, Action.perform_bind, reachOutcome_eq]
  cases dryRun : given.contains .dryRun with
  | false =>
    rw [dryRun] at built
    have here : Action.perform (buildThere (contextOf context false)) machine = (.error failure, after) := built
    simp only [Bool.false_eq_true, if_false, here]
  | true =>
    rw [dryRun] at built
    have told : Action.perform (Action.tellLine "[DRY RUN MODE - No changes will be made]\n") machine =
        (.ok (), announcedAs true machine) := rfl
    simp only [if_true, Action.perform_bind, told, built]

theorem announcedAs_eq (dryRun : Bool) (machine : Machine) :
    ∃ lines, announcedAs dryRun machine = { machine with emissions := machine.emissions ++ lines } := by
  cases dryRun with
  | false => exact ⟨[], by simp [announcedAs]⟩
  | true => exact ⟨_, rfl⟩

/-- How a build goes as far as its book directory is concerned. -/
structure EntersOrEnds (surroundings : Surroundings) (opening : Opening) (words : List String)
    (given : List Given) (path : Path) (machine : Machine) : Prop where
  /-- A file that is named as the book directory is a mistake in the words. -/
  misnamed : NamesFile given machine →
    ∃ lines, Action.perform (status surroundings opening.context words) machine =
      (.ok 2, { machine with emissions := machine.emissions ++ lines })
  /-- A directory that cannot be entered is told. -/
  missing : ¬ NamesFile given machine → ¬ machine.CanEnter path → machine.FitsPath path →
    Action.perform (status surroundings opening.context words) machine =
      (.ok 1, { machine with
        emissions := (announcedAs (given.contains .dryRun) machine).emissions ++ [Action.missing path] })
  /-- Nothing is asked for without a directory. -/
  idle : ¬ machine.CanEnter path →
    ∃ lines, (Action.perform (status surroundings opening.context words) machine).2 =
      { machine with emissions := machine.emissions ++ lines }
  /-- Otherwise the build is inside before its first step. -/
  inside : ¬ NamesFile given machine → machine.CanEnter path →
    ∃ visit entered, Action.perform (Action.arrive path) (announcedAs (given.contains .dryRun) machine) =
      (.ok visit, entered)

theorem entersOrEnds (asks : AsksToBuild words given)
    (opens : Action.perform opening.context machine = (.ok context, machine))
    (alive : machine.files.isAlive machine.cwd = true)
    (clean : holdsNul (bookDirOf context given).text = false)
    (named : ∀ text, lastBookDir? given = some text → holdsNul text = false) :
    EntersOrEnds surroundings opening words given (bookDirOf context given) machine := by
  obtain ⟨rest, asks, read, none⟩ := asks
  have status := @perform_status_heeded surroundings opening words rest context machine asks opens
  have misnamed (isFile : NamesFile given machine) :
      ∃ lines, Action.perform (CommandLine.status surroundings opening.context words) machine =
        (.ok 2, { machine with emissions := machine.emissions ++ lines }) := by
    obtain ⟨lines, refused⟩ := @perform_heed_of_file surroundings rest given machine named read none isFile
    rw [Action.perform_bind, refused] at status
    exact ⟨lines, status.trans (by simp [exitOf, farewell, isAbort])⟩
  -- what the guard says of the book directory is the end of the build, unless it lets the build through
  have guarded {failure : Failure} {after : Machine} (noFile : ¬ NamesFile given machine)
      (ends : Action.perform (Action.ensureBookDirectory (bookDirOf context given))
        (announcedAs (given.contains .dryRun) machine) = (.error failure, after)) :
      Action.perform (CommandLine.status surroundings opening.context words) machine =
        (exitOf (.error failure), { after with emissions := after.emissions ++ farewell (.error failure) }) := by
    rw [Action.perform_bind, perform_heed_of_no_file named read none noFile] at status
    simp only [perform_runBuild_of_guard ends] at status
    exact status
  have nowhere (closed : ¬ machine.CanEnter (bookDirOf context given)) :
      ¬ (announcedAs (given.contains .dryRun) machine).CanEnter (bookDirOf context given) :=
    fun enters => closed ((canEnter_announcedAs clean _ _).1 enters)
  obtain ⟨lines, announced⟩ := announcedAs_eq (given.contains .dryRun) machine
  refine ⟨misnamed, fun noFile closed fits => ?_, fun closed => ?_, fun noFile enters => ?_⟩
  · have fits' : (announcedAs (given.contains .dryRun) machine).FitsPath (bookDirOf context given) := by
      rw [announced]
      exact fits
    rw [guarded noFile (Action.perform_ensureBookDirectory_of_missing clean (nowhere closed) fits'), announced]
    simp [exitOf, farewell, isAbort]
  · by_cases isFile : NamesFile given machine
    · obtain ⟨lines, ended⟩ := misnamed isFile
      exact ⟨lines, congrArg Prod.snd ended⟩
    · obtain ⟨failure, more, ends⟩ := Action.perform_ensureBookDirectory_of_closed clean (nowhere closed)
      rw [guarded isFile ends, announced]
      exact ⟨lines ++ (more ++ farewell (.error failure)), by simp [List.append_assoc]⟩
  · have here : (announcedAs (given.contains .dryRun) machine).files.isAlive
        (announcedAs (given.contains .dryRun) machine).cwd = true := by
      rw [announced]
      exact alive
    exact (Action.arrive_iff_canEnter here clean).2 ((canEnter_announcedAs clean _ _).2 enters)

/-- A path can be entered just when the guard lets it through, and is told to be missing otherwise unless it is
too long to be looked up; so a build without a book directory ends there. -/
theorem guard_agrees_with_entering :
    (∀ (machine : Machine) (path : Path), holdsNul path.text = false →
      (Action.perform (Action.ensureBookDirectory path) machine = (.ok (), machine) ↔ machine.CanEnter path) ∧
      (machine.files.isAlive machine.cwd = true →
        ((∃ visit entered, Action.perform (Action.arrive path) machine = (.ok visit, entered)) ↔
          machine.CanEnter path)) ∧
      (¬ machine.CanEnter path → machine.FitsPath path →
        Action.perform (Action.ensureBookDirectory path) machine =
          (.error (.exit 1), { machine with emissions := machine.emissions ++ [Action.missing path] }))) ∧
    ∀ (surroundings : Surroundings) (opening : Opening) (words : List String) (given : List Given)
      (context : Context) (machine : Machine),
      AsksToBuild words given → Action.perform opening.context machine = (.ok context, machine) →
      machine.files.isAlive machine.cwd = true → holdsNul (bookDirOf context given).text = false →
      (∀ text, lastBookDir? given = some text → holdsNul text = false) →
      EntersOrEnds surroundings opening words given (bookDirOf context given) machine :=
  ⟨fun _ _ clean => ⟨Action.perform_ensureBookDirectory_iff clean,
      fun alive => Action.arrive_iff_canEnter alive clean,
      Action.perform_ensureBookDirectory_of_missing clean⟩,
    fun _ _ _ _ _ _ asks opens alive clean named => entersOrEnds asks opens alive clean named⟩

theorem guard_agrees_with_entering_nowhere :
    Action.perform (status ⟨80, 0, 0⟩ (openContext mortals.workbench) ["build", "--book-dir", "nowhere"])
        Machine.atProject =
      (.ok 1, { Machine.atProject with emissions := [Action.missing (Path.parse "/project/nowhere")] }) := by
  have asks : AsksToBuild ["build", "--book-dir", "nowhere"] [.bookDir "nowhere"] :=
    ⟨_, askFor_name .build _, by with_unfolding_all rfl, rfl⟩
  obtain ⟨context, opens, path⟩ : ∃ context, Action.perform (openContext mortals.workbench)
      Machine.atProject = (.ok context, Machine.atProject) ∧
        bookDirOf context [.bookDir "nowhere"] = Path.parse "/project/nowhere" :=
    ⟨_, rfl, by decide +kernel⟩
  have clean : holdsNul (Path.parse "/project/nowhere").text = false := by decide +kernel
  have closed : ¬ Machine.atProject.CanEnter (Path.parse "/project/nowhere") := by
    rw [← Machine.hasDirectory_iff_canEnter clean]
    exact fun there => absurd there.leads (by decide +kernel)
  have noFile : ¬ NamesFile [.bookDir "nowhere"] Machine.atProject := by
    rintro ⟨text, named, file⟩
    cases named
    exact absurd file (by decide +kernel)
  have fits : Machine.atProject.FitsPath (Path.parse "/project/nowhere") := by
    unfold Machine.FitsPath
    decide +kernel
  have ends := guard_agrees_with_entering.2 ⟨80, 0, 0⟩ (.here mortals.workbench) _ _ context
    Machine.atProject asks opens (by decide) (by rw [path]; exact clean) (by rintro text ⟨⟩; decide +kernel)
  rw [path] at ends
  exact ends.missing noFile closed fits

/-- A name that no file can have. -/
def overlongName : String := String.ofList (List.replicate FileSystem.pathLimit 'a')

theorem utf8ByteSize_overlongName : overlongName.utf8ByteSize = FileSystem.pathLimit :=
  utf8ByteSize_replicate 'a' FileSystem.pathLimit

theorem isName_overlongName : isName overlongName = true := by
  have long {short : String} (few : short.utf8ByteSize < 2) : overlongName ≠ short := by
    intro same
    rw [← same, utf8ByteSize_overlongName] at few
    exact absurd few (by decide)
  have some : overlongName ≠ "" := long (by decide)
  have notDot : overlongName ≠ "." := long (by decide)
  have noSlash : '/' ∉ overlongName.toList := by
    rw [overlongName, String.toList_ofList]
    exact fun member => absurd (List.eq_of_mem_replicate member) (by decide)
  simp [isName, some, notDot, noSlash]

def overlong : Path := ⟨.root, [overlongName], by simp [isName_overlongName]⟩

theorem text_overlong : overlong.text = "/" ++ overlongName := by
  rw [← String.toList_inj, String.toList_append]
  simp only [overlong, Path.text, Anchor.text, List.map_cons, List.map_nil, Text.joinWith,
    String.toList_ofList]
  rfl

theorem overlong_clean : holdsNul overlong.text = false := by
  have noNul : '\x00' ∉ overlongName.toList := by
    rw [overlongName, String.toList_ofList]
    exact fun member => absurd (List.eq_of_mem_replicate member) (by decide)
  rw [text_overlong, holdsNul, String.toList_append]
  simp [noNul]

theorem overlong_long : FileSystem.pathLimit ≤ overlong.text.utf8ByteSize := by
  rw [text_overlong, String.utf8ByteSize_append, utf8ByteSize_overlongName]
  exact Nat.le_add_left _ _

/-- A path that is too long is refused and not told to be missing, and a file that is named as the book
directory is a mistake in the words. -/
theorem guard_not_always_agrees :
    (¬ Machine.atProject.CanEnter overlong ∧
      (Action.perform (Action.ensureBookDirectory overlong) Machine.atProject).1 =
        .error (.refused .nameTooLong (.name overlong.text))) ∧
    (¬ Machine.atProject.CanEnter (Path.parse "/bin/sh") ∧
      (Action.perform (status ⟨80, 0, 0⟩ (openContext mortals.workbench) ["build", "--book-dir", "/bin/sh"])
        Machine.atProject).1 = .ok 2) := by
  have refused := @Action.perform_ensureBookDirectory_of_long overlong Machine.atProject overlong_clean
    overlong_long
  refine ⟨⟨?_, congrArg Prod.fst refused⟩, ?_, by with_unfolding_all rfl⟩
  · rw [← Action.perform_ensureBookDirectory_iff overlong_clean, refused]
    nofun
  · rw [← Machine.hasDirectory_iff_canEnter (by decide +kernel)]
    exact fun there => absurd there.leads (by decide +kernel)

end CommandLine

end Bookbinder
