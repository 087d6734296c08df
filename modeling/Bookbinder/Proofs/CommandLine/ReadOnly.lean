import Bookbinder.Proofs.CommandLine.Building
import Bookbinder.Proofs.FileSystem.Trees
import Bookbinder.Workbench.System

/-!
Commands that only look and tell: `which`, and a build that is to say what it would do. Main statement:
such a command asks for nothing but tools, changes no file and stays where it is, and in two worlds with
the same directories, settings and tools it says the same and ends alike.
-/

set_option autoImplicit false

namespace Bookbinder

open Action (perform LookAlike EndAlike)

/-- Workbenches on which a tool is looked for with the same answer, and with nothing but that. -/
def Workbench.FindAlike (files other : FileSystem) (workbench twin : Workbench) : Prop :=
  ∀ place name, LookAlike files other place False Eq (workbench.findTool name) (twin.findTool name)

/-- Contexts with the same settings in the same directory, which do without effects or not alike. -/
structure Context.SameButWorkbench (files other : FileSystem) (context twin : Context) : Prop where
  settings : context.settings = twin.settings
  cwd : context.cwd = twin.cwd
  dryRun : context.dryRun = twin.dryRun
  finds : Workbench.FindAlike files other context.workbench twin.workbench
  announces : context.dryRun = true → ∃ behind, context.workbench = Workbench.announcing behind
  twinAnnounces : twin.dryRun = true → ∃ behind, twin.workbench = Workbench.announcing behind

namespace Context.SameButWorkbench

variable {files other : FileSystem} {context twin : Context}

theorem withBookDir (same : context.SameButWorkbench files other twin) (bookDir : Option Path) :
    (CommandLine.contextFor context bookDir).SameButWorkbench files other
      (CommandLine.contextFor twin bookDir) := by
  cases bookDir with
  | none => exact same
  | some path =>
    have settings : (context.withBookDir path).settings = (twin.withBookDir path).settings :=
      congrArg (·.withBookDir path) same.settings
    exact ⟨settings, same.cwd, same.dryRun, same.finds, same.announces, same.twinAnnounces⟩

theorem asDryRun (same : context.SameButWorkbench files other twin) :
    context.asDryRun.SameButWorkbench files other twin.asDryRun := by
  unfold Context.asDryRun
  rw [← same.dryRun]
  cases dry : context.dryRun with
  | true => simpa [dry] using same
  | false => exact ⟨same.settings, same.cwd, rfl, same.finds, fun _ => ⟨_, rfl⟩, fun _ => ⟨_, rfl⟩⟩

end Context.SameButWorkbench

theorem Context.dryRun_asDryRun (context : Context) : context.asDryRun.dryRun = true := by
  unfold Context.asDryRun
  split
  · next dry => exact dry
  · rfl

/-! ### Builds -/

namespace Build

variable {files other : FileSystem} {place : WorkingDirectory} {context twin : Context}

section

variable (same : context.SameButWorkbench files other twin) (dry : context.dryRun = true)

include same dry

theorem lookAlike_command (words : List String) (directory : Path) :
    LookAlike files other place False Eq (context.workbench.run words directory)
      (twin.workbench.run words directory) := by
  obtain ⟨behind, announces⟩ := same.announces dry
  obtain ⟨beyond, twinAnnounces⟩ := same.twinAnnounces (same.dryRun ▸ dry)
  rw [announces, twinAnnounces]
  exact (Action.lookAlike_tellLine _).bind fun _ _ _ => Action.lookAlike_pure rfl

theorem lookAlike_fetch (url : String) (directory : Path) :
    LookAlike files other place False Eq (context.workbench.fetch url directory)
      (twin.workbench.fetch url directory) := by
  obtain ⟨behind, announces⟩ := same.announces dry
  obtain ⟨beyond, twinAnnounces⟩ := same.twinAnnounces (same.dryRun ▸ dry)
  rw [announces, twinAnnounces]
  exact Action.lookAlike_tellLine _

theorem lookAlike_runPrebuild (directory : Path) :
    LookAlike files other place False Eq (runPrebuild context directory) (runPrebuild twin directory) := by
  unfold runPrebuild
  rw [← same.settings]
  refine (Action.lookAlike_emit _).bind fun _ _ _ => ?_
  refine (lookAlike_command same dry _ _).bind fun code _ equal => ?_
  subst equal
  exact (Action.lookAlike_emit _).bind fun _ _ _ => Action.lookAlike_pure rfl

theorem lookAlike_runTool (tool : Tool) (directory : Path) :
    LookAlike files other place False Eq (runTool context tool directory) (runTool twin tool directory) := by
  refine (Action.lookAlike_tellLine _).bind fun _ _ _ => ?_
  refine (lookAlike_command same dry _ _).bind fun code _ equal => ?_
  subst equal
  exact (Action.lookAlike_emit _).bind fun _ _ _ => Action.lookAlike_pure rfl

theorem lookAlike_resolve (release : Release) (directory : Path) :
    LookAlike files other place False Eq (Tool.resolve context.workbench release directory)
      (Tool.resolve twin.workbench release directory) := by
  refine (same.finds place release.name).bind fun found _ equal => ?_
  subst equal
  cases found with
  | some path => exact (Action.lookAlike_emit _).bind fun _ _ _ => Action.lookAlike_pure rfl
  | none =>
    refine (Action.lookAlike_tellLine _).bind fun _ _ _ => ?_
    unfold Tool.urlOf
    cases release.url with
    | error fault => exact Action.lookAlike_throw _
    | ok url =>
      simp only [pure_bind]
      refine (lookAlike_fetch same dry url directory).bind fun _ _ _ => ?_
      exact (Action.lookAlike_emit _).bind fun _ _ _ => Action.lookAlike_pure rfl

theorem lookAlike_resolveTool (directory : Path) :
    LookAlike files other place False Eq (resolveTool context directory) (resolveTool twin directory) := by
  unfold resolveTool
  rw [← same.settings]
  refine (lookAlike_resolve same dry context.settings.release directory).attempt.bind
    fun result ending ended => ?_
  cases ended with
  | ok equal =>
    subst equal
    exact Action.lookAlike_pure rfl
  | error failure =>
    cases failure with
    | delivery fault => exact (Action.lookAlike_tellLine _).bind fun _ _ _ => Action.lookAlike_pure rfl
    | _ => exact Action.lookAlike_throw _

theorem lookAlike_runSteps (directory : Path) :
    LookAlike files other place False Eq (runSteps context directory) (runSteps twin directory) := by
  refine (lookAlike_runPrebuild same dry directory).bind fun prebuilt _ equal => ?_
  subst equal
  split
  · exact Action.lookAlike_pure rfl
  · refine (lookAlike_resolveTool same dry directory).bind fun resolved _ equal => ?_
    subst equal
    cases resolved with
    | none => exact Action.lookAlike_pure rfl
    | some tool =>
      refine (lookAlike_runTool same dry tool directory).bind fun built _ equal => ?_
      subst equal
      split <;> exact Action.lookAlike_pure rfl

theorem lookAlike_run (agree : files.SameDirectories other)
    (plain : files.isAlive place = true → files.StandsPlainly place.spot ∨
      FileSystem.pathLimit ≤ (Path.ofSpot place.spot).text.utf8ByteSize)
    (clean : holdsNul context.bookDir.text = false)
    (leads : files.leadsToDirectory place context.bookDir.text = true) :
    LookAlike files other place (FileSystem.pathLimit ≤ (Path.ofSpot place.spot).text.utf8ByteSize) Eq
      (Build.run context) (Build.run twin) := by
  have bookDir : context.bookDir = twin.bookDir := by
    rw [Context.bookDir, Context.bookDir, same.settings, same.cwd]
  unfold Build.run
  rw [← bookDir]
  refine (Action.lookAlike_inDirectory agree clean leads plain fun inside =>
    lookAlike_runSteps same dry _).bind fun outcome _ equal => ?_
  subst equal
  exact (Action.lookAlike_emit _).bind fun _ _ _ => Action.lookAlike_pure rfl

end

end Build

namespace CommandLine

variable {files other : FileSystem} {place : WorkingDirectory} {strands : Prop} {context twin : Context}

/-! ### Words -/

theorem lookAlike_reject {α β : Type} {values : α → β → Prop} (usage path : String) (fault : UsageFault) :
    LookAlike files other place strands values (reject usage path fault) (reject usage path fault) := by
  have told : LookAlike files other place strands values
      (do Action.tellError fault.message; throw (.exit 2)) (do Action.tellError fault.message; throw (.exit 2)) :=
    (Action.lookAlike_tellLine _).bind fun _ _ _ => Action.lookAlike_throw _
  unfold reject
  cases fault.showsUsage with
  | true => exact (Action.lookAlike_tellLine _).bind fun _ _ _ => told
  | false => exact told

theorem lookAlike_accept {α : Type} (usage path : String) (result : Except UsageFault α) :
    LookAlike files other place strands (fun value twin => value = twin ∧ result = .ok value)
      (accept usage path result) (accept usage path result) := by
  cases result with
  | ok value => exact Action.lookAlike_pure ⟨rfl, rfl⟩
  | error fault => exact lookAlike_reject usage path fault

theorem lookAlike_answerRequests (surroundings : Surroundings) (help : Help) (given : List Given) :
    LookAlike files other place strands Eq (answerRequests surroundings help given)
      (answerRequests surroundings help given) := by
  unfold answerRequests
  split
  · exact (Action.lookAlike_emit _).bind fun _ _ _ => Action.lookAlike_throw _
  · exact (Action.lookAlike_emit _).bind fun _ _ _ => Action.lookAlike_throw _
  · exact Action.lookAlike_pure rfl

/-- The book directory that is given is taken alike where it is a file on both sides or on none. -/
theorem lookAlike_bookDir? (command : Command) {given : List Given}
    (agree : ∀ text, lastBookDir? given = some text →
      files.leadsToFile place text = other.leadsToFile place text) :
    LookAlike files other place strands Eq (bookDir? command given) (bookDir? command given) := by
  cases named : lastBookDir? given with
  | none =>
    unfold bookDir?
    rw [named]
    exact Action.lookAlike_pure rfl
  | some text =>
    cases unclean : holdsNul text with
    | true =>
      unfold bookDir?
      simp only [named, unclean, if_true]
      exact Action.lookAlike_throw _
    | false =>
      refine ⟨fun emissions events => ?_⟩
      rw [perform_bookDir?_of_named command named unclean, perform_bookDir?_of_named command named unclean]
      simp only [← agree text named]
      split
      · exact (lookAlike_reject _ _ _).ends emissions events
      · exact (Action.lookAlike_pure rfl).ends emissions events

theorem lookAlike_heed (command : Command) (surroundings : Surroundings) {words : List String}
    (agree : ∀ given left text, readWords command.vocabulary true words = .ok (given, left) →
      lastBookDir? given = some text → files.leadsToFile place text = other.leadsToFile place text) :
    LookAlike files other place strands
      (fun heeded twin => heeded = twin ∧ readWords command.vocabulary true words = .ok (heeded.1, []))
      (heed command surroundings words) (heed command surroundings words) := by
  refine (lookAlike_accept _ _ _).bind fun read _ both => ?_
  obtain ⟨rfl, result⟩ := both
  obtain ⟨given, left⟩ := read
  refine (lookAlike_answerRequests _ _ _).bind fun _ _ _ => ?_
  refine (lookAlike_bookDir? command fun text => agree given left text result).bind fun bookDir _ equal => ?_
  subst equal
  cases left with
  | nil => exact Action.lookAlike_pure ⟨rfl, result⟩
  | cons word others =>
    -- nothing comes after words that are left over
    have refused : LookAlike files other place strands (fun _ _ : Unit => False) _ _ :=
      lookAlike_reject command.help.usage (programName ++ " " ++ command.name) (.extraWords (word :: others))
    exact refused.bind fun _ _ never => never.elim

theorem readWord_dryRun : readWord Command.build.vocabulary "--dry-run" = .ok (.inl [.dryRun]) := by
  rfl

theorem eq_bookDir_of_readWord {word : String} {ofText : String → Given}
    (read : readWord Command.build.vocabulary word = .ok (.inr ofText)) : ofText = .bookDir := by
  have known (spelling : String)
      (found : Pairs.get? Command.build.vocabulary.long spelling = some (.value ofText)) : ofText = .bookDir := by
    simp only [Command.vocabulary, Pairs.get?, bookDirOption, helpOption] at found
    repeat' split at found
    all_goals cases found
    rfl
  rcases readWord_cases read with ⟨_, _, flag⟩ | ⟨_, found, value | ⟨_, value⟩⟩ | ⟨_, _, letters⟩
  · cases flag
  · cases value
    exact known _ found
  · cases value
  · cases letters

theorem ok_of_bind {α β : Type} {first : Except UsageFault α} {next : α → Except UsageFault β} {value : β}
    (read : first >>= next = .ok value) : ∃ between, first = .ok between ∧ next between = .ok value := by
  cases first with
  | error fault => cases read
  | ok between => exact ⟨between, rfl, read⟩

/-- A word of the command line is the option, the book directory's name, or left. -/
theorem dryRun_mem_of_readWords {words : List String} {given : List Given} {left : List String}
    (asked : "--dry-run" ∈ words)
    (read : readWords Command.build.vocabulary true words = .ok (given, left)) :
    .dryRun ∈ given ∨ .bookDir "--dry-run" ∈ given ∨ "--dry-run" ∈ left := by
  fun_induction readWords Command.build.vocabulary true words generalizing given left with
  | case1 => simp at asked
  | case2 rest =>
    cases read
    exact .inr (.inr (by simpa using asked))
  | case3 | case5 | case8 => simp_all
  -- options without a value, one of which is the option itself
  | case4 word rest notDashes option first taken ih =>
    obtain ⟨⟨others, kept⟩, readRest, same⟩ := ok_of_bind read
    cases same
    rcases List.mem_cons.1 asked with rfl | later
    · rw [readWord_dryRun] at taken
      cases taken
      simp
    · rcases ih later readRest with found | found | found <;> simp [found]
  -- an option that takes the next word for its value, whatever word that is
  | case6 word notDashes option ofText taken value rest ih =>
    obtain ⟨⟨others, kept⟩, readRest, same⟩ := ok_of_bind read
    cases same
    rcases List.mem_cons.1 asked with rfl | later
    · rw [readWord_dryRun] at taken
      cases taken
    · rcases List.mem_cons.1 later with rfl | later
      · simp [eq_bookDir_of_readWord taken]
      · rcases ih later readRest with found | found | found <;> simp [found]
  | case7 word rest notDashes plain _ ih =>
    obtain ⟨⟨others, kept⟩, readRest, same⟩ := ok_of_bind read
    cases same
    rcases List.mem_cons.1 asked with rfl | later
    · simp
    · rcases ih later readRest with found | found | found <;> simp [found]

/-! ### Commands -/

theorem lookAlike_runWhich (same : context.SameButWorkbench files other twin) :
    LookAlike files other place strands Eq (runWhich context) (runWhich twin) := by
  unfold runWhich
  rw [← same.settings, ← same.cwd]
  refine ((same.finds place context.settings.release.name).mono fun _ _ => id).bind fun found _ equal => ?_
  subst equal
  cases found with
  | some path => exact (Action.lookAlike_tellLine _).bind fun _ _ _ => Action.lookAlike_emit _
  | none =>
    refine (Action.lookAlike_tellLine _).bind fun _ _ _ => ?_
    unfold Tool.urlOf
    cases context.settings.release.url with
    | error fault => exact Action.lookAlike_throw _
    | ok url =>
      simp only [pure_bind]
      exact (Action.lookAlike_emit _).bind fun _ _ _ => Action.lookAlike_tellLine _

theorem lookAlike_conclude (surroundings : Surroundings) (summary : Bool) (outcome : Build.Outcome) :
    LookAlike files other place strands Eq (conclude surroundings summary outcome)
      (conclude surroundings summary outcome) := by
  have ends : LookAlike files other place strands Eq
      (do if !outcome.success then throw (.exit outcome.exitCode))
      (do if !outcome.success then throw (.exit outcome.exitCode)) := by
    split
    · exact Action.lookAlike_throw _
    · exact Action.lookAlike_pure rfl
  unfold conclude printSummary
  cases summary with
  | false => exact ends
  | true =>
    cases (summaryOf surroundings outcome).panel with
    | error fault => exact (Action.lookAlike_throw _).bind fun _ _ (_ : () = ()) => ends
    | ok panel => exact (Action.lookAlike_emit _).bind fun _ _ _ => ends

section

variable (agree : files.SameDirectories other)
  (plain : files.isAlive place = true → files.StandsPlainly place.spot ∨
    FileSystem.pathLimit ≤ (Path.ofSpot place.spot).text.utf8ByteSize)

include agree plain

theorem lookAlike_buildThere (same : context.SameButWorkbench files other twin)
    (dry : context.dryRun = true) :
    LookAlike files other place (FileSystem.pathLimit ≤ (Path.ofSpot place.spot).text.utf8ByteSize) Eq
      (buildThere context) (buildThere twin) := by
  have bookDir : context.bookDir = twin.bookDir := by
    rw [Context.bookDir, Context.bookDir, same.settings, same.cwd]
  unfold buildThere
  rw [← bookDir]
  refine (Action.lookAlike_ensureBookDirectory agree _).bind fun _ _ there => ?_
  refine (Build.lookAlike_run same dry agree plain there.1 there.2).bind_attempt ?_ ?_
  · intro outcome _ equal
    exact Action.lookAlike_pure equal
  · -- a build that could not go back may fail elsewhere, but what is told of it is the same
    intro failure last
    cases failure with
    | interrupted => exact (Action.lookAlike_tellLine _).bind fun _ _ _ => Action.lookAlike_throw _
    | _ => exact Action.lookAlike_throw _

theorem lookAlike_reachOutcome (same : context.SameButWorkbench files other twin) {dryRun : Bool}
    (dry : (contextOf context dryRun).dryRun = true) :
    LookAlike files other place (FileSystem.pathLimit ≤ (Path.ofSpot place.spot).text.utf8ByteSize) Eq
      (reachOutcome context dryRun) (reachOutcome twin dryRun) := by
  have chosen : (contextOf context dryRun).SameButWorkbench files other (contextOf twin dryRun) := by
    cases dryRun with
    | true => exact same.asDryRun
    | false => exact same
  rw [reachOutcome_eq, reachOutcome_eq]
  have built := lookAlike_buildThere agree plain chosen dry
  cases dryRun with
  | false => exact built
  | true => exact (Action.lookAlike_tellLine _).bind fun _ _ _ => built

end

/-! ### Contexts -/

/-- Ways to a context that differ in the workbench only. -/
inductive Opening.SameButWorkbench (files other : FileSystem) (place : WorkingDirectory) :
    Opening → Opening → Prop where
  | given {context twin : Context} (same : context.SameButWorkbench files other twin) :
    SameButWorkbench files other place (.given context) (.given twin)
  | here {workbench twin : Workbench} (finds : workbench.FindAlike files other twin)
    (settings : ∀ emissions events,
      (Action.perform (Action.loadSettings (Path.ofSpot place.spot)) ⟨files, place, emissions, events⟩).1 =
        (Action.perform (Action.loadSettings (Path.ofSpot place.spot)) ⟨other, place, emissions, events⟩).1) :
    SameButWorkbench files other place (.here workbench) (.here twin)

theorem lookAlike_loadSettings (directory : Path)
    (settings : ∀ emissions events,
      (Action.perform (Action.loadSettings directory) ⟨files, place, emissions, events⟩).1 =
        (Action.perform (Action.loadSettings directory) ⟨other, place, emissions, events⟩).1) :
    LookAlike files other place strands Eq (Action.loadSettings directory) (Action.loadSettings directory) := by
  refine ⟨fun emissions events => ?_⟩
  have one := Action.perform_loadSettings_snd directory ⟨files, place, emissions, events⟩
  have two := Action.perform_loadSettings_snd directory ⟨other, place, emissions, events⟩
  have same := settings emissions events
  generalize Action.perform (Action.loadSettings directory) ⟨files, place, emissions, events⟩ = first at *
  generalize Action.perform (Action.loadSettings directory) ⟨other, place, emissions, events⟩ = second at *
  obtain ⟨result, left⟩ := first
  obtain ⟨twin, right⟩ := second
  cases one
  cases two
  cases same
  cases result with
  | ok settings => exact ⟨.ok settings, .ok settings, place, [], [], .ok rfl, .inl rfl, by simp, by simp⟩
  | error failure => exact ⟨_, _, place, [], [], .error failure, .inl rfl, by simp, by simp⟩

theorem lookAlike_context (agree : files.SameDirectories other) {opening twin : Opening}
    (same : opening.SameButWorkbench files other place twin) :
    LookAlike files other place strands
      (fun context twin => context.SameButWorkbench files other twin ∧ context.dryRun = opening.isDry)
      opening.context twin.context := by
  cases same with
  | given same => exact Action.lookAlike_pure ⟨same, rfl⟩
  | @here workbench twin finds settings =>
    have created : LookAlike files other place False
        (fun context twin => context.SameButWorkbench files other twin ∧ context.dryRun = false)
        (Context.create workbench) (Context.create twin) := by
      refine (Action.lookAlike_currentDirectory agree).bind fun cwd _ both => ?_
      obtain ⟨rfl, rfl⟩ := both
      refine (lookAlike_loadSettings _ settings).bind fun loaded _ equal => ?_
      subst equal
      exact Action.lookAlike_pure ⟨⟨rfl, rfl, rfl, finds, nofun, nofun⟩, rfl⟩
    -- settings that cannot be read are reported in the same words, since they failed alike
    refine created.attempt.bind fun result ending ended => ?_
    cases ended with
    | ok both => exact Action.lookAlike_pure both
    | error failure =>
      cases failure with
      | settings fault =>
        simp only
        split
        · exact (Action.lookAlike_tellLine _).bind fun _ _ _ => Action.lookAlike_throw _
        · exact Action.lookAlike_throw _
      | _ => exact Action.lookAlike_throw _

/-! ### Commands that only look and tell -/

/-- A command that only looks and tells: `which`, and a build whose context or options say so. The word of
the option may be taken for the name of the book directory, and then it says nothing. -/
def Command.OnlyTells (isDry : Bool) (rest : List String) : Command → Prop
  | .which => True
  | .build => isDry = true ∨ ("--dry-run" ∈ rest ∧
      ∀ given, readWords Command.build.vocabulary true rest = .ok (given, []) →
        .bookDir "--dry-run" ∈ given → .dryRun ∈ given)
  | .init => False

theorem Command.OnlyTells.dry {context : Context} {rest : List String} {given : List Given}
    (tells : Command.build.OnlyTells context.dryRun rest)
    (read : readWords Command.build.vocabulary true rest = .ok (given, [])) :
    (contextOf context (given.contains .dryRun)).dryRun = true := by
  have asked : context.dryRun = true ∨ .dryRun ∈ given := by
    refine tells.imp_right fun option => ?_
    rcases dryRun_mem_of_readWords option.1 read with found | found | found
    · exact found
    · exact option.2 given read found
    · simp at found
  unfold contextOf
  split
  · exact context.dryRun_asDryRun
  · next unasked => exact asked.resolve_right (by simpa using unasked)

theorem lookAlike_run (agree : files.SameDirectories other)
    (plain : files.isAlive place = true → files.StandsPlainly place.spot ∨
      FileSystem.pathLimit ≤ (Path.ofSpot place.spot).text.utf8ByteSize)
    (surroundings : Surroundings) {command : Command} {rest : List String}
    (tells : command.OnlyTells context.dryRun rest)
    (bookDirs : ∀ given left text, readWords command.vocabulary true rest = .ok (given, left) →
      lastBookDir? given = some text → files.leadsToFile place text = other.leadsToFile place text)
    (same : context.SameButWorkbench files other twin) :
    LookAlike files other place (FileSystem.pathLimit ≤ (Path.ofSpot place.spot).text.utf8ByteSize) Eq
      (command.run surroundings context rest) (command.run surroundings twin rest) := by
  rw [run_eq, run_eq]
  refine (lookAlike_heed command surroundings bookDirs).bind fun heeded _ both => ?_
  obtain ⟨rfl, read⟩ := both
  have same := same.withBookDir heeded.2
  cases command with
  | init => exact tells.elim
  | which => exact lookAlike_runWhich same
  | build =>
    simp only [act, runBuild_eq]
    have unchanged : (contextFor context heeded.2).dryRun = context.dryRun := by
      cases heeded.2 <;> rfl
    have dry := Command.OnlyTells.dry (unchanged.symm ▸ tells) read
    refine (lookAlike_reachOutcome agree plain same dry).bind fun outcome _ equal => ?_
    subst equal
    exact lookAlike_conclude _ _ _

theorem lookAlike_perform (agree : files.SameDirectories other)
    (plain : files.isAlive place = true → files.StandsPlainly place.spot ∨
      FileSystem.pathLimit ≤ (Path.ofSpot place.spot).text.utf8ByteSize)
    (surroundings : Surroundings) {command : Command} {words rest : List String}
    (asks : AskFor words command rest) {opening twin : Opening}
    (tells : command.OnlyTells opening.isDry rest)
    (bookDirs : ∀ given left text, readWords command.vocabulary true rest = .ok (given, left) →
      lastBookDir? given = some text → files.leadsToFile place text = other.leadsToFile place text)
    (same : opening.SameButWorkbench files other place twin) :
    LookAlike files other place (FileSystem.pathLimit ≤ (Path.ofSpot place.spot).text.utf8ByteSize) Eq
      (CommandLine.perform surroundings opening.context words)
      (CommandLine.perform surroundings twin.context words) := by
  rw [perform_of_askFor asks, perform_of_askFor asks]
  refine (lookAlike_context agree same).bind fun context twin both => ?_
  obtain ⟨same, dry⟩ := both
  exact lookAlike_run agree plain surroundings (dry ▸ tells) bookDirs same

end CommandLine

/-- In a tree a directory's own path leads to it, unless it is too long. -/
theorem FileSystem.IsTree.standsPlainly {files : FileSystem} (tree : files.IsTree) {place : WorkingDirectory}
    (clean : holdsNul (Path.ofSpot place.spot).text = false) (alive : files.isAlive place = true) :
    files.StandsPlainly place.spot ∨
      FileSystem.pathLimit ≤ (Path.ofSpot place.spot).text.utf8ByteSize := by
  have standing := FileSystem.isDirectory_of_isAlive alive
  obtain ⟨serial, mode, entry⟩ := FileSystem.entryAt?_of_isDirectory standing
  have spot := tree.isSpot entry
  have text := Path.text_ofSpot fun name member => (spot name member).1
  rw [text] at clean ⊢
  refine (Nat.lt_or_ge _ _).imp_left fun short => ?_
  refine FileSystem.standsPlainly_of_directories spot clean short fun above isPrefix => ?_
  by_cases same : above = place.spot
  · rw [same]
    exact standing
  · exact tree.isDirectory_of_prefix entry isPrefix same

namespace CommandLine

/-- Commands that only look and tell, in two worlds with the same directories, settings and tools. Nothing is
asked of others but where tools are, no file is changed, and the process is where it was if the path of that
place can be followed; and the second world, whatever commands would do in it, sees the same. -/
theorem status_only_tells (surroundings : Surroundings) {words rest : List String} {command : Command}
    (asks : AskFor words command rest) {opening twin : Opening}
    (tells : command.OnlyTells opening.isDry rest) {files other : FileSystem} {place : WorkingDirectory}
    (tree : files.IsTree) (clean : holdsNul (Path.ofSpot place.spot).text = false)
    (agree : files.SameDirectories other)
    (bookDirs : ∀ given left text, readWords command.vocabulary true rest = .ok (given, left) →
      lastBookDir? given = some text → files.leadsToFile place text = other.leadsToFile place text)
    (same : opening.SameButWorkbench files other place twin) (emissions : List Emission)
    (events : List Event) :
    ∃ (result : Except Failure Int) (last : WorkingDirectory) (written : List Emission) (tools : List String),
      Action.perform (status surroundings opening.context words) ⟨files, place, emissions, events⟩ =
        (result, ⟨files, last, emissions ++ written, events ++ tools.map Event.lookup⟩) ∧
      Action.perform (status surroundings twin.context words) ⟨other, place, emissions, events⟩ =
        (result, ⟨other, last, emissions ++ written, events ++ tools.map Event.lookup⟩) ∧
      ((Path.ofSpot place.spot).text.utf8ByteSize < FileSystem.pathLimit → last = place) := by
  obtain ⟨result, ending, last, written, tools, ended, stays, one, two⟩ :=
    (lookAlike_perform agree (tree.standsPlainly clean) surroundings asks tells bookDirs same).ends
      emissions events
  have back (short : (Path.ofSpot place.spot).text.utf8ByteSize < FileSystem.pathLimit) : last = place :=
    stays.resolve_right fun strands => Nat.not_le_of_lt short strands.1
  rw [perform_status_eq, perform_status_eq, one, two]
  have equal : ending = result := by
    cases ended with
    | ok equal => rw [equal]
    | error failure => rfl
  subst equal
  refine ⟨exitOf ending, last, written ++ farewell ending, tools, ?_, ?_, back⟩
  · simp only [List.append_assoc]
  · simp only [List.append_assoc]

theorem findAlike_rehearsal {files other : FileSystem} {rehearsal twin : Rehearsal}
    (same : rehearsal.installed = twin.installed) : rehearsal.workbench.FindAlike files other twin.workbench := by
  intro place name
  refine (Action.lookAlike_noteLookup name).bind fun _ _ _ => ?_
  rw [same]
  exact Action.lookAlike_pure rfl

theorem findAlike_system {files other : FileSystem} {exported exports : List (String × String)}
    {supply source : Delivery.Supply}
    (agree : ∀ place name, Process.which files place (Workbench.searchPath exported) name =
      Process.which other place (Workbench.searchPath exports) name) :
    (Workbench.system exported supply).FindAlike files other (Workbench.system exports source) := by
  intro place name
  refine Action.lookAlike_get fun emissions events => ?_
  rw [agree]
  exact (Action.lookAlike_emit _).bind fun _ _ _ => Action.lookAlike_pure rfl

/-! ### Two worlds -/

/-- A project with a book and a note, which says something else in each world. -/
def notedFiles (text : String) : FileSystem :=
  ((FileSystem.bare ["project"]).addDirectory ["project", "book"] FileSystem.directoryMode).addFile
    ["project", "notes"] ⟨Text.encodeUtf8 text.toList, FileSystem.fileMode⟩

theorem sameDirectories_notedFiles (first second : String) :
    (notedFiles first).SameDirectories (notedFiles second) := by
  refine FileSystem.SameDirectories.of_entries rfl fun number => ?_
  simp only [FileSystem.content?, notedFiles, FileSystem.addFile, FileSystem.putContent, Pairs.get?_put]
  split <;> rfl

/-- A world in which a command fails and nothing can be fetched. -/
def failingWorkbench : Workbench :=
  Rehearsal.workbench ⟨[], [("./ci/build-highlight-js", 1)], none, some "offline", []⟩

/-- A world in which the user stops that command, and a release could be fetched. -/
def stoppedWorkbench : Workbench :=
  Rehearsal.workbench ⟨[], [], some "./ci/build-highlight-js", none, ["mdbook"]⟩

theorem status_only_tells_in_two_worlds :
    ∃ (result : Except Failure Int) (last : WorkingDirectory) (written : List Emission) (tools : List String),
      Action.perform (status ⟨80, 0, 0⟩ (openContext failingWorkbench) ["build", "--dry-run"])
        ⟨notedFiles "here", ⟨["project"], 5⟩, [], []⟩ =
        (result, ⟨notedFiles "here", last, written, tools.map Event.lookup⟩) ∧
      Action.perform (status ⟨80, 0, 0⟩ (openContext stoppedWorkbench) ["build", "--dry-run"])
        ⟨notedFiles "there", ⟨["project"], 5⟩, [], []⟩ =
        (result, ⟨notedFiles "there", last, written, tools.map Event.lookup⟩) ∧
      last = ⟨["project"], 5⟩ := by
  have read : readWords Command.build.vocabulary true ["--dry-run"] = .ok ([.dryRun], []) := rfl
  have tells : Command.build.OnlyTells (Opening.here failingWorkbench).isDry ["--dry-run"] :=
    .inr ⟨List.mem_singleton_self _, fun given again _ => by
      rw [read] at again
      cases again
      exact List.mem_singleton_self _⟩
  have tree : (notedFiles "here").IsTree := FileSystem.IsTree.of_entries (by decide +kernel)
  have worlds : Opening.SameButWorkbench (notedFiles "here") (notedFiles "there") ⟨["project"], 5⟩
      (.here failingWorkbench) (.here stoppedWorkbench) :=
    .here (findAlike_rehearsal rfl) fun emissions events => by with_unfolding_all rfl
  obtain ⟨result, last, written, tools, one, two, back⟩ := status_only_tells ⟨80, 0, 0⟩
    (askFor_name .build ["--dry-run"]) tells tree (by decide +kernel) (sameDirectories_notedFiles _ _)
    (fun given left text again named => by
      rw [read] at again
      cases again
      cases named) worlds [] []
  exact ⟨result, last, written, tools, one, two, back (by decide +kernel)⟩

/-! ### Words that do not ask for a dry run, and no way back -/

theorem cwd_status_of_long {surroundings : Surroundings} (elapses : surroundings.Elapses) {context : Context}
    {machine : Machine} {inside : WorkingDirectory} (alive : machine.files.isAlive machine.cwd = true)
    (there : machine.HasDirectory context.bookDir)
    (entered : machine.files.enter machine.cwd context.bookDir.text = .ok inside)
    (long : FileSystem.pathLimit ≤ (Path.ofSpot machine.cwd.spot).text.utf8ByteSize)
    (stays : ∀ emissions, (Action.perform (Build.runSteps context (Path.ofSpot inside.spot))
      { machine with cwd := inside, emissions := emissions }).2.cwd = inside) :
    (Action.perform (status surroundings (pure context) ["build"]) machine).2.cwd = inside := by
  have inDirectory := stays (machine.emissions ++
    [Action.arrival ⟨Path.ofSpot machine.cwd.spot, Path.ofSpot inside.spot⟩])
  rcases ended : Action.perform (Build.runSteps context (Path.ofSpot inside.spot))
    { machine with
      cwd := inside
      emissions := machine.emissions ++
        [Action.arrival ⟨Path.ofSpot machine.cwd.spot, Path.ofSpot inside.spot⟩] } with ⟨result, left⟩
  rw [ended] at inDirectory
  have stranded : Action.perform (Build.run context) machine =
      (.error (Action.strandedFailure (Path.ofSpot machine.cwd.spot)), left) := by
    rw [Build.run, Action.perform_bind,
      Action.perform_inDirectory_of_long machine alive there.clean entered ended long]
  have heeded : Action.perform (heed .build surroundings []) machine = (.ok ([], none), machine) := rfl
  have ran : Action.perform (Build.run (contextOf (contextFor context none) (([] : List Given).contains .dryRun)))
      (announcedAs (([] : List Given).contains .dryRun) machine) = _ := stranded
  have reported := perform_status_build surroundings (askFor_name .build []) heeded (fun _ => elapses) there
  rw [ran] at reported
  exact (congrArg (·.2.cwd) reported).trans inDirectory

/-- A project whose book directory is named like an option. -/
def atOptionBook : Machine where
  files := (FileSystem.bare ["project"]).addDirectory ["project", "--dry-run"] FileSystem.directoryMode
  cwd := ⟨["project"], 5⟩
  emissions := []
  events := []

def longName : String := String.ofList (List.replicate FileSystem.longestName 'd')

theorem utf8ByteSize_replicate (c : Char) (count : Nat) :
    (String.ofList (List.replicate count c)).utf8ByteSize = count * c.utf8Size := by
  induction count with
  | zero => simp
  | succ count ih =>
    rw [List.replicate_succ', String.ofList_append, String.utf8ByteSize_append, ih, Nat.succ_mul]
    simp

/-- A directory so deep that its path cannot be followed. -/
def deepPlace : WorkingDirectory := ⟨List.replicate 16 longName, 16⟩

def rootBook : WorkingDirectory := ⟨["book"], 17⟩

/-- A process that stands deep down, and the book. -/
def atDeepPlace : Machine where
  files :=
    { entries := ([], .directory 0 FileSystem.directoryMode) ::
        (rootBook.spot, .directory rootBook.serial FileSystem.directoryMode) ::
        (List.range 16).reverse.map fun depth =>
          (List.replicate (depth + 1) longName, .directory (depth + 1) FileSystem.directoryMode)
      contents := []
      next := 18 }
  cwd := deepPlace
  emissions := []
  events := []

theorem utf8ByteSize_intercalate_replicate (name : String) (count : Nat) :
    ("/".intercalate (List.replicate (count + 1) name)).utf8ByteSize =
      (count + 1) * name.utf8ByteSize + count := by
  induction count with
  | zero => simp
  | succ count ih =>
    rw [List.replicate_succ] at ih ⊢
    rw [List.replicate_succ, String.intercalate_cons_cons, String.utf8ByteSize_append,
      String.utf8ByteSize_append, ih]
    have slash : "/".utf8ByteSize = 1 := rfl
    rw [slash, Nat.succ_mul (count + 1)]
    omega

theorem deepPlace_long : FileSystem.pathLimit ≤ (Path.ofSpot deepPlace.spot).text.utf8ByteSize := by
  have size : longName.utf8ByteSize = 255 := utf8ByteSize_replicate 'd' 255
  have valid : ∀ name ∈ deepPlace.spot, isName name = true := by
    intro name member
    have notDot : longName ≠ "." := fun same => absurd (congrArg String.utf8ByteSize same ▸ size) (by decide)
    have some : longName ≠ "" := fun same => absurd (congrArg String.utf8ByteSize same ▸ size) (by decide)
    rw [List.eq_of_mem_replicate member, isName]
    simp [some, notDot]
    simp [longName]
  have slash : "/".utf8ByteSize = 1 := rfl
  rw [Path.text_ofSpot valid, FileSystem.spotText, deepPlace, String.utf8ByteSize_append,
    utf8ByteSize_intercalate_replicate, size, slash]
  decide

theorem atDeepPlace_alive : atDeepPlace.files.isAlive deepPlace = true := by
  have entries : ∃ rest, atDeepPlace.files.entries =
      ([], .directory 0 FileSystem.directoryMode) :: (["book"], .directory 17 FileSystem.directoryMode) ::
        (deepPlace.spot, .directory 16 FileSystem.directoryMode) :: rest := ⟨_, rfl⟩
  obtain ⟨rest, entries⟩ := entries
  have notRoot : [] ≠ deepPlace.spot := by
    intro same
    exact absurd (congrArg List.length same) (by decide)
  have notBook : ["book"] ≠ deepPlace.spot := by
    intro same
    exact absurd (congrArg List.length same) (by decide)
  rw [FileSystem.isAlive, FileSystem.entryAt?, entries, Pairs.get?, if_neg notRoot, Pairs.get?,
    if_neg notBook, Pairs.get?, if_pos rfl]
  rfl

def rootBookContext : Context where
  workbench := (Rehearsal.workbench ⟨[], [], none, none, []⟩).announcing
  settings := Settings.default.withBookDir (Path.parse "/book")
  cwd := Path.parse "/"
  dryRun := true

/-- A word that is like the option may be the name of the book directory, and then commands are run; and
where the path of a directory is too long, a build does not come back to it. -/
theorem status_not_always_only_tells :
    (¬ ∀ surroundings workbench rest machine words directory, "--dry-run" ∈ rest → machine.events = [] →
      .command words directory ∉
        (Action.perform (status surroundings (openContext workbench) ("build" :: rest)) machine).2.events) ∧
    ¬ ∀ surroundings (context : Context) machine, context.dryRun = true →
      (∃ behind, context.workbench = Workbench.announcing behind) →
      (Action.perform (status surroundings (pure context) ["build"]) machine).2.cwd = machine.cwd := by
  refine ⟨fun always => ?_, fun always => ?_⟩
  · exact always ⟨80, 0, 0⟩ (Rehearsal.workbench ⟨[], [], none, none, []⟩)
      ["--no-summary", "--book-dir", "--dry-run"] atOptionBook Settings.defaultPrebuild
      (Path.parse "/project/--dry-run") (by decide) rfl (by decide +kernel)
  · have finds : Workbench.FindAlike atDeepPlace.files atDeepPlace.files rootBookContext.workbench
        rootBookContext.workbench := findAlike_rehearsal rfl
    have same : rootBookContext.SameButWorkbench atDeepPlace.files atDeepPlace.files rootBookContext :=
      ⟨rfl, rfl, rfl, finds, fun _ => ⟨_, rfl⟩, fun _ => ⟨_, rfl⟩⟩
    have stays (emissions : List Emission) : (Action.perform (Build.runSteps rootBookContext
        (Path.ofSpot rootBook.spot)) ⟨atDeepPlace.files, rootBook, emissions, atDeepPlace.events⟩).2.cwd =
        rootBook := by
      obtain ⟨_, _, last, _, _, _, stays, steps, _⟩ :=
        (Build.lookAlike_runSteps same rfl (Path.ofSpot rootBook.spot)).ends emissions []
      exact (congrArg (·.2.cwd) steps).trans (stays.elim id fun never => never.1.elim)
    have bookDir : rootBookContext.bookDir.text = "/book" := by
      change (Path.parse "/" / Path.parse "/book").text = _
      decide +kernel
    have moved : (Action.perform (status ⟨80, 0, 0⟩ (pure rootBookContext) ["build"]) atDeepPlace).2.cwd =
        rootBook := by
      refine cwd_status_of_long ⟨_, rfl⟩ atDeepPlace_alive ⟨?_, ?_⟩ ?_ deepPlace_long stays
      · rw [bookDir]
        decide +kernel
      · rw [bookDir]
        with_unfolding_all rfl
      · rw [bookDir]
        with_unfolding_all rfl
    rw [always _ _ atDeepPlace rfl ⟨_, rfl⟩] at moved
    have serials : 16 = 17 := congrArg WorkingDirectory.serial moved
    cases serials

end CommandLine

end Bookbinder
