import Bookbinder.Proofs.CommandLine.Building

/-!
The option for the book directory. Main statement: to name a directory with the option comes to the same as
to have it in the settings. The status, all that is shown and asked for, the files and the directory in which
the program ends are the same, however the directory is spelled and whether or not it is there.
-/

set_option autoImplicit false

namespace Bookbinder.CommandLine

variable {command : Command} {text : String} {before after spelled : List String}

/-- The two ways to write the option: with its value as the next word, or in the same word. -/
inductive SpellsBookDir (text : String) : List String → Prop where
  | apart : SpellsBookDir text ["--book-dir", text]
  | joined : SpellsBookDir text ["--book-dir=" ++ text]

/-- Commands that work in a book directory. -/
def Command.TakesBookDir (command : Command) : Prop := command = .build ∨ command = .which

/-- A word after which options are read as before, and which is not itself about the book directory. -/
def LeavesBookDir (word : String) : Prop := word ≠ "--" ∧ (cutWord word).1 ≠ "--book-dir"

/-! ### Reading the option -/

theorem get?_bookDirOption (takes : command.TakesBookDir) :
    Pairs.get? command.vocabulary.long "--book-dir" = some (.value .bookDir) := by
  rcases takes with rfl | rfl <;> rfl

theorem eq_of_get?_value {spelling : String} {ofText : String → Given}
    (found : Pairs.get? command.vocabulary.long spelling = some (.value ofText)) :
    spelling = "--book-dir" := by
  -- the other options of a vocabulary are flags
  cases command <;> simp only [Command.vocabulary, Pairs.get?, bookDirOption, helpOption] at found <;>
    grind

theorem lastBookDir?_append (earlier later : List Given) :
    lastBookDir? (earlier ++ later) = (lastBookDir? later).or (lastBookDir? earlier) := by
  simp [lastBookDir?, List.findSome?_append]

theorem lastBookDir?_of_get?_flag {spelling : String} {given : Given}
    (found : Pairs.get? command.vocabulary.long spelling = some (.flag given)) :
    lastBookDir? [given] = none := by
  cases command <;> simp only [Command.vocabulary, Pairs.get?, bookDirOption, helpOption] at found <;>
    grind [lastBookDir?]

theorem lastBookDir?_of_readLetters {letters : List Char} {given : List Given}
    (read : readLetters command.vocabulary letters = .ok given) : lastBookDir? given = none := by
  -- the only letter asks for help
  have short : command.vocabulary.short = [('h', .help)] := by cases command <;> rfl
  induction letters generalizing given with
  | nil =>
    cases read
    rfl
  | cons letter letters ih =>
    rw [readLetters, List.mapM_cons] at read
    split at read
    · next found =>
      cases later : readLetters command.vocabulary letters with
      | error fault =>
        rw [readLetters] at later
        rw [later] at read
        cases read
      | ok others =>
        have rest := ih later
        rw [readLetters] at later
        rw [later] at read
        cases read
        have help : lastBookDir? [‹Given›] = none := by
          simp only [short, Pairs.get?] at found
          split at found <;> cases found
          rfl
        rw [← List.singleton_append, lastBookDir?_append, rest, help]
        rfl
    · cases read

theorem lastBookDir?_of_readWord {word : String} {given : List Given} (leaves : LeavesBookDir word)
    (read : readWord command.vocabulary word = .ok (.inl given)) : lastBookDir? given = none := by
  rcases readWord_cases read with ⟨_, found, flag⟩ | ⟨_, found, _⟩ | ⟨_, read, letters⟩
  · cases flag
    exact lastBookDir?_of_get?_flag found
  · exact absurd (eq_of_get?_value found) leaves.2
  · cases letters
    exact lastBookDir?_of_readLetters read

theorem readWord_ne_value {word : String} {ofText : String → Given} (leaves : LeavesBookDir word) :
    readWord command.vocabulary word ≠ .ok (.inr ofText) := by
  intro read
  -- only the option itself takes the next word for its value
  rcases readWord_cases read with ⟨_, _, flag⟩ | ⟨_, found, _⟩ | ⟨_, _, letters⟩
  · cases flag
  · exact leaves.2 (eq_of_get?_value found)
  · cases letters

theorem readWords_spelled (takes : command.TakesBookDir) (spells : SpellsBookDir text spelled)
    (after : List String) :
    readWords command.vocabulary true (spelled ++ after) =
      (readWords command.vocabulary true after).map fun read => (.bookDir text :: read.1, read.2) := by
  have known := get?_bookDirOption takes
  have mapped (result : Except UsageFault (List Given × List String)) :
      (result >>= fun read => pure (.bookDir text :: read.1, read.2)) =
        result.map fun read => (.bookDir text :: read.1, read.2) := by
    cases result <;> rfl
  cases spells with
  | apart =>
    have taken : readWord command.vocabulary "--book-dir" = .ok (.inr .bookDir) := by
      have cut : cutWord "--book-dir" = ("--book-dir", none) := by decide
      simp only [readWord, cut, known]
    have option : isOptionWord "--book-dir" = true := by decide
    simp only [List.cons_append, List.nil_append, readWords, option, taken]
    exact mapped _
  | joined =>
    have taken : readWord command.vocabulary ("--book-dir=" ++ text) = .ok (.inl [.bookDir text]) := by
      have cut : cutWord ("--book-dir=" ++ text) = ("--book-dir", some text) := by
        simp [cutWord, Text.cutAt]
      simp only [readWord, cut, known]
    have option : isOptionWord ("--book-dir=" ++ text) = true := by simp [isOptionWord]
    have more : "--book-dir=" ++ text ≠ "--" := by
      intro same
      have := congrArg String.toList same
      simp at this
    simp only [List.cons_append, List.nil_append, readWords, more, option, taken, if_false, if_true]
    exact mapped _

/-- Two readings of words: the first one has one book directory more, which is not the last one if there are
others. -/
inductive DifferInBookDir (text : String) :
    Except UsageFault (List Given × List String) → Except UsageFault (List Given × List String) → Prop where
  | refused (fault : UsageFault) : DifferInBookDir text (.error fault) (.error fault)
  | read (earlier later : List Given) (left : List String) (first : lastBookDir? earlier = none) :
      DifferInBookDir text (.ok (earlier ++ .bookDir text :: later, left)) (.ok (earlier ++ later, left))

theorem differInBookDir_readWords (takes : command.TakesBookDir) (spells : SpellsBookDir text spelled)
    (leave : ∀ word ∈ before, LeavesBookDir word) (after : List String) :
    DifferInBookDir text (readWords command.vocabulary true (before ++ (spelled ++ after)))
      (readWords command.vocabulary true (before ++ after)) := by
  -- words before the option are read alike in both, and none of them takes the option for its value
  induction before with
  | nil =>
    simp only [List.nil_append]
    rw [readWords_spelled takes spells]
    cases readWords command.vocabulary true after with
    | error fault => exact .refused fault
    | ok read => exact .read [] read.1 read.2 rfl
  | cons word before ih =>
    have leaves := leave word List.mem_cons_self
    have later := ih fun other among => leave other (List.mem_cons_of_mem _ among)
    simp only [List.cons_append, readWords, leaves.1, if_false]
    generalize readWords command.vocabulary true (before ++ (spelled ++ after)) = one at later ⊢
    generalize readWords command.vocabulary true (before ++ after) = two at later ⊢
    split
    · split
      · exact .refused _
      · next given taken =>
        cases later with
        | refused fault => exact .refused fault
        | read earlier later left first =>
          have unnamed := lastBookDir?_of_readWord leaves taken
          have none : lastBookDir? (given ++ earlier) = none := by
            rw [lastBookDir?_append, first, unnamed]
            rfl
          have joined := @DifferInBookDir.read text (given ++ earlier) later left none
          rw [List.append_assoc, List.append_assoc] at joined
          exact joined
      · next taken => exact absurd taken (readWord_ne_value leaves)
    · cases later with
      | refused fault => exact .refused fault
      | read earlier later left first => exact .read earlier later (word :: left) first

/-! ### What the options come to -/

theorem find?_isRequest_insert (earlier later : List Given) (text : String) :
    (earlier ++ .bookDir text :: later).find? isRequest = (earlier ++ later).find? isRequest := by
  simp [List.find?_append, isRequest]

theorem wantsSummary_insert (earlier later : List Given) (text : String) :
    wantsSummary (earlier ++ .bookDir text :: later) = wantsSummary (earlier ++ later) := by
  simp [wantsSummary, List.findSome?_append]

theorem contains_dryRun_insert (earlier later : List Given) (text : String) :
    (earlier ++ .bookDir text :: later).contains .dryRun = (earlier ++ later).contains .dryRun := by
  simp

theorem reject_bind {α β : Type} (usage path : String) (fault : UsageFault) (next : α → Action β) :
    reject usage path fault >>= next = reject usage path fault := by
  unfold reject
  cases fault.showsUsage <;> rfl

theorem answerRequests_bind_of_some {α : Type} {given : List Given} {request : Given}
    (asked : given.find? isRequest = some request) (surroundings : Surroundings) (help : Help)
    (next other : Unit → Action α) :
    answerRequests surroundings help given >>= next = answerRequests surroundings help given >>= other := by
  have found : (given.find? fun option => option == .help || option == .version) = some request := asked
  unfold answerRequests
  rw [found]
  -- an answer ends the program, whatever comes after it
  cases request <;> rfl

theorem act_insert (takes : command.TakesBookDir) (surroundings : Surroundings) (context : Context)
    (earlier later : List Given) (text : String) :
    act command surroundings context (earlier ++ .bookDir text :: later) =
      act command surroundings context (earlier ++ later) := by
  rcases takes with rfl | rfl
  · simp only [act, runBuild_eq, contains_dryRun_insert, wantsSummary_insert]
  · rfl

theorem heed_of_refused {words : List String} {fault : UsageFault}
    (refused : readWords command.vocabulary true words = .error fault) (surroundings : Surroundings) :
    heed command surroundings words =
      reject command.help.usage (programName ++ " " ++ command.name) fault := by
  unfold heed accept
  rw [refused]
  exact reject_bind ..

theorem heed_of_read {words left : List String} {given : List Given}
    (read : readWords command.vocabulary true words = .ok (given, left)) (surroundings : Surroundings) :
    heed command surroundings words =
      answerRequests surroundings command.help given >>= fun _ =>
        bookDir? command given >>= fun bookDir =>
          if left.isEmpty then pure (given, bookDir)
          else reject command.help.usage (programName ++ " " ++ command.name) (.extraWords left) := by
  unfold heed accept
  rw [read]
  simp only [pure_bind]
  refine bind_congr fun _ => bind_congr fun bookDir => ?_
  cases left with
  | nil => rfl
  | cons word others => exact reject_bind command.help.usage _ _ _

theorem bind_of_left {α β : Type} (usage path : String) (left : List String) (value : α) (next : α → Action β) :
    ((if left.isEmpty then pure value else reject usage path (.extraWords left)) >>= next) =
      if left.isEmpty then next value else reject usage path (.extraWords left) := by
  cases left with
  | nil => rfl
  | cons word others =>
    simp only [List.isEmpty_cons, Bool.false_eq_true, if_false]
    exact reject_bind ..

theorem bookDir?_cases (command : Command) {given : List Given} (named : lastBookDir? given = some text)
    (machine : Machine) :
    Action.perform (bookDir? command given) machine = (.ok (some (Path.parse text)), machine) ∨
      ∃ failure last, Action.perform (bookDir? command given) machine = (.error failure, last) := by
  cases clean : holdsNul text with
  | true =>
    refine .inr ⟨.embeddedNul, machine, ?_⟩
    simp only [bookDir?, named, clean]
    rfl
  | false =>
    rw [perform_bookDir?_of_named command named clean]
    split
    · exact .inr ⟨_, _, rfl⟩
    · exact .inl rfl

theorem lastBookDir?_insert (earlier later : List Given) (text : String) :
    lastBookDir? (earlier ++ .bookDir text :: later) = some ((lastBookDir? later).getD text) := by
  have single : lastBookDir? [.bookDir text] = some text := rfl
  rw [← List.singleton_append, lastBookDir?_append, lastBookDir?_append, single]
  cases lastBookDir? later <;> rfl

/-- A directory beside those that are named: it is the one that counts, or one that is named later is. -/
theorem perform_bookDir?_insert {α : Type} (command : Command) {earlier later : List Given}
    (first : lastBookDir? earlier = none) {machine : Machine} (clean : holdsNul text = false)
    (free : machine.files.leadsToFile machine.cwd text = false) {next other : Option Path → Action α}
    (counts : next (some (Path.parse text)) = other none)
    (same : ∀ path, next (some path) = other (some path)) :
    Action.perform (bookDir? command (earlier ++ .bookDir text :: later) >>= next) machine =
      Action.perform (bookDir? command (earlier ++ later) >>= other) machine := by
  have inserted := lastBookDir?_insert earlier later text
  have without := lastBookDir?_append earlier later
  rw [first, Option.or_none] at without
  cases last : lastBookDir? later with
  | none =>
    simp only [last, Option.getD_none] at inserted without
    rw [bookDir?_of_none command without, pure_bind, Action.perform_bind,
      perform_bookDir?_of_named command inserted clean, free]
    exact congrArg (Action.perform · machine) counts
  | some named =>
    simp only [last, Option.getD_some] at inserted without
    rw [bookDir?_congr command (inserted.trans without.symm), Action.perform_bind, Action.perform_bind]
    -- whether that one may be taken does not depend on the one before it
    rcases bookDir?_cases command without machine with taken | ⟨failure, after, refused⟩
    · rw [taken]
      exact congrArg (Action.perform · machine) (same _)
    · rw [refused]

theorem perform_run_spelled (takes : command.TakesBookDir) (spells : SpellsBookDir text spelled)
    (leave : ∀ word ∈ before, LeavesBookDir word) (after : List String) (surroundings : Surroundings)
    (context : Context) {machine : Machine} (clean : holdsNul text = false)
    (free : machine.files.leadsToFile machine.cwd text = false) :
    Action.perform (command.run surroundings context (before ++ (spelled ++ after))) machine =
      Action.perform (command.run surroundings (context.withBookDir (Path.parse text)) (before ++ after))
        machine := by
  have differ := differInBookDir_readWords takes spells leave after
  generalize read : readWords command.vocabulary true (before ++ (spelled ++ after)) = inserted at differ
  generalize twin : readWords command.vocabulary true (before ++ after) = without at differ
  cases differ with
  | refused fault => rw [run_eq, run_eq, heed_of_refused read, heed_of_refused twin, reject_bind, reject_bind]
  | read earlier later left first =>
    rw [run_eq, run_eq, heed_of_read read, heed_of_read twin,
      answerRequests_congr (find?_isRequest_insert earlier later text)]
    cases asked : (earlier ++ later).find? isRequest with
    | some request =>
      simp only [bind_assoc]
      exact congrArg (Action.perform · machine) (answerRequests_bind_of_some asked ..)
    | none =>
      simp only [answerRequests_of_none asked, pure_bind, bind_assoc, bind_of_left, act_insert takes]
      exact perform_bookDir?_insert command first clean free rfl fun _ => rfl

/-! ### From the option to the settings -/

/-- An opening after which the settings have another book directory, and are the same in all else. -/
def Opening.contextIn (opening : Opening) (bookDir : Path) : Action Context := do
  let context ← opening.context
  return { context with settings := { context.settings with bookDir := bookDir } }

theorem perform_opening_bind {α : Type} (opening : Opening) {next other : Context → Action α}
    {machine : Machine}
    (same : ∀ context, Action.perform (next context) machine = Action.perform (other context) machine) :
    Action.perform (opening.context >>= next) machine = Action.perform (opening.context >>= other) machine := by
  cases opening with
  | given context => exact same context
  | here workbench =>
    simp only [Opening.context, Action.perform_bind]
    rcases opened : Action.perform (openContext workbench) machine with ⟨result, last⟩
    cases result with
    | error failure => rfl
    | ok context =>
      -- the machine is the same once the context is opened
      obtain ⟨rfl, _⟩ := openContext_cases opened
      exact same context

/-- A command with the option does in all respects what it does without it in the context whose settings have
that book directory, unless the option names a file. Other options may stand before and after it. -/
theorem status_bookDir {words others : List String} (surroundings : Surroundings) (opening : Opening)
    (takes : command.TakesBookDir) (spells : SpellsBookDir text spelled)
    (leave : ∀ word ∈ before, LeavesBookDir word)
    (asks : AskFor words command (before ++ (spelled ++ after)))
    (without : AskFor others command (before ++ after)) {machine : Machine} (clean : holdsNul text = false)
    (free : machine.files.leadsToFile machine.cwd text = false) :
    Action.perform (status surroundings opening.context words) machine =
      Action.perform (status surroundings (opening.contextIn (Path.parse text)) others) machine := by
  have same : Action.perform (CommandLine.perform surroundings opening.context words) machine =
      Action.perform (CommandLine.perform surroundings (opening.contextIn (Path.parse text)) others)
        machine := by
    rw [perform_of_askFor asks, perform_of_askFor without, Opening.contextIn, bind_assoc]
    exact perform_opening_bind opening fun context =>
      perform_run_spelled takes spells leave after surroundings context clean free
  rw [perform_status_eq, perform_status_eq, same]

theorem status_bookDir_beside :
    Action.perform (status ⟨80, 0, 0⟩ (Opening.here Context.elsewhere.workbench).context
        ["build", "--dry-run", "--book-dir", "../tmp//", "--no-summary"]) Machine.atProject =
      Action.perform (status ⟨80, 0, 0⟩
          ((Opening.here Context.elsewhere.workbench).contextIn (Path.parse "../tmp//"))
        ["build", "--dry-run", "--no-summary"]) Machine.atProject ∧
    (Action.perform (status ⟨80, 0, 0⟩ (Opening.here Context.elsewhere.workbench).context
        ["build", "--dry-run", "--book-dir", "../tmp//", "--no-summary"]) Machine.atProject).1.toOption = some 0 := by
  have leave : ∀ word ∈ ["--dry-run"], LeavesBookDir word := by
    intro word among
    obtain rfl := List.mem_singleton.1 among
    exact ⟨by decide, by decide⟩
  have asks : AskFor ["build", "--dry-run", "--book-dir", "../tmp//", "--no-summary"] .build
      (["--dry-run"] ++ (["--book-dir", "../tmp//"] ++ ["--no-summary"])) := askFor_name .build _
  have without : AskFor ["build", "--dry-run", "--no-summary"] .build (["--dry-run"] ++ ["--no-summary"]) :=
    askFor_name .build _
  exact ⟨status_bookDir ⟨80, 0, 0⟩ _ (.inl rfl) .apart leave asks without (by decide) (by decide +kernel),
    by decide +kernel⟩

end Bookbinder.CommandLine
