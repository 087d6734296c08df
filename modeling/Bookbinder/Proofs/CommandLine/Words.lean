import Bookbinder.CommandLine.Run
import Bookbinder.Proofs.Machine.Visits

/-!
From words to a command. The context is made once the command is known, and before the words after the
command's name are looked at.
-/

set_option autoImplicit false

namespace Bookbinder.CommandLine

/-- A request that is answered before anything is done. -/
def isRequest (given : Given) : Bool := given == .help || given == .version

/-- Words ask for a command, and for nothing that is answered before it. -/
def AskFor (words : List String) (command : Command) (rest : List String) : Prop :=
  ∃ given, readWords vocabulary false words = .ok (given, command.name :: rest) ∧
    given.find? isRequest = none

theorem askFor_name (command : Command) (rest : List String) :
    AskFor (command.name :: rest) command rest := by
  refine ⟨[], ?_, rfl⟩
  cases command <;> rfl

theorem AskFor.isEmpty {words rest : List String} {command : Command}
    (asks : AskFor words command rest) : words.isEmpty = false := by
  obtain ⟨given, read, _⟩ := asks
  cases words with
  | nil => cases read
  | cons word words => rfl

theorem answerRequests_of_none {given : List Given} (none : given.find? isRequest = none)
    (surroundings : Surroundings) (help : Help) : answerRequests surroundings help given = pure () := by
  have found : (given.find? fun option => option == .help || option == .version) = Option.none := none
  rw [answerRequests, found]

theorem answerRequests_congr {given twin : List Given} (same : given.find? isRequest = twin.find? isRequest)
    (surroundings : Surroundings) (help : Help) :
    answerRequests surroundings help given = answerRequests surroundings help twin := by
  have found : (given.find? fun option => option == .help || option == .version) =
      twin.find? fun option => option == .help || option == .version := same
  unfold answerRequests
  rw [found]

theorem bookDir?_of_none (command : Command) {given : List Given} (unnamed : lastBookDir? given = none) :
    bookDir? command given = pure none := by
  rw [bookDir?, unnamed]

theorem bookDir?_congr (command : Command) {given twin : List Given}
    (same : lastBookDir? given = lastBookDir? twin) : bookDir? command given = bookDir? command twin := by
  rw [bookDir?, bookDir?, same]

/-- What a word can be read as: an option, one that has or takes a value, or letters. -/
theorem readWord_cases {vocabulary : Vocabulary} {word : String} {read : List Given ⊕ (String → Given)}
    (taken : readWord vocabulary word = .ok read) :
    (∃ given, Pairs.get? vocabulary.long (cutWord word).1 = some (.flag given) ∧ read = .inl [given]) ∨
      (∃ ofText, Pairs.get? vocabulary.long (cutWord word).1 = some (.value ofText) ∧
        (read = .inr ofText ∨ ∃ text, read = .inl [ofText text])) ∨
      ∃ given, readLetters vocabulary (word.toList.drop 1) = .ok given ∧ read = .inl given := by
  simp only [readWord] at taken
  split at taken
  · next found _ =>
    cases taken
    exact .inl ⟨_, found, rfl⟩
  · cases taken
  · next found _ =>
    cases taken
    exact .inr (.inl ⟨_, found, .inl rfl⟩)
  · next found _ =>
    cases taken
    exact .inr (.inl ⟨_, found, .inr ⟨_, rfl⟩⟩)
  · split at taken
    · cases taken
    · cases letters : readLetters vocabulary (word.toList.drop 1) with
      | error fault =>
        rw [letters] at taken
        cases taken
      | ok given =>
        rw [letters] at taken
        cases taken
        exact .inr (.inr ⟨given, rfl, rfl⟩)

/-- What words that ask for a command come to: the context is made, and the command runs in it. -/
theorem perform_of_askFor {words rest : List String} {command : Command}
    (asks : AskFor words command rest) (surroundings : Surroundings) (makeContext : Action Context) :
    CommandLine.perform surroundings makeContext words =
      makeContext >>= fun context => command.run surroundings context rest := by
  have some := asks.isEmpty
  obtain ⟨given, read, none⟩ := asks
  have known := Command.ofName?_name command
  unfold CommandLine.perform readProgramWords accept
  rw [read]
  simp only [some, Bool.false_eq_true, if_false, pure_bind, answerRequests_of_none none, known]

/-- The status follows from how the command ends. -/
theorem perform_status {words rest : List String} {command : Command}
    (asks : AskFor words command rest) (surroundings : Surroundings) (makeContext : Action Context)
    (machine : Machine) :
    Action.perform (status surroundings makeContext words) machine =
      match Action.perform (makeContext >>= fun context => command.run surroundings context rest) machine with
      | (.ok _, after) => (.ok 0, after)
      | (.error (.exit status), after) => (.ok status, after)
      | (.error failure, after) =>
        if isAbort failure then Action.perform (do Action.tellLine "\nAborted!"; return 1) after
        else (.error failure, after) := by
  rw [status, perform_of_askFor asks, Action.perform_bind, Action.perform_attempt]
  generalize Action.perform (makeContext >>= fun context => command.run surroundings context rest) machine =
    outcome
  rcases outcome with ⟨result, after⟩
  cases result with
  | ok done => rfl
  | error failure =>
    cases failure with
    | exit status => rfl
    | _ =>
      simp only
      split <;> rfl

/-- A context that is opened is that of the current directory and of the settings there, and to open it
changes nothing. -/
theorem openContext_cases {machine after : Machine} {context : Context} {workbench : Workbench}
    (opened : Action.perform (openContext workbench) machine = (.ok context, after)) :
    after = machine ∧ machine.files.isAlive machine.cwd = true ∧ context.workbench = workbench ∧
      context.cwd = Path.ofSpot machine.cwd.spot ∧ context.dryRun = false ∧
      (Action.perform (Action.loadSettings context.cwd) machine).1 = .ok context.settings := by
  cases alive : machine.files.isAlive machine.cwd with
  | false =>
    have gone := Action.perform_currentDirectory_of_gone alive
    simp only [openContext, Action.perform_bind, Action.perform_attempt, Context.create, gone] at opened
    cases opened
  | true =>
    have here := Action.perform_currentDirectory alive
    have kept := Action.perform_loadSettings_snd (Path.ofSpot machine.cwd.spot) machine
    simp only [openContext, Action.perform_bind, Action.perform_attempt, Context.create, here] at opened
    generalize loaded : Action.perform (Action.loadSettings (Path.ofSpot machine.cwd.spot)) machine = outcome
      at opened kept
    rcases outcome with ⟨result, last⟩
    cases kept
    cases result with
    | ok settings =>
      cases opened
      exact ⟨rfl, rfl, rfl, rfl, rfl, congrArg Prod.fst loaded⟩
    | error failure =>
      cases failure with
      | settings fault =>
        simp only at opened
        split at opened <;> cases opened
      | _ => cases opened

/-- Settings that can be loaded give a context. -/
theorem perform_openContext_of_loaded {machine : Machine} {settings : Settings}
    (alive : machine.files.isAlive machine.cwd = true)
    (loaded : Action.perform (Action.loadSettings (Path.ofSpot machine.cwd.spot)) machine =
      (.ok settings, machine)) (workbench : Workbench) :
    Action.perform (openContext workbench) machine =
      (.ok ⟨workbench, settings, Path.ofSpot machine.cwd.spot, false⟩, machine) := by
  have here := Action.perform_currentDirectory alive
  simp only [openContext, Action.perform_bind, Action.perform_attempt, Context.create, here, loaded,
    Action.perform_pure]

/-- The context with the book directory that is asked for, if one is. -/
def contextFor (context : Context) (bookDir : Option Path) : Context :=
  (bookDir.map context.withBookDir).getD context

theorem contextFor_release (context : Context) (bookDir : Option Path) :
    (contextFor context bookDir).settings.release = context.settings.release := by
  cases bookDir <;> rfl

theorem contextFor_workbench (context : Context) (bookDir : Option Path) :
    (contextFor context bookDir).workbench = context.workbench := by
  cases bookDir <;> rfl

theorem contextFor_cwd (context : Context) (bookDir : Option Path) :
    (contextFor context bookDir).cwd = context.cwd := by
  cases bookDir <;> rfl

/-- Words that a command can read, and that are no request: what is left to do. -/
theorem run_which_of_read {rest : List String} {given : List Given} {machine : Machine}
    {bookDir : Option Path} (surroundings : Surroundings) (context : Context)
    (read : readWords Command.which.vocabulary true rest = .ok (given, []))
    (none : given.find? isRequest = none)
    (chosen : Action.perform (bookDir? .which given) machine = (.ok bookDir, machine)) :
    Action.perform (Command.which.run surroundings context rest) machine =
      Action.perform (runWhich (contextFor context bookDir)) machine := by
  unfold Command.run accept
  rw [read]
  simp only [pure_bind, answerRequests_of_none none]
  rw [Action.perform_bind, chosen]
  rfl

end Bookbinder.CommandLine
