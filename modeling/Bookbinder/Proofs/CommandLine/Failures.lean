import Bookbinder.Proofs.CommandLine.BookDirectory
import Bookbinder.Proofs.CommandLine.Records
import Bookbinder.Proofs.Machine.Endings

/-!
How commands fail before they do anything. Main statement: unless a request is answered, no failure on the way
to a command is taken for a success.
-/

set_option autoImplicit false

namespace Bookbinder

open Action (FailsOnly)

/-- A failure is not taken for a success. -/
def Failure.IsLoud (failure : Failure) : Prop := failure ≠ .exit 0

theorem Failure.passesOn_isLoud : Action.PassesOn Failure.IsLoud := ⟨nofun, nofun⟩

namespace CommandLine

variable {words rest : List String} {command : Command} {opening : Opening} {machine after : Machine}

/-- No request among the options is answered: none is there, or there is no context to answer it in. -/
def AnswersNothing (opening : Opening) (command : Command) (rest : List String) (machine : Machine) : Prop :=
  ∀ context opened given left, Action.perform opening.context machine = (.ok context, opened) →
    readWords command.vocabulary true rest = .ok (given, left) → given.find? isRequest = none

theorem Opening.context_cases {context : Context}
    (opened : Action.perform opening.context machine = (.ok context, after)) :
    after = machine ∧ context.workbench = opening.workbench := by
  cases opening with
  | given given =>
    cases opened
    exact ⟨rfl, rfl⟩
  | here workbench =>
    obtain ⟨same, _, bench, _⟩ := openContext_cases opened
    exact ⟨same, bench⟩

section

variable {allowed : Failure → Prop}

theorem failsOnly_reject {α : Type} (usage path : String) (fault : UsageFault) (may : allowed (.exit 2)) :
    FailsOnly allowed (reject usage path fault : Action α) := by
  have ends : FailsOnly allowed (do Action.tellError fault.message; throw (.exit 2) : Action α) :=
    (Action.failsOnly_emit _).bind fun _ _ => Action.gives_throw may
  unfold reject
  split
  · exact (Action.failsOnly_emit _).bind fun _ _ => ends
  · exact ends

variable (passes : Action.PassesOn allowed)

include passes

theorem failsOnly_loadSettings (faults : ∀ fault, allowed (.settings fault)) (directory : Path) :
    FailsOnly allowed (Action.loadSettings directory) := by
  have status (path : Path) : FailsOnly allowed (Action.statusOf? path) := by
    unfold Action.statusOf?
    split
    · exact Action.gives_pure trivial
    · refine Action.gives_look fun machine => ?_
      split
      · exact Action.gives_pure trivial
      · split
        · exact Action.gives_pure trivial
        · exact Action.gives_throw (passes.refused _ _)
  have there : FailsOnly allowed (Action.exists? (Settings.file directory)) :=
    (status _).bind fun _ _ => Action.gives_pure trivial
  refine there.bind fun found _ => ?_
  split
  · exact Action.gives_pure trivial
  · refine (Action.failsOnly_query passes _ _).bind fun bytes _ => ?_
    split
    · exact Action.gives_pure trivial
    · exact Action.gives_throw (faults _)

theorem Opening.failsOnly_context (faults : ∀ fault, allowed (.settings fault)) (told : allowed (.exit 1))
    (opening : Opening) : FailsOnly allowed opening.context := by
  cases opening with
  | given context => exact Action.gives_pure trivial
  | here workbench =>
    have creates : FailsOnly allowed (Context.create workbench) :=
      (Action.failsOnly_currentDirectory passes).bind fun _ _ =>
        (failsOnly_loadSettings passes faults _).bind fun _ _ => Action.gives_pure trivial
    refine (creates.attempt).bind fun result ended => ?_
    rcases result with failure | context
    · cases failure with
      | settings fault =>
        -- a value that is at fault is told of, and the program ends with a status; others crash it
        simp only
        split
        · exact (Action.failsOnly_emit _).bind fun _ _ => Action.gives_throw_bind told _
        · exact Action.gives_throw (faults fault)
      | _ => exact Action.gives_throw ended
    · exact Action.gives_pure trivial

theorem failsOnly_heed (may : allowed (.exit 2)) (surroundings : Surroundings)
    (none : ∀ given left, readWords command.vocabulary true rest = .ok (given, left) →
      given.find? isRequest = none) : FailsOnly allowed (heed command surroundings rest) := by
  cases read : readWords command.vocabulary true rest with
  | error fault =>
    rw [heed_of_refused read]
    exact failsOnly_reject _ _ _ may
  | ok taken =>
    rw [heed_of_read read, answerRequests_of_none (none _ _ read), pure_bind]
    have named : FailsOnly allowed (bookDir? command taken.1) := by
      unfold bookDir?
      split
      · exact Action.gives_pure trivial
      · split
        · exact Action.gives_throw_bind passes.nul _
        · refine Action.gives_look fun machine => ?_
          split
          · exact failsOnly_reject _ _ _ may
          · exact failsOnly_reject _ _ _ may
          · exact Action.gives_pure trivial
    refine named.bind fun bookDir _ => ?_
    split
    · exact Action.gives_pure trivial
    · exact failsOnly_reject _ _ _ may

end

/-- To heed words changes nothing if the command goes on, and then there is no request among them. -/
theorem of_heed {given : List Given} {bookDir : Option Path} {surroundings : Surroundings}
    (heeded : Action.perform (heed command surroundings rest) machine = (.ok (given, bookDir), after)) :
    after = machine ∧ given.find? isRequest = none ∧
      ∃ left, readWords command.vocabulary true rest = .ok (given, left) := by
  have rejected {α : Type} (usage path : String) (fault : UsageFault) {value : α} {machine after : Machine} :
      Action.perform (reject usage path fault) machine ≠ (.ok value, after) := by
    unfold reject
    split <;> nofun
  cases read : readWords command.vocabulary true rest with
  | error fault =>
    rw [heed_of_refused read] at heeded
    exact absurd heeded (rejected _ _ _)
  | ok taken =>
    rw [heed_of_read read] at heeded
    cases asked : taken.1.find? isRequest with
    | some request =>
      -- an answer is the end of the command
      have found : (taken.1.find? fun option => option == .help || option == .version) = some request := asked
      rw [answerRequests, found] at heeded
      cases request <;> cases heeded
    | none =>
      rw [answerRequests_of_none asked, pure_bind, Action.perform_bind] at heeded
      have same : (Action.perform (bookDir? command taken.1) machine).2 = machine ∨
          ∃ failure last, Action.perform (bookDir? command taken.1) machine = (.error failure, last) := by
        cases named : lastBookDir? taken.1 with
        | none =>
          rw [bookDir?_of_none command named]
          exact .inl rfl
        | some text =>
          rcases bookDir?_cases command named machine with chosen | refused
          · exact .inl (congrArg Prod.snd chosen)
          · exact .inr refused
      generalize Action.perform (bookDir? command taken.1) machine = chosen at heeded same
      rcases chosen with ⟨failure | bookDir, last⟩
      · cases heeded
      · rcases same with rfl | ⟨_, _, refused⟩
        · simp only at heeded
          split at heeded
          · cases heeded
            exact ⟨rfl, asked, taken.2, rfl⟩
          · exact absurd heeded (rejected _ _ _)
        · cases refused

theorem exitOf_ne_of_isLoud {failure : Failure} (loud : failure.IsLoud) :
    exitOf (.error failure) ≠ .ok 0 := by
  intro told
  cases failure with
  | exit status =>
    cases told
    exact loud rfl
  | _ =>
    simp only [exitOf] at told
    split at told <;> cases told

/-- If no failure is taken for a success, a status that tells of one comes from a command that ended well. -/
theorem ended_of_status {makeContext : Action Context} {surroundings : Surroundings}
    (loud : ∀ failure, (Action.perform (CommandLine.perform surroundings makeContext words) machine).1 =
      .error failure → failure.IsLoud)
    (done : Action.perform (status surroundings makeContext words) machine = (.ok 0, after)) :
    Action.perform (CommandLine.perform surroundings makeContext words) machine = (.ok (), after) := by
  rw [perform_status_eq] at done
  generalize Action.perform (CommandLine.perform surroundings makeContext words) machine = outcome at loud done
  rcases outcome with ⟨failure | done, last⟩
  · exact absurd (congrArg Prod.fst done) (exitOf_ne_of_isLoud (loud _ rfl))
  · cases done
    simp [farewell]

end CommandLine

end Bookbinder
