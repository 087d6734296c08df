import Bookbinder.Proofs.Machine.Operations

/-!
What holds of the machine after an action, whether it ends with a value or with a failure, and what holds by
the failure that it ends with, which may tell more of the machine than that there was one. One rule for each
way in which actions are put together.
-/

set_option autoImplicit false

namespace Bookbinder.Action

variable {α β : Type}

/-- From machines of one kind an action comes to others: with a value, or with a failure. -/
structure Meets (before : Machine → Prop) (action : Action α) (after : α → Machine → Prop)
    (failed : Machine → Prop) : Prop where
  ends : ∀ machine, before machine →
    match perform action machine with
    | (.ok value, final) => after value final
    | (.error _, final) => failed final

/-- However an action ends, something still holds. -/
def Keeps (kept : Machine → Prop) (action : Action α) : Prop :=
  Meets kept action (fun _ => kept) kept

variable {before failed : Machine → Prop} {after : α → Machine → Prop}

theorem Meets.always {action : Action α} {kept : Machine → Prop}
    (meets : Meets before action (fun _ => kept) kept) {machine : Machine} (holds : before machine) :
    kept (perform action machine).2 := by
  have ended := meets.ends machine holds
  generalize perform action machine = outcome at ended ⊢
  rcases outcome with ⟨result, final⟩
  cases result <;> exact ended

theorem Meets.weaken {action : Action α} (meets : Meets before action after failed)
    {stronger other : Machine → Prop} {weaker : α → Machine → Prop}
    (first : ∀ machine, stronger machine → before machine)
    (last : ∀ value machine, after value machine → weaker value machine)
    (failing : ∀ machine, failed machine → other machine) : Meets stronger action weaker other := by
  refine ⟨fun machine holds => ?_⟩
  have ended := meets.ends machine (first machine holds)
  generalize perform action machine = outcome at ended ⊢
  rcases outcome with ⟨result, final⟩
  cases result with
  | ok value => exact last value final ended
  | error failure => exact failing final ended

/-- A fact that follows from what holds before may be used. -/
theorem Meets.knowing {action : Action α} {fact : Prop} (known : ∀ machine, before machine → fact)
    (meets : fact → Meets before action after failed) : Meets before action after failed :=
  ⟨fun machine holds => (meets (known machine holds)).ends machine holds⟩

theorem meets_pure {value : α} (holds : ∀ machine, before machine → after value machine) :
    Meets before (pure value) after failed :=
  ⟨holds⟩

theorem meets_throw {failure : Failure} (holds : ∀ machine, before machine → failed machine) :
    Meets before (throw failure : Action α) after failed :=
  ⟨holds⟩

theorem Meets.bind {action : Action α} {next : α → Action β} {final : β → Machine → Prop}
    (first : Meets before action after failed)
    (onward : ∀ value, Meets (after value) (next value) final failed) :
    Meets before (action >>= next) final failed := by
  refine ⟨fun machine holds => ?_⟩
  have ended := first.ends machine holds
  rw [perform_bind]
  generalize perform action machine = outcome at ended ⊢
  rcases outcome with ⟨result, between⟩
  cases result with
  | ok value => exact (onward value).ends between ended
  | error failure => exact ended

theorem Meets.attempt {action : Action α} (meets : Meets before action after failed)
    {other : Machine → Prop} :
    Meets before (attempt action)
      (fun result machine =>
        match result with
        | .ok value => after value machine
        | .error _ => failed machine) other := by
  refine ⟨fun machine holds => ?_⟩
  have ended := meets.ends machine holds
  rw [perform_attempt]
  generalize perform action machine = outcome at ended ⊢
  rcases outcome with ⟨result, between⟩
  cases result <;> exact ended

theorem meets_look {next : Machine → Action α}
    (onward : ∀ machine, Meets before (next machine) after failed) :
    Meets before (get >>= next) after failed :=
  ⟨fun machine holds => (onward machine).ends machine holds⟩

theorem meets_query {path : String}
    {operation : FileSystem → WorkingDirectory → Except Errno α} :
    Meets before (query path operation)
      (fun value machine => before machine ∧ operation machine.files machine.cwd = .ok value)
      before := by
  refine ⟨fun machine holds => ?_⟩
  cases clean : holdsNul path with
  | true =>
    rw [perform_query_of_holdsNul clean]
    exact holds
  | false =>
    rw [perform_query clean]
    cases found : operation machine.files machine.cwd with
    | ok value => exact ⟨holds, found⟩
    | error errno => exact holds

/-- A change of the files that is made as a whole or not at all. -/
theorem meets_change {path : String}
    {operation : FileSystem → WorkingDirectory → Except Errno FileSystem} {changed : Machine → Prop}
    (step : ∀ machine files, before machine → operation machine.files machine.cwd = .ok files →
      changed { machine with files := files }) :
    Meets before (change path operation) (fun _ => changed) before := by
  have asked : Meets before (query path operation)
      (fun files machine => before machine ∧ operation machine.files machine.cwd = .ok files) before :=
    meets_query
  refine asked.bind fun files => ⟨fun machine holds => ?_⟩
  exact step machine files holds.1 holds.2

theorem meets_realPath (path : String) :
    Meets before (realPath path)
      (fun text machine => before machine ∧ machine.files.realPath machine.cwd path = .ok text)
      before := by
  refine ⟨fun machine holds => ?_⟩
  unfold realPath
  cases clean : holdsNul path with
  | true => exact holds
  | false =>
    simp only [Bool.false_eq_true, if_false, perform_bind, perform_get]
    cases found : machine.files.realPath machine.cwd path with
    | ok text => exact ⟨holds, found⟩
    | error errno => exact holds

theorem meets_provideDirectory {path : String} {changed : Machine → Prop}
    (unchanged : ∀ machine, before machine → changed machine)
    (step : ∀ machine depth, before machine →
      changed { machine with files := (machine.files.makeDirectories machine.cwd depth path).1 }) :
    Meets before (provideDirectory path) (fun _ => changed) changed := by
  refine ⟨fun machine holds => ?_⟩
  unfold provideDirectory
  cases clean : holdsNul path with
  | true => exact unchanged machine holds
  | false =>
    have made := step machine (path.length + 1) holds
    simp only [Bool.false_eq_true, if_false, perform_bind, perform_get]
    generalize machine.files.makeDirectories machine.cwd (path.length + 1) path = outcome at made ⊢
    rcases outcome with ⟨files, result⟩
    cases result <;> exact made

end Bookbinder.Action

/-! ### By what an action ends with -/

namespace Bookbinder.Action

variable {α β : Type}

/-- From machines of one kind an action comes to others: with a value, or with one failure or another. -/
structure Yields (before : Machine → Prop) (action : Action α) (after : α → Machine → Prop)
    (failed : Failure → Machine → Prop) : Prop where
  ends : ∀ machine, before machine →
    match perform action machine with
    | (.ok value, final) => after value final
    | (.error failure, final) => failed failure final

variable {before : Machine → Prop} {after : α → Machine → Prop} {failed : Failure → Machine → Prop}

theorem Meets.yields {action : Action α} {lost : Machine → Prop} (meets : Meets before action after lost) :
    Yields before action after fun _ => lost :=
  ⟨meets.ends⟩

theorem Yields.weaken {action : Action α} (yields : Yields before action after failed)
    {stronger : Machine → Prop} {weaker : α → Machine → Prop} {other : Failure → Machine → Prop}
    (first : ∀ machine, stronger machine → before machine)
    (last : ∀ value machine, after value machine → weaker value machine)
    (failing : ∀ failure machine, failed failure machine → other failure machine) :
    Yields stronger action weaker other := by
  refine ⟨fun machine holds => ?_⟩
  have ended := yields.ends machine (first machine holds)
  generalize perform action machine = outcome at ended ⊢
  rcases outcome with ⟨result, final⟩
  cases result with
  | ok value => exact last value final ended
  | error failure => exact failing failure final ended

/-- A fact that follows from what holds before may be used. -/
theorem Yields.knowing {action : Action α} {fact : Prop} (known : ∀ machine, before machine → fact)
    (yields : fact → Yields before action after failed) : Yields before action after failed :=
  ⟨fun machine holds => (yields (known machine holds)).ends machine holds⟩

theorem yields_pure {value : α} (holds : ∀ machine, before machine → after value machine) :
    Yields before (pure value) after failed :=
  ⟨holds⟩

theorem yields_throw {failure : Failure} (holds : ∀ machine, before machine → failed failure machine) :
    Yields before (throw failure : Action α) after failed :=
  ⟨holds⟩

theorem yields_throw_bind {failure : Failure} {after : β → Machine → Prop} {next : α → Action β}
    (holds : ∀ machine, before machine → failed failure machine) :
    Yields before (throw failure >>= next) after failed :=
  ⟨holds⟩

theorem Yields.bind {action : Action α} {next : α → Action β} {final : β → Machine → Prop}
    (first : Yields before action after failed)
    (onward : ∀ value, Yields (after value) (next value) final failed) :
    Yields before (action >>= next) final failed := by
  refine ⟨fun machine holds => ?_⟩
  have ended := first.ends machine holds
  rw [perform_bind]
  generalize perform action machine = outcome at ended ⊢
  rcases outcome with ⟨result, between⟩
  cases result with
  | ok value => exact (onward value).ends between ended
  | error failure => exact ended

theorem Yields.attempt {action : Action α} (yields : Yields before action after failed)
    {other : Failure → Machine → Prop} :
    Yields before (attempt action)
      (fun result machine =>
        match result with
        | .ok value => after value machine
        | .error failure => failed failure machine) other := by
  refine ⟨fun machine holds => ?_⟩
  have ended := yields.ends machine holds
  rw [perform_attempt]
  generalize perform action machine = outcome at ended ⊢
  rcases outcome with ⟨result, between⟩
  cases result <;> exact ended

theorem yields_machine {next : Machine → Action α}
    (onward : ∀ machine, Yields (fun same => same = machine ∧ before same) (next machine) after failed) :
    Yields before (get >>= next) after failed :=
  ⟨fun machine holds => (onward machine).ends machine ⟨rfl, holds⟩⟩

/-- A change of the files that is made as a whole or not at all. -/
theorem yields_change {path : String}
    {operation : FileSystem → WorkingDirectory → Except Errno FileSystem} {changed : Machine → Prop}
    (step : ∀ machine files, before machine → holdsNul path = false →
      operation machine.files machine.cwd = .ok files → changed { machine with files := files })
    (refused : ∀ machine errno, before machine → operation machine.files machine.cwd = .error errno →
      failed (.refused errno (.name path)) machine)
    (unclean : ∀ machine, before machine → holdsNul path = true → failed .embeddedNul machine) :
    Yields before (change path operation) (fun _ => changed) failed := by
  refine ⟨fun machine holds => ?_⟩
  rw [change, perform_bind]
  cases clean : holdsNul path with
  | true =>
    rw [perform_query_of_holdsNul clean]
    exact unclean machine holds clean
  | false =>
    rw [perform_query clean]
    cases found : operation machine.files machine.cwd with
    | ok files => exact step machine files holds clean found
    | error errno => exact refused machine errno holds found

/-- How an action ends from one machine can be told afterwards. -/
theorem Yields.told {action : Action α} {start : Machine}
    (yields : Yields (fun same => same = start ∧ before same) action after failed) :
    Yields (fun same => same = start ∧ before same) action
      (fun value final => after value final ∧ perform action start = (.ok value, final))
      fun failure final => failed failure final ∧ perform action start = (.error failure, final) := by
  refine ⟨?_⟩
  rintro machine ⟨rfl, holds⟩
  have ended := yields.ends machine ⟨rfl, holds⟩
  generalize perform action machine = outcome at ended ⊢
  rcases outcome with ⟨result, final⟩
  cases result with
  | ok value => exact ⟨ended, rfl⟩
  | error failure => exact ⟨ended, rfl⟩

end Bookbinder.Action
