import Bookbinder.Proofs.Machine.Operations

/-!
How actions end, whatever machine they start from: with values of one kind, and with failures of another;
and actions that do the same to files and end in the same way, whatever has been written and asked for before.
One rule for each way in which actions are put together.
-/

set_option autoImplicit false

namespace Bookbinder.Action

variable {α β : Type}

/-- The values with which an action can end, and its failures. -/
structure Gives (good : α → Prop) (allowed : Failure → Prop) (action : Action α) : Prop where
  ends : ∀ machine,
    match (perform action machine).1 with
    | .ok value => good value
    | .error failure => allowed failure

/-- The ways in which an action can fail. -/
abbrev FailsOnly (allowed : Failure → Prop) (action : Action α) : Prop := Gives (fun _ => True) allowed action

/-- Whatever the operating system refuses may be passed on, and texts with the character NUL. -/
structure PassesOn (allowed : Failure → Prop) : Prop where
  refused : ∀ errno subject, allowed (.refused errno subject)
  nul : allowed .embeddedNul

variable {good : α → Prop} {allowed : Failure → Prop}

theorem gives_pure {value : α} (holds : good value) : Gives good allowed (pure value) :=
  ⟨fun _ => holds⟩

theorem gives_throw {failure : Failure} (may : allowed failure) :
    Gives good allowed (throw failure : Action α) :=
  ⟨fun _ => may⟩

theorem gives_throw_bind {failure : Failure} (may : allowed failure) {good : β → Prop} (next : α → Action β) :
    Gives good allowed (throw failure >>= next) :=
  ⟨fun _ => may⟩

theorem Gives.bind {action : Action α} {next : α → Action β} {final : β → Prop}
    (first : Gives good allowed action) (onward : ∀ value, good value → Gives final allowed (next value)) :
    Gives final allowed (action >>= next) := by
  refine ⟨fun machine => ?_⟩
  have ended := first.ends machine
  rw [perform_bind]
  generalize perform action machine = outcome at ended ⊢
  rcases outcome with ⟨result, between⟩
  cases result with
  | ok value => exact (onward value ended).ends between
  | error failure => exact ended

theorem Gives.weaken {action : Action α} (gives : Gives good allowed action) {weaker : α → Prop}
    {wider : Failure → Prop} (values : ∀ value, good value → weaker value)
    (failures : ∀ failure, allowed failure → wider failure) : Gives weaker wider action := by
  refine ⟨fun machine => ?_⟩
  have ended := gives.ends machine
  generalize (perform action machine).1 = result at ended ⊢
  cases result with
  | ok value => exact values value ended
  | error failure => exact failures failure ended

theorem Gives.attempt {action : Action α} (gives : Gives good allowed action) {other : Failure → Prop} :
    Gives
      (fun result =>
        match result with
        | .ok value => good value
        | .error failure => allowed failure) other (Action.attempt action) :=
  ⟨gives.ends⟩

theorem gives_look {next : Machine → Action α} (onward : ∀ machine, Gives good allowed (next machine)) :
    Gives good allowed (get >>= next) :=
  ⟨fun machine => (onward machine).ends machine⟩

theorem failsOnly_any (action : Action α) : FailsOnly (fun _ => True) action := by
  refine ⟨fun machine => ?_⟩
  cases (perform action machine).1 <;> trivial

theorem failsOnly_emit (emission : Emission) : FailsOnly allowed (emit emission) :=
  ⟨fun _ => trivial⟩

section

variable (passes : PassesOn allowed) (path : String)

include passes

theorem failsOnly_query (operation : FileSystem → WorkingDirectory → Except Errno α) :
    FailsOnly allowed (query path operation) := by
  refine ⟨fun machine => ?_⟩
  cases clean : holdsNul path with
  | true =>
    rw [perform_query_of_holdsNul clean]
    exact passes.nul
  | false =>
    rw [perform_query clean]
    cases operation machine.files machine.cwd with
    | ok value => trivial
    | error errno => exact passes.refused errno (.name path)

theorem failsOnly_change (operation : FileSystem → WorkingDirectory → Except Errno FileSystem) :
    FailsOnly allowed (change path operation) :=
  (failsOnly_query passes path operation).bind fun _ _ => ⟨fun _ => trivial⟩

theorem failsOnly_realPath : FailsOnly allowed (realPath path) := by
  refine ⟨fun machine => ?_⟩
  unfold realPath
  cases holdsNul path with
  | true => exact passes.nul
  | false =>
    simp only [Bool.false_eq_true, if_false, perform_bind, perform_get]
    cases machine.files.realPath machine.cwd path with
    | ok text => trivial
    | error errno => exact passes.refused errno .unnamed

theorem failsOnly_provideDirectory : FailsOnly allowed (provideDirectory path) := by
  refine ⟨fun machine => ?_⟩
  unfold provideDirectory
  cases holdsNul path with
  | true => exact passes.nul
  | false =>
    simp only [Bool.false_eq_true, if_false, perform_bind, perform_get]
    generalize machine.files.makeDirectories machine.cwd (path.length + 1) path = outcome
    rcases outcome with ⟨files, result⟩
    cases result with
    | ok done => trivial
    | error refusal => exact passes.refused refusal.1 (.name refusal.2)

end

section

variable (passes : PassesOn allowed)

include passes

theorem failsOnly_currentDirectory : FailsOnly allowed currentDirectory := by
  refine gives_look fun machine => ?_
  cases machine.files.isAlive machine.cwd with
  | true => exact gives_pure trivial
  | false => exact gives_throw (passes.refused _ _)

theorem failsOnly_enterDirectory (path : Path) : FailsOnly allowed (enterDirectory path) :=
  (failsOnly_query passes path.text _).bind fun _ _ => ⟨fun _ => trivial⟩

theorem failsOnly_arrive (target : Path) : FailsOnly allowed (arrive target) := by
  refine (failsOnly_currentDirectory passes).bind fun _ _ => ?_
  refine (failsOnly_enterDirectory passes target).bind fun _ _ => ?_
  refine (failsOnly_currentDirectory passes).bind fun _ _ => ?_
  exact (failsOnly_emit _).bind fun _ _ => gives_pure trivial

theorem failsOnly_depart (visit : Visit) : FailsOnly allowed (depart visit) :=
  (failsOnly_enterDirectory passes visit.origin).bind fun _ _ => failsOnly_emit _

end

theorem failsOnly_forM {items : List α} {each : α → Action Unit}
    (fails : ∀ item ∈ items, FailsOnly allowed (each item)) : FailsOnly allowed (items.forM each) := by
  induction items with
  | nil => exact gives_pure trivial
  | cons item rest ih =>
    exact (fails item List.mem_cons_self).bind fun _ _ => ih fun other member =>
      fails other (List.mem_cons_of_mem _ member)

end Bookbinder.Action

/-! ### Actions that end alike -/

namespace Bookbinder

/-- Machines with the same files, on which the process stands in the same place. -/
structure Machine.SameFiles (machine other : Machine) : Prop where
  files : machine.files = other.files
  cwd : machine.cwd = other.cwd

theorem Machine.SameFiles.refl (machine : Machine) : machine.SameFiles machine := ⟨rfl, rfl⟩

namespace Action

variable {α β : Type}

structure Alike (first second : Action α) : Prop where
  ends : ∀ machine other, machine.SameFiles other →
    (perform first machine).1 = (perform second other).1 ∧
      (perform first machine).2.SameFiles (perform second other).2

theorem alike_pure (value : α) : Alike (pure value) (pure value) :=
  ⟨fun _ _ same => ⟨rfl, same⟩⟩

theorem alike_throw (failure : Failure) : Alike (throw failure : Action α) (throw failure) :=
  ⟨fun _ _ same => ⟨rfl, same⟩⟩

/-- What comes next has to be alike for the values alone that the first action can give. -/
theorem Alike.bind_of_gives {first second : Action α} {next onward : α → Action β} {good : α → Prop}
    {allowed : Failure → Prop} (alike : Alike first second) (gives : Gives good allowed first)
    (later : ∀ value, good value → Alike (next value) (onward value)) :
    Alike (first >>= next) (second >>= onward) := by
  refine ⟨fun machine other same => ?_⟩
  have given := gives.ends machine
  obtain ⟨results, between⟩ := alike.ends machine other same
  rw [perform_bind, perform_bind]
  generalize perform first machine = outcome at given results between ⊢
  generalize perform second other = outcome' at results between ⊢
  rcases outcome with ⟨result, after⟩
  rcases outcome' with ⟨result', after'⟩
  cases results
  cases result with
  | ok value => exact (later value given).ends after after' between
  | error failure => exact ⟨rfl, between⟩

theorem Alike.bind {first second : Action α} {next onward : α → Action β} (alike : Alike first second)
    (later : ∀ value, Alike (next value) (onward value)) : Alike (first >>= next) (second >>= onward) :=
  alike.bind_of_gives (failsOnly_any first) fun value _ => later value

theorem Alike.attempt {first second : Action α} (alike : Alike first second) :
    Alike (attempt first) (attempt second) :=
  ⟨fun machine other same =>
    have ends := alike.ends machine other same
    ⟨congrArg Except.ok ends.1, ends.2⟩⟩

theorem alike_look {next onward : Machine → Action α}
    (later : ∀ machine other, machine.SameFiles other → Alike (next machine) (onward other)) :
    Alike (get >>= next) (get >>= onward) :=
  ⟨fun machine other same => (later machine other same).ends machine other same⟩

theorem alike_query (path : String) (operation : FileSystem → WorkingDirectory → Except Errno α) :
    Alike (query path operation) (query path operation) := by
  unfold query
  split
  · exact ⟨fun _ _ same => ⟨rfl, same⟩⟩
  · refine alike_look fun machine other same => ?_
    rw [same.files, same.cwd]
    split
    · exact alike_pure _
    · exact alike_throw _

theorem alike_change (path : String)
    (operation : FileSystem → WorkingDirectory → Except Errno FileSystem) :
    Alike (change path operation) (change path operation) :=
  (alike_query path operation).bind fun _ => ⟨fun _ _ same => ⟨rfl, rfl, same.cwd⟩⟩

theorem alike_realPath (path : String) : Alike (realPath path) (realPath path) := by
  unfold realPath
  split
  · exact ⟨fun _ _ same => ⟨rfl, same⟩⟩
  · refine alike_look fun machine other same => ?_
    rw [same.files, same.cwd]
    split
    · exact alike_pure _
    · exact alike_throw _

theorem alike_provideDirectory (path : String) : Alike (provideDirectory path) (provideDirectory path) := by
  unfold provideDirectory
  split
  · exact ⟨fun _ _ same => ⟨rfl, same⟩⟩
  · refine alike_look fun machine other same => ?_
    rw [same.files, same.cwd]
    generalize other.files.makeDirectories other.cwd (path.length + 1) path = outcome
    obtain ⟨files, result⟩ := outcome
    cases result with
    | ok _ => exact ⟨fun _ _ _ => ⟨rfl, rfl, rfl⟩⟩
    | error refusal => exact ⟨fun _ _ _ => ⟨rfl, rfl, rfl⟩⟩

theorem alike_forM (items : List α) {each : α → Action Unit} (alike : ∀ item, Alike (each item) (each item)) :
    Alike (items.forM each) (items.forM each) := by
  induction items with
  | nil => exact alike_pure _
  | cons item rest ih => exact (alike item).bind fun _ => ih

end Action

end Bookbinder
