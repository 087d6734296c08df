import Bookbinder.Proofs.Machine.Visits
import Bookbinder.Proofs.Process.Starting
import Bookbinder.Workbench.System

/-!
Commands that are run in a directory. Main statement: a command is the program that the search chooses, run
to its end; without one, the exit code says that it is missing or may not be executed, and for four other
reasons the command fails.
-/

set_option autoImplicit false

namespace Bookbinder

open Action (perform)

namespace Workbench

open Process (Chosen Refused candidates launch told)

/-- How a command ends that no program was started for. -/
def refusal (program : String) : Errno → Except Failure Int
  | .noEntry => .ok notFoundCode
  | .accessDenied => .ok notExecutableCode
  | errno => .error (.refused errno (.name program))

/-- The reasons that are no exit code. -/
def uncodedReasons : List Errno := [.notExecutableFormat, .notDirectory, .tooManyLinks, .nameTooLong]

theorem refusal_codeless_iff {errno : Errno} (among : errno ∈ Process.unstarted) (program : String) :
    (∀ code, refusal program errno ≠ .ok code) ↔ errno ∈ uncodedReasons := by
  cases errno with
  | noEntry | accessDenied =>
    exact ⟨fun codeless => absurd rfl (codeless _), fun uncoded => absurd uncoded (by decide)⟩
  | notExecutableFormat | notDirectory | tooManyLinks | nameTooLong =>
    exact ⟨fun _ => by decide, fun _ _ => nofun⟩
  | _ => exact absurd among (by decide)

variable {machine : Machine} {directory : Path} {place : WorkingDirectory} {exported : List (String × String)}
  {program : String} {rest arguments : List String}

theorem perform_runCommand_of_launch
    (clean : ((program :: rest).any holdsNul || holdsNul directory.text) = false)
    (enters : machine.files.enter machine.cwd directory.text = .ok place)
    (launches : launch machine.files place (searchPath exported) program (program :: rest) =
      .ok arguments) :
    ∃ emissions, (perform (runCommand exported (program :: rest) directory) machine).1 =
      .ok (Shell.run (shellEnvironment { machine with emissions := emissions } place exported)
        arguments).2.code := by
  rw [runCommand]
  simp only [Action.perform_bind, Action.trace, Action.perform_emit, clean, Bool.false_eq_true, if_false,
    Action.perform_pure, Action.perform_get, enters, launches, runShell, Action.perform_set]
  exact ⟨_, rfl⟩

theorem perform_runCommand_of_refused {errno : Errno}
    (clean : ((program :: rest).any holdsNul || holdsNul directory.text) = false)
    (enters : machine.files.enter machine.cwd directory.text = .ok place)
    (refused : launch machine.files place (searchPath exported) program (program :: rest) = .error errno)
    (permitted : errno ≠ .notPermitted) :
    ∃ emissions, perform (runCommand exported (program :: rest) directory) machine =
      (refusal program errno, { machine with emissions := emissions }) := by
  rw [runCommand]
  simp only [Action.perform_bind, Action.trace, Action.perform_emit, clean, Bool.false_eq_true, if_false,
    Action.perform_get, enters, refused]
  cases errno with
  | notPermitted => exact absurd rfl permitted
  | _ => exact ⟨_, rfl⟩

theorem perform_runCommand_of_long
    (clean : ((program :: rest).any holdsNul || holdsNul directory.text) = false)
    (long : FileSystem.pathLimit ≤ directory.text.utf8ByteSize) :
    (perform (runCommand exported (program :: rest) directory) machine).1 =
      .error (.refused .nameTooLong (.place directory)) := by
  have refused : machine.files.enter machine.cwd directory.text = .error .nameTooLong := by
    rw [FileSystem.enter, FileSystem.locate_of_long long]
    rfl
  rw [runCommand]
  simp only [Action.perform_bind, Action.trace, Action.perform_emit, clean, Bool.false_eq_true, if_false,
    Action.perform_get, refused]
  rfl

/-- Nothing is run in a directory whose path is too long, whatever the words hold. -/
theorem runCommand_fails_of_long (exported : List (String × String)) (program : String)
    (rest : List String) (machine : Machine)
    (long : FileSystem.pathLimit ≤ directory.text.utf8ByteSize) :
    ∃ failure, (perform (runCommand exported (program :: rest) directory) machine).1 = .error failure := by
  cases clean : (program :: rest).any holdsNul || holdsNul directory.text with
  | false => exact ⟨_, perform_runCommand_of_long clean long⟩
  | true =>
    rw [runCommand]
    simp only [Action.perform_bind, Action.trace, Action.perform_emit, clean, if_true, Action.perform_throw]
    exact ⟨_, rfl⟩

/-- A project with an empty file. -/
def withTool (mode : Nat) : Machine :=
  { Machine.atProject with files := Machine.atProject.files.addFile ["project", "tool"] ⟨[], mode⟩ }

theorem hasDirectory_withTool (mode : Nat) : (withTool mode).HasDirectory (Path.parse "/project") := by
  have text : (Path.parse "/project").text = "/project" := by decide
  refine ⟨by decide, ?_⟩
  rw [text]
  with_unfolding_all rfl

theorem enter_withTool (mode : Nat) :
    (withTool mode).files.enter (withTool mode).cwd (Path.parse "/project").text = .ok ⟨["project"], 5⟩ := by
  have text : (Path.parse "/project").text = "/project" := by decide
  rw [text]
  with_unfolding_all rfl

end Workbench

end Bookbinder
