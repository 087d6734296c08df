import Bookbinder.Proofs.CommandLine.ReadOnly
import Bookbinder.Proofs.CommandLine.Which
import Bookbinder.Proofs.Process.Starting
import Bookbinder.Proofs.Workbench.Commands

/-!
A tool that is found, and the program that is run by its name. Main statement: it is the file that was found
unless that file cannot be started; then it is one that stands after it on the search path, or none.
-/

set_option autoImplicit false

namespace Bookbinder

open Action (perform)

/-- In a tree a directory is entered by its own path, unless that is too long. -/
theorem FileSystem.IsTree.enter_ofSpot {files : FileSystem} (tree : files.IsTree) {place : WorkingDirectory}
    (alive : files.isAlive place = true) (clean : holdsNul (Path.ofSpot place.spot).text = false)
    (short : (Path.ofSpot place.spot).text.utf8ByteSize < pathLimit) :
    files.enter place (Path.ofSpot place.spot).text = .ok place := by
  have stands := (tree.standsPlainly clean alive).resolve_right (Nat.not_le_of_lt short)
  obtain ⟨serial, mode, entry, entered⟩ := stands.enter place
  unfold isAlive at alive
  rw [entry] at alive
  rw [entered, beq_iff_eq.1 alive]

namespace Tool

open Process (Chosen Starts Fails candidates interpreterDepth)
open Workbench (runCommand searchPath shellEnvironment)

variable {exported : List (String × String)} {supply : Delivery.Supply} {release : Release}
  {destination : Path} {machine looked later : Machine} {name path : String}

theorem resolve_of_which
    (found : Process.which machine.files machine.cwd (searchPath exported) release.name = some path) :
    perform (resolve (Workbench.system exported supply) release destination) machine =
      (.ok (.installed release.name path),
        (perform (resolve (Workbench.system exported supply) release destination) machine).2) := by
  have look : perform ((Workbench.system exported supply).findTool release.name) machine =
      (.ok (Process.which machine.files machine.cwd (searchPath exported) release.name), _) :=
    Workbench.perform_lookUp (searchPath exported) release.name machine
  rw [found] at look
  obtain ⟨_, installed⟩ := perform_resolve_of_found destination look
  rw [installed]

/-- A tool that is installed was found under the name of the release. -/
theorem which_of_resolve
    (resolved : perform (resolve (Workbench.system exported supply) release destination) machine =
      (.ok (.installed name path), looked)) :
    name = release.name ∧
      Process.which machine.files machine.cwd (searchPath exported) release.name = some path := by
  have look : perform ((Workbench.system exported supply).findTool release.name) machine =
      (.ok (Process.which machine.files machine.cwd (searchPath exported) release.name), _) :=
    Workbench.perform_lookUp (searchPath exported) release.name machine
  cases found : Process.which machine.files machine.cwd (searchPath exported) release.name with
  | some other =>
    rw [resolve_of_which found] at resolved
    cases resolved
    exact ⟨rfl, rfl⟩
  | none =>
    rw [found] at look
    cases address : release.url with
    | ok url =>
      obtain ⟨_, brought⟩ := perform_resolve_of_missing destination look address
      rw [brought] at resolved
      split at resolved <;> cases resolved
    | error fault =>
      -- the address is asked for before anything is brought
      rw [resolve, Action.perform_bind, look] at resolved
      simp only [Action.perform_bind, urlOf, address, Action.perform_throw] at resolved
      cases resolved

/-- A project with a file that may be executed and names no interpreter, under the name of one that is
installed. -/
def withShadow : Machine :=
  { Machine.atProject with files := Machine.atProject.files.addFile ["project", "sh"] ⟨[], 0o755⟩ }

/-- A process deep down, and the command interpreter at the root. -/
def atDeepShell : Machine :=
  { CommandLine.atDeepPlace with
    files := { CommandLine.atDeepPlace.files with
      entries := (["sh"], .shell) :: CommandLine.atDeepPlace.files.entries } }

end Tool

end Bookbinder
