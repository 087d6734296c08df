import Bookbinder.Machine.Files

/-!
What actions on files do to a machine, in terms of the operation behind each.
-/

set_option autoImplicit false

namespace Bookbinder

theorem holdsNul_append (first second : String) :
    holdsNul (first ++ second) = (holdsNul first || holdsNul second) := by
  rw [holdsNul, String.toList_append, List.contains_append]
  rfl

theorem holdsNul_join_of_name {name : String} (unclean : holdsNul name = true) (directory : String) :
    holdsNul (PathText.join directory name) = true := by
  unfold PathText.join
  split
  · exact unclean
  · split <;> simp only [holdsNul_append, unclean, Bool.or_true]

theorem holdsNul_join {directory name : String} (clean : holdsNul directory = false)
    (also : holdsNul name = false) : holdsNul (PathText.join directory name) = false := by
  unfold PathText.join
  split
  · exact also
  · split
    · simp only [holdsNul_append, clean, also, Bool.or_false]
    · rw [holdsNul_append, holdsNul_append, clean, also]
      decide

/-- A machine whose process stands in an empty project. -/
def Machine.atProject : Machine where
  files := FileSystem.bare ["project"]
  cwd := ⟨["project"], 5⟩
  emissions := []
  events := []

namespace Action

variable {α β : Type}

/-- What ends well has ended well up to each of its steps. -/
theorem perform_bind_eq_ok {action : Action α} {next : α → Action β} {machine : Machine} {value : β}
    (ended : (perform (action >>= next) machine).1 = .ok value) :
    ∃ between after, perform action machine = (.ok between, after) ∧
      (perform (next between) after).1 = .ok value := by
  rw [perform_bind] at ended
  cases first : perform action machine with
  | mk result after =>
    rw [first] at ended
    cases result with
    | error failure => cases ended
    | ok between => exact ⟨between, after, rfl, ended⟩

theorem perform_bind_of_ok {action : Action α} {next : α → Action β} {machine after : Machine} {value : α}
    (done : perform action machine = (.ok value, after)) :
    perform (action >>= next) machine = perform (next value) after := by
  rw [perform_bind, done]

theorem perform_get (machine : Machine) : perform get machine = (.ok machine, machine) := rfl

theorem perform_set (after machine : Machine) :
    perform (set after) machine = (.ok (), after) := rfl

/-- A look at files leaves the machine as it is. -/
theorem perform_query {path : String} (clean : holdsNul path = false)
    (operation : FileSystem → WorkingDirectory → Except Errno α) (machine : Machine) :
    perform (query path operation) machine =
      ((operation machine.files machine.cwd).mapError (Failure.refused · (.name path)), machine) := by
  simp only [query, clean, Bool.false_eq_true, if_false, perform_bind, perform_get]
  cases operation machine.files machine.cwd with
  | ok value => rfl
  | error errno => rfl

theorem perform_query_of_holdsNul {path : String} (unclean : holdsNul path = true)
    (operation : FileSystem → WorkingDirectory → Except Errno α) (machine : Machine) :
    perform (query path operation) machine = (.error .embeddedNul, machine) := by
  unfold query
  rw [unclean]
  rfl

theorem perform_query_snd (path : String)
    (operation : FileSystem → WorkingDirectory → Except Errno α) (machine : Machine) :
    (perform (query path operation) machine).2 = machine := by
  cases clean : holdsNul path with
  | true => rw [perform_query_of_holdsNul clean]
  | false => rw [perform_query clean]

theorem perform_change {path : String} (clean : holdsNul path = false)
    {operation : FileSystem → WorkingDirectory → Except Errno FileSystem} {machine : Machine}
    {after : FileSystem} (changed : operation machine.files machine.cwd = .ok after) :
    perform (change path operation) machine = (.ok (), { machine with files := after }) := by
  unfold change
  rw [perform_bind, perform_query clean, changed]
  rfl

theorem perform_realPath {path text : String} {machine : Machine} (clean : holdsNul path = false)
    (real : machine.files.realPath machine.cwd path = .ok text) :
    perform (realPath path) machine = (.ok text, machine) := by
  unfold realPath
  simp only [clean, Bool.false_eq_true, if_false, perform_bind, perform_get, real]
  rfl

theorem perform_provideDirectory {path : String} {machine : Machine} {after : FileSystem} (clean : holdsNul path = false)
    (made : machine.files.makeDirectories machine.cwd (path.length + 1) path = (after, .ok ())) :
    perform (provideDirectory path) machine = (.ok (), { machine with files := after }) := by
  unfold provideDirectory
  simp only [clean, Bool.false_eq_true, if_false, perform_bind, perform_get, made]
  rfl

theorem perform_statusOf?_snd (path : Path) (machine : Machine) :
    (perform (statusOf? path) machine).2 = machine := by
  unfold statusOf?
  cases holdsNul path.text with
  | true => rfl
  | false =>
    simp only [Bool.false_eq_true, if_false, perform_bind, perform_get]
    cases machine.files.status machine.cwd path.text with
    | ok status => rfl
    | error errno =>
      simp only
      split <;> rfl

/-- Loading settings changes nothing. -/
theorem perform_loadSettings_snd (directory : Path) (machine : Machine) :
    (perform (loadSettings directory) machine).2 = machine := by
  have looked : (perform (exists? (Settings.file directory)) machine).2 = machine := by
    have status := perform_statusOf?_snd (Settings.file directory) machine
    rw [exists?, perform_bind]
    generalize perform (statusOf? (Settings.file directory)) machine = outcome at status ⊢
    rcases outcome with ⟨result, after⟩
    cases status
    cases result <;> rfl
  have read := perform_query_snd (Settings.file directory).text
    (fun files cwd => files.readFile cwd (Settings.file directory).text) machine
  rw [loadSettings, perform_bind]
  generalize perform (exists? (Settings.file directory)) machine = outcome at looked ⊢
  rcases outcome with ⟨result, after⟩
  cases looked
  cases result with
  | error failure => rfl
  | ok found =>
    cases found with
    | false => rfl
    | true =>
      simp only [Bool.not_true, Bool.false_eq_true, if_false, perform_bind, readFile]
      generalize perform (query (Settings.file directory).text fun files cwd =>
        files.readFile cwd (Settings.file directory).text) _ = outcome at read ⊢
      rcases outcome with ⟨result, after⟩
      cases read
      cases result with
      | error failure => rfl
      | ok bytes =>
        simp only
        split <;> rfl

end Action

end Bookbinder
