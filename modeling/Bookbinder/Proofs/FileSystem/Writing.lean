import Bookbinder.Proofs.FileSystem.Walks

/-!
Files that are written and found again. A new file changes nothing about the links that lead to it, so
a path that led to a vacant name leads to the file afterwards. Main statement: what is written to a
path is what the path leads to.
-/

set_option autoImplicit false

namespace Bookbinder.FileSystem

section

variable {files after : FileSystem}

theorem isAlive_congr (same : ∀ spot, after.entryAt? spot = files.entryAt? spot)
    (cwd : WorkingDirectory) : after.isAlive cwd = files.isAlive cwd := by
  unfold isAlive
  rw [same]

/-- What files hold plays no part in where a path leads. -/
theorem locate_congr (same : ∀ spot, after.entryAt? spot = files.entryAt? spot)
    (cwd : WorkingDirectory) (follow : Bool) (path : String) :
    after.locate cwd follow path = files.locate cwd follow path := by
  have signs (spot : Spot) : after.signAt? spot = files.signAt? spot := by
    unfold signAt?
    rw [same]
  simp only [locate, isAlive_congr same, walkOn_congr signs, isDirectory_congr signs]

end

namespace Gains

variable {files after : FileSystem} {spot : Spot} {number : Nat}

theorem isDirectory_of_file (gains : Gains files after spot (.file number)) (other : Spot) :
    after.isDirectory other = files.isDirectory other := by
  unfold FileSystem.isDirectory
  by_cases same : spot = other
  · subst same
    rw [gains.entryAt?, if_pos rfl, gains.vacant]
  · rw [gains.entryAt?, if_neg same]

theorem isAlive_of_file (gains : Gains files after spot (.file number)) (cwd : WorkingDirectory) :
    after.isAlive cwd = files.isAlive cwd := by
  unfold FileSystem.isAlive
  by_cases same : spot = cwd.spot
  · rw [gains.entryAt?, if_pos same, ← same, gains.vacant]
  · rw [gains.entryAt?, if_neg same]

theorem locate (gains : Gains files after spot (.file number)) (cwd : WorkingDirectory) (follow : Bool)
    {path : String} {directory : Spot} {name : String}
    (vacant : files.locate cwd follow path = .ok (.vacant directory name))
    (here : directory ++ [name] = spot) :
    after.locate cwd follow path = .ok (.occupied spot) := by
  have onward (start : Spot) (names : List String)
      (vacant : files.walkOn follow mostLinks start names = .ok (.vacant directory name)) :
      after.walkOn follow mostLinks start names = .ok (.occupied spot) := by
    rw [gains.walkOn (fun _ => by simp) vacant, arrivalAt, if_pos here]
  simp only [FileSystem.locate, gains.isAlive_of_file, gains.isDirectory_of_file] at vacant ⊢
  by_cases empty : path = ""
  · simp [empty] at vacant
  by_cases long : path.utf8ByteSize ≥ pathLimit
  · simp [empty, long] at vacant
  by_cases anchored : path.toList.head? = some '/'
  · simp only [empty, long, anchored, if_true, if_false] at vacant ⊢
    exact onward _ _ vacant
  by_cases alive : files.isAlive cwd = true
  · simp only [empty, long, anchored, alive, if_true, if_false] at vacant ⊢
    exact onward _ _ vacant
  simp only [empty, long, anchored, alive, Bool.false_eq_true, if_false] at vacant ⊢
  split at vacant
  · simp at vacant
  · split at vacant
    · next parent =>
      rw [if_pos parent]
      exact onward _ _ vacant
    · simp at vacant
  · simp at vacant

end Gains

/-- The files after a new one was made hold it besides what they held. -/
theorem gains_addFile (files : FileSystem) (spot : Spot) (content : Content)
    (vacant : files.entryAt? spot = none) :
    Gains files (files.addFile spot content) spot (.file files.next) :=
  ⟨vacant, fun other => entryAt?_putEntry files spot other (.file files.next)⟩

/-- To find where a path leads is to walk from some spot, unless the current directory is gone. -/
theorem locate_cases (files : FileSystem) (cwd : WorkingDirectory) (follow : Bool) (path : String) :
    (∃ start names, (∀ name ∈ names, IsPart name) ∧
      files.locate cwd follow path = files.walkOn follow mostLinks start names) ∨
    files.locate cwd follow path = .ok .gone ∨
    ∃ errno, files.locate cwd follow path = .error errno := by
  fun_cases locate files cwd follow path with
  | case3 => exact .inl ⟨_, _, fun name => isPart_of_mem_components, rfl⟩
  | case4 => exact .inl ⟨_, _, fun name => isPart_of_mem_components, rfl⟩
  | case5 => exact .inr (.inl rfl)
  | case6 _ _ _ _ _ rest up above =>
    refine .inl ⟨_, rest, fun name member => ?_, rfl⟩
    have among : name ∈ (components path).dropWhile (· = ".") := by
      rw [up]
      exact List.mem_cons_of_mem _ member
    exact isPart_of_mem_components ((List.dropWhile_sublist _).subset among)
  | _ => exact .inr (.inr ⟨_, rfl⟩)

theorem locate_vacant {files : FileSystem} {cwd : WorkingDirectory} {follow : Bool} {path : String}
    {directory : Spot} {name : String}
    (located : files.locate cwd follow path = .ok (.vacant directory name)) :
    files.entryAt? (directory ++ [name]) = none := by
  rcases locate_cases files cwd follow path with
    ⟨start, names, parts, walks⟩ | gone | ⟨errno, refused⟩
  · rw [walks] at located
    exact (walkOn_vacant parts located).absent
  · rw [gone] at located
    cases located
  · rw [refused] at located
    cases located

/-- Whether a path leads to a regular file, or to where one may be made. -/
def OffersFile (files : FileSystem) (cwd : WorkingDirectory) (path : String) : Prop :=
  (∃ directory name, files.locate cwd true path = .ok (.vacant directory name)) ∨
    ∃ content, files.status cwd path = .ok (.file content)

theorem status_eq_file {files : FileSystem} {cwd : WorkingDirectory} {path : String}
    {content : Content} (status : files.status cwd path = .ok (.file content)) :
    ∃ spot number, files.locate cwd true path = .ok (.occupied spot) ∧
      files.entryAt? spot = some (.file number) ∧ files.content? number = some content := by
  unfold FileSystem.status at status
  cases located : files.locate cwd true path with
  | error errno =>
    rw [located] at status
    cases status
  | ok location =>
    rw [located] at status
    cases location with
    | gone => cases status
    | vacant directory name => cases status
    | occupied spot =>
      simp only [bind, Except.bind, statusAt] at status
      split at status
      · cases status
      · next number entry =>
        split at status
        · next held =>
          cases status
          exact ⟨spot, number, rfl, entry, held⟩
        · cases status
      all_goals cases status

section

variable {files : FileSystem} {cwd : WorkingDirectory} {path : String} {spot : Spot} {number : Nat}
  {content : Content}

theorem writeFile_of_file (located : files.locate cwd true path = .ok (.occupied spot))
    (entry : files.entryAt? spot = some (.file number)) (held : files.content? number = some content)
    (change : Text.Bytes → Text.Bytes) :
    files.writeFile cwd path change =
      .ok (files.putContent number { content with bytes := change content.bytes }) := by
  simp [writeFile, located, entry, held, bind, Except.bind, pure, Except.pure]

theorem writeFile_of_vacant {directory : Spot} {name : String}
    (located : files.locate cwd true path = .ok (.vacant directory name))
    (change : Text.Bytes → Text.Bytes) :
    files.writeFile cwd path change =
      .ok (files.addFile (directory ++ [name]) ⟨change [], fileMode⟩) := by
  simp [writeFile, located, bind, Except.bind, pure, Except.pure]

theorem status_of_vacant {directory : Spot} {name : String}
    (located : files.locate cwd true path = .ok (.vacant directory name)) :
    files.status cwd path = .error .noEntry := by
  rw [FileSystem.status, located]
  rfl

theorem status_of_file (located : files.locate cwd true path = .ok (.occupied spot))
    (entry : files.entryAt? spot = some (.file number)) (held : files.content? number = some content) :
    files.status cwd path = .ok (.file content) := by
  simp only [FileSystem.status, statusAt, located, entry, held, bind, Except.bind]

end

/-- What is written to such a path is there afterwards. -/
theorem status_writeFile {files : FileSystem} {cwd : WorkingDirectory} {path : String}
    (offers : files.OffersFile cwd path) (bytes : Text.Bytes) :
    ∃ after mode, files.writeFile cwd path (fun _ => bytes) = .ok after ∧
      after.status cwd path = .ok (.file ⟨bytes, mode⟩) := by
  rcases offers with ⟨directory, name, located⟩ | ⟨content, status⟩
  · refine ⟨_, fileMode, writeFile_of_vacant located fun _ => bytes, ?_⟩
    have gains := gains_addFile files (directory ++ [name]) ⟨bytes, fileMode⟩ (locate_vacant located)
    have entry := gains.entryAt? (directory ++ [name])
    rw [if_pos rfl] at entry
    have written : (files.addFile (directory ++ [name]) ⟨bytes, fileMode⟩).content? files.next =
        some ⟨bytes, fileMode⟩ := by
      refine (content?_putContent _ _ _ _).trans ?_
      rw [if_pos rfl]
    exact status_of_file (gains.locate cwd true located rfl) entry written
  · obtain ⟨spot, number, located, entry, held⟩ := status_eq_file status
    refine ⟨_, content.mode, writeFile_of_file located entry held _, ?_⟩
    have written := content?_putContent files number number { content with bytes := bytes }
    rw [if_pos rfl] at written
    refine status_of_file ?_ entry written
    rw [locate_congr (entryAt?_putContent files number _), located]

end Bookbinder.FileSystem
