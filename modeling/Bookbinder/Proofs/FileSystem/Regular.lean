import Bookbinder.Proofs.FileSystem.Writing

/-!
What operations do to the regular files that are there. Main statement: to write to a path, to set its
permission bits and to link to it changes nothing about files other than the one that the path leads to.
-/

set_option autoImplicit false

namespace Bookbinder.FileSystem

/-- Something holds of every regular file: of where it stands, its number and what it holds. -/
def AllFiles (good : Spot → Nat → Content → Prop) (files : FileSystem) : Prop :=
  ∀ spot number content, files.entryAt? spot = some (.file number) →
    files.content? number = some content → good spot number content

/-- No regular file is new, or holds anything new. -/
structure NoneNew (before after : FileSystem) : Prop where
  entries : ∀ spot number, after.entryAt? spot = some (.file number) →
    before.entryAt? spot = some (.file number)
  contents : ∀ number, after.content? number = before.content? number

/-- A path leads to the regular file with a number. -/
def LeadsToFile (files : FileSystem) (cwd : WorkingDirectory) (path : String) (number : Nat) : Prop :=
  ∃ spot, files.locate cwd true path = .ok (.occupied spot) ∧
    files.entryAt? spot = some (.file number)

variable {good : Spot → Nat → Content → Prop} {files after : FileSystem} {cwd : WorkingDirectory}
  {path : String} {number : Nat}

theorem AllFiles.mono {better : Spot → Nat → Content → Prop} (all : AllFiles good files)
    (weaker : ∀ spot number content, good spot number content → better spot number content) :
    AllFiles better files :=
  fun spot number content entry held => weaker spot number content (all spot number content entry held)

theorem LeadsToFile.unique {other : Nat} (leads : files.LeadsToFile cwd path number)
    (again : files.LeadsToFile cwd path other) : number = other := by
  obtain ⟨spot, located, entry⟩ := leads
  obtain ⟨place, there, same⟩ := again
  rw [located] at there
  cases there
  rw [entry] at same
  cases same
  rfl

/-! ### Nothing new -/

theorem NoneNew.refl (files : FileSystem) : NoneNew files files :=
  ⟨fun _ _ entry => entry, fun _ => rfl⟩

theorem NoneNew.trans {final : FileSystem} (first : NoneNew files after) (second : NoneNew after final) :
    NoneNew files final :=
  ⟨fun spot number entry => first.entries spot number (second.entries spot number entry),
    fun number => (second.contents number).trans (first.contents number)⟩

theorem NoneNew.allFiles (none : NoneNew files after) (all : AllFiles good files) : AllFiles good after := by
  intro spot number content entry held
  rw [none.contents] at held
  exact all spot number content (none.entries spot number entry) held

theorem noneNew_putEntry (spot : Spot) {entry : Entry} (other : ∀ number, entry ≠ .file number) :
    NoneNew files (files.putEntry spot entry) := by
  refine ⟨fun place number there => ?_, fun _ => rfl⟩
  rw [entryAt?_putEntry] at there
  split at there
  · cases there
    exact absurd rfl (other number)
  · exact there

theorem noneNew_addDirectory (spot : Spot) (mode : Nat) : NoneNew files (files.addDirectory spot mode) :=
  have put : NoneNew files (files.putEntry spot (.directory files.next mode)) :=
    noneNew_putEntry spot (by simp)
  ⟨put.entries, put.contents⟩

theorem noneNew_removeEntry (spot : Spot) : NoneNew files (files.removeEntry spot) := by
  refine ⟨fun place number there => ?_, fun _ => rfl⟩
  rw [entryAt?_removeEntry] at there
  split at there
  · cases there
  · exact there

theorem noneNew_makeDirectory {mode : Nat} (made : files.makeDirectory cwd path mode = .ok after) :
    NoneNew files after := by
  unfold makeDirectory at made
  cases located : files.locate cwd false (directoryPath path) with
  | error errno =>
    rw [located] at made
    cases made
  | ok location =>
    rw [located] at made
    cases location with
    | vacant directory name =>
      cases made
      exact noneNew_addDirectory _ _
    | _ => cases made

theorem noneNew_provideLast (files : FileSystem) (cwd : WorkingDirectory) (path : String) :
    NoneNew files (files.provideLast cwd path).1 := by
  unfold provideLast
  split
  · next made => exact noneNew_makeDirectory made
  · split <;> exact .refl files

/-- The induction is on how many directories may be made. -/
theorem noneNew_makeDirectories (files : FileSystem) (cwd : WorkingDirectory) (depth : Nat) (path : String) :
    NoneNew files (files.makeDirectories cwd depth path).1 := by
  induction depth generalizing path with
  | zero => exact .refl files
  | succ depth ih =>
    rw [makeDirectories]
    dsimp only
    split
    · exact noneNew_provideLast files cwd path
    · have above := ih (splitDirectory path).1
      generalize files.makeDirectories cwd depth (splitDirectory path).1 = partly at above ⊢
      obtain ⟨between, result⟩ := partly
      cases result with
      | ok done =>
        dsimp only
        split
        · exact above
        · exact above.trans (noneNew_provideLast between cwd path)
      | error refusal =>
        dsimp only
        split
        · exact above
        · split
          · exact above
          · exact above.trans (noneNew_provideLast between cwd path)

theorem noneNew_unlink (removed : files.unlink cwd path = .ok after) : NoneNew files after := by
  unfold unlink at removed
  cases located : files.locate cwd false path with
  | error errno =>
    rw [located] at removed
    cases removed
  | ok location =>
    rw [located] at removed
    cases location with
    | occupied spot =>
      simp only [bind, Except.bind] at removed
      split at removed
      · cases removed
      · cases removed
        exact noneNew_removeEntry spot
    | _ => cases removed

theorem noneNew_makeSymlink {target : String} (made : files.makeSymlink cwd target path = .ok after) :
    NoneNew files after := by
  unfold makeSymlink at made
  by_cases empty : target = ""
  · rw [if_pos empty] at made
    cases made
  by_cases long : target.utf8ByteSize ≥ pathLimit
  · rw [if_neg empty, if_pos long] at made
    cases made
  rw [if_neg empty, if_neg long] at made
  cases located : files.locate cwd false path with
  | error errno =>
    rw [located] at made
    cases made
  | ok location =>
    rw [located] at made
    cases location with
    | vacant directory name =>
      cases made
      exact noneNew_putEntry _ (by simp)
    | _ => cases made

/-! ### The file that a path leads to -/

/-- Whether a link at the end is followed does not matter for where a walk begins. -/
theorem locate_begins (files : FileSystem) (cwd : WorkingDirectory) (path : String) :
    (∃ start names, ∀ follow, files.locate cwd follow path = files.walkOn follow mostLinks start names) ∨
    (∀ follow, files.locate cwd follow path = .ok .gone) ∨
    ∃ errno, ∀ follow, files.locate cwd follow path = .error errno := by
  simp only [locate]
  by_cases empty : path = ""
  · exact .inr (.inr ⟨.noEntry, fun _ => if_pos empty⟩)
  by_cases long : path.utf8ByteSize ≥ pathLimit
  · exact .inr (.inr ⟨.nameTooLong, fun _ => by rw [if_neg empty, if_pos long]⟩)
  simp only [if_neg empty, if_neg long]
  by_cases anchored : path.toList.head? = some '/'
  · exact .inl ⟨_, _, fun _ => if_pos anchored⟩
  by_cases alive : files.isAlive cwd = true
  · exact .inl ⟨_, _, fun _ => by rw [if_neg anchored, if_pos alive]⟩
  simp only [if_neg anchored, if_neg alive]
  split
  · exact .inr (.inl fun _ => rfl)
  · split
    · exact .inl ⟨_, _, fun _ => rfl⟩
    · exact .inr (.inr ⟨_, fun _ => rfl⟩)
  · exact .inr (.inr ⟨_, fun _ => rfl⟩)

theorem locate_vacant_follow {follow : Bool} {directory : Spot} {name : String}
    (located : files.locate cwd follow path = .ok (.vacant directory name)) :
    files.locate cwd true path = .ok (.vacant directory name) := by
  rcases locate_begins files cwd path with ⟨start, names, walks⟩ | gone | ⟨errno, refused⟩
  · rw [walks] at located ⊢
    exact walkOn_vacant_follow located
  · rw [gone] at located
    cases located
  · rw [refused] at located
    cases located

theorem LeadsToFile.isTaken (leads : files.LeadsToFile cwd path number) : files.isTaken cwd path = true := by
  obtain ⟨spot, located, _⟩ := leads
  unfold FileSystem.isTaken
  rcases locate_begins files cwd path with ⟨start, names, walks⟩ | gone | ⟨errno, refused⟩
  · rw [walks] at located ⊢
    rcases walkOn_nofollow located with same | ⟨place, there⟩
    · rw [same]
    · rw [there]
  · rw [gone]
  · rw [refused] at located
    cases located

theorem LeadsToFile.leadsSomewhere {content : Content} (leads : files.LeadsToFile cwd path number)
    (held : files.content? number = some content) : files.leadsSomewhere cwd path = true := by
  obtain ⟨spot, located, entry⟩ := leads
  rw [FileSystem.leadsSomewhere, status_of_file located entry held]
  rfl

/-- A regular file that is new stands where a path leads. -/
theorem leadsToFile_of_vacant {follow : Bool} {directory : Spot} {name : String}
    (located : files.locate cwd follow path = .ok (.vacant directory name))
    (gains : Gains files after (directory ++ [name]) (.file number)) :
    after.LeadsToFile cwd path number := by
  refine ⟨_, gains.locate cwd true (locate_vacant_follow located) rfl, ?_⟩
  rw [gains.entryAt?, if_pos rfl]

theorem leadsToFile_congr (same : ∀ spot, after.entryAt? spot = files.entryAt? spot)
    (leads : files.LeadsToFile cwd path number) : after.LeadsToFile cwd path number := by
  obtain ⟨spot, located, entry⟩ := leads
  exact ⟨spot, by rw [locate_congr same, located], by rw [same, entry]⟩

/-- Only the file that the path leads to then is another one: it is new, or it keeps its permission bits. -/
theorem allFiles_writeFile {change : Text.Bytes → Text.Bytes} (all : AllFiles good files)
    (written : files.writeFile cwd path change = .ok after) :
    AllFiles (fun spot number content => good spot number content ∨
      (after.LeadsToFile cwd path number ∧ (content.mode = fileMode ∨
        ∃ old, old.mode = content.mode ∧ good spot number old))) after := by
  unfold writeFile at written
  cases located : files.locate cwd true path with
  | error errno =>
    rw [located] at written
    cases written
  | ok location =>
    rw [located] at written
    cases location with
    | gone => cases written
    | vacant directory name =>
      cases written
      have gains := gains_addFile files (directory ++ [name]) ⟨change [], fileMode⟩ (locate_vacant located)
      intro spot number content entry held
      have holds := (content?_putContent _ _ _ _).symm.trans held
      by_cases new : files.next = number
      · subst new
        rw [if_pos rfl] at holds
        cases holds
        exact .inr ⟨leadsToFile_of_vacant located gains, .inl rfl⟩
      · rw [if_neg new] at holds
        rw [gains.entryAt?] at entry
        split at entry
        · cases entry
          exact absurd rfl new
        · exact .inl (all spot number content entry holds)
    | occupied place =>
      simp only [bind, Except.bind] at written
      split at written
      · next other entry =>
        split at written
        · next old holds =>
          cases written
          intro spot number content there held
          rw [content?_putContent] at held
          split at held
          · next same =>
            cases held
            subst same
            refine .inr ⟨⟨place, ?_, entry⟩, .inr ⟨old, rfl, all spot other old there holds⟩⟩
            rw [locate_congr (entryAt?_putContent files other _), located]
          · exact .inl (all spot number content there held)
        · cases written
      · cases written
      · cases written
        exact all.mono fun _ _ _ => .inl

/-- Permission bits are those of the file that the path leads to. -/
theorem allFiles_setMode {mode : Nat}
    (all : AllFiles (fun spot number content => good spot number content ∨
      files.LeadsToFile cwd path number) files)
    (changed : files.setMode cwd path mode = .ok after) :
    AllFiles (fun spot number content => good spot number content ∨
      (content.mode = mode ∧ after.LeadsToFile cwd path number)) after := by
  have elsewhere (no : ∀ number, ¬ files.LeadsToFile cwd path number) : AllFiles good files :=
    all.mono fun _ number _ either => either.resolve_right (no number)
  unfold setMode at changed
  cases located : files.locate cwd true path with
  | error errno =>
    rw [located] at changed
    cases changed
  | ok location =>
    rw [located] at changed
    have there {number : Nat} (leads : files.LeadsToFile cwd path number) :
        ∃ spot, location = .occupied spot ∧ files.entryAt? spot = some (.file number) := by
      obtain ⟨spot, reached, entry⟩ := leads
      rw [located] at reached
      cases reached
      exact ⟨spot, rfl, entry⟩
    cases location with
    | gone =>
      cases changed
      exact (elsewhere fun _ leads => by cases (there leads).choose_spec.1).mono fun _ _ _ => .inl
    | vacant directory name => cases changed
    | occupied place =>
      simp only [bind, Except.bind] at changed
      split at changed
      · next other entry =>
        split at changed
        · next old holds =>
          cases changed
          intro spot number content entry' held
          rw [content?_putContent] at held
          split at held
          · next same =>
            cases held
            subst same
            exact .inr ⟨rfl, place, by rw [locate_congr (entryAt?_putContent files other _), located], entry⟩
          · next differs =>
            refine .inl ((all spot number content entry' held).resolve_right fun leads => ?_)
            exact differs (LeadsToFile.unique ⟨place, located, entry⟩ leads)
        · cases changed
      · next serial old entry =>
        cases changed
        refine ((noneNew_putEntry place (by simp)).allFiles (elsewhere fun number leads => ?_)).mono
          fun _ _ _ => .inl
        obtain ⟨spot, same, file⟩ := there leads
        cases same
        rw [entry] at file
        cases file
      · next notFile _ =>
        cases changed
        refine (elsewhere fun number leads => ?_).mono fun _ _ _ => .inl
        obtain ⟨spot, same, file⟩ := there leads
        cases same
        exact notFile number file

/-- If permission bits cannot be set, the path leads to no file that holds something. -/
theorem allFiles_of_setMode_error {mode : Nat} {errno : Errno}
    (all : AllFiles (fun spot number content => good spot number content ∨
      files.LeadsToFile cwd path number) files)
    (refused : files.setMode cwd path mode = .error errno) : AllFiles good files := by
  intro spot number content entry held
  refine (all spot number content entry held).resolve_right ?_
  rintro ⟨place, located, there⟩
  simp [setMode, located, there, held, bind, Except.bind, pure, Except.pure] at refused

/-- A second name is that of the file that the path leads to then. -/
theorem allFiles_makeHardLink {existing : String} (all : AllFiles good files)
    (made : files.makeHardLink cwd existing path = .ok after) :
    AllFiles (fun spot number content => good spot number content ∨
      after.LeadsToFile cwd path number) after := by
  unfold makeHardLink at made
  cases found : files.locate cwd false existing with
  | error errno =>
    rw [found] at made
    cases made
  | ok source =>
    rw [found] at made
    cases source with
    | gone => cases made
    | vacant directory name => cases made
    | occupied place =>
      cases located : files.locate cwd false path with
      | error errno =>
        rw [located] at made
        cases made
      | ok location =>
        rw [located] at made
        cases location with
        | gone => cases made
        | occupied other => cases made
        | vacant directory name =>
          simp only [bind, Except.bind] at made
          split at made
          · cases made
          · next entry _ held =>
            cases made
            intro spot number content there holds
            by_cases here : directory ++ [name] = spot
            · rw [entryAt?_putEntry, if_pos here] at there
              cases there
              have gains : Gains files (files.putEntry (directory ++ [name]) (.file number))
                  (directory ++ [name]) (.file number) :=
                ⟨locate_vacant located, fun other => entryAt?_putEntry files _ other _⟩
              exact .inr (leadsToFile_of_vacant located gains)
            · rw [entryAt?_putEntry, if_neg here] at there
              exact .inl (all spot number content there holds)
          · cases made

end Bookbinder.FileSystem
