import Bookbinder.Machine.Files
import Bookbinder.Process.Lookup
import Bookbinder.Proofs.FileSystem.Walks
import Bookbinder.Proofs.Machine.Operations

/-!
How programs are started: a file is started as it is, or by the interpreter that its first line names, and
of several candidates the first one that can be started is. Main statements: what is started and why
nothing is are two relations that the search follows exactly, only a few reasons are ever told, and what
stands before the file that a look for a program finds cannot be started either.
-/

set_option autoImplicit false

namespace Bookbinder

/-! ### Why a path leads nowhere -/

namespace FileSystem

/-- The reasons for which a path cannot be followed. -/
def unreached : List Errno := [.noEntry, .notDirectory, .nameTooLong, .tooManyLinks]

variable {files : FileSystem} {place : WorkingDirectory} {path : String} {errno : Errno}

theorem walk_refused {follow : Bool} {start : Spot} {names : List String}
    (refused : files.walk follow start names = .refused errno) : errno ∈ unreached := by
  fun_induction walk files follow start names with
  | case2 | case5 | case7 =>
    cases refused
    decide
  | case3 _ _ _ ih | case4 _ _ _ _ ih => exact ih refused
  | case10 _ _ _ _ _ _ _ _ _ _ ih => exact ih refused
  | _ => cases refused

theorem walkOn_refused {follow : Bool} {budget : Nat} {start : Spot} {names : List String}
    (refused : files.walkOn follow budget start names = .error errno) : errno ∈ unreached := by
  fun_induction walkOn files follow budget start names with
  | case1 => cases refused
  | case2 _ _ _ _ walked =>
    cases refused
    exact walk_refused walked
  | case3 =>
    cases refused
    decide
  | case4 _ _ _ _ _ _ _ _ ih => exact ih refused

theorem locate_refused {follow : Bool} (refused : files.locate place follow path = .error errno) :
    errno ∈ unreached := by
  unfold locate at refused
  dsimp only at refused
  split at refused
  · cases refused
    decide
  split at refused
  · cases refused
    decide
  split at refused
  · exact walkOn_refused refused
  split at refused
  · exact walkOn_refused refused
  -- the current directory is gone
  split at refused
  · cases refused
  · split at refused
    · exact walkOn_refused refused
    · cases refused
      decide
  · cases refused
    decide

theorem status_refused (refused : files.status place path = .error errno) : errno ∈ unreached := by
  unfold status at refused
  cases located : files.locate place true path with
  | error reason =>
    rw [located] at refused
    cases refused
    exact locate_refused located
  | ok location =>
    rw [located] at refused
    cases location with
    | gone => cases refused
    | vacant directory name =>
      cases refused
      decide
    | occupied spot =>
      change files.statusAt spot = _ at refused
      unfold statusAt at refused
      split at refused
      · cases refused
      · split at refused
        · cases refused
        · cases refused
          decide
      all_goals
        cases refused
        try decide

end FileSystem

namespace Process

variable {files : FileSystem} {place : WorkingDirectory} {depth : Nat} {path : String}
  {words started : List String} {errno : Errno}

/-! ### One file -/

/-- A file that may be executed, and whose first line names an interpreter. -/
def IsScript (files : FileSystem) (place : WorkingDirectory) (path interpreter : String)
    (argument : Option String) : Prop :=
  ∃ content, files.status place path = .ok (.file content) ∧ mayExecute content = true ∧
    interpreterLine? content.bytes = some (interpreter, argument)

/-- What is started in the end is the command interpreter; so many scripts may lead to it. -/
inductive Starts (files : FileSystem) (place : WorkingDirectory) :
    Nat → String → List String → List String → Prop
  | shell {depth : Nat} {path : String} {words : List String}
      (here : files.status place path = .ok .shell) : Starts files place depth path words words
  | script {depth : Nat} {path interpreter : String} {argument : Option String} {words started : List String}
      (here : IsScript files place path interpreter argument)
      (onward : Starts files place depth interpreter
        (interpreter :: argument.toList ++ path :: words.drop 1) started) :
      Starts files place (depth + 1) path words started

/-- Why a file cannot be started. A script fails with its interpreter. -/
inductive Fails (files : FileSystem) (place : WorkingDirectory) : Nat → String → Errno → Prop
  | missed {depth : Nat} {path : String} {errno : Errno}
      (nowhere : files.status place path = .error errno) : Fails files place depth path errno
  | directory {depth : Nat} {path : String} (here : files.status place path = .ok .directory) :
      Fails files place depth path .accessDenied
  | sink {depth : Nat} {path : String} (here : files.status place path = .ok .sink) :
      Fails files place depth path .accessDenied
  | barred {depth : Nat} {path : String} {content : Content}
      (here : files.status place path = .ok (.file content)) (bar : mayExecute content = false) :
      Fails files place depth path .accessDenied
  | unrecognised {depth : Nat} {path : String} {content : Content}
      (here : files.status place path = .ok (.file content)) (may : mayExecute content = true)
      (unknown : interpreterLine? content.bytes = none) : Fails files place depth path .notExecutableFormat
  | tooDeep {path interpreter : String} {argument : Option String}
      (here : IsScript files place path interpreter argument) : Fails files place 0 path .tooManyLinks
  | interpreter {depth : Nat} {path interpreter : String} {argument : Option String} {errno : Errno}
      (here : IsScript files place path interpreter argument)
      (onward : Fails files place depth interpreter errno) : Fails files place (depth + 1) path errno

theorem Starts.start (starts : Starts files place depth path words started) :
    start files place depth path words = .ok started := by
  induction starts with
  | shell here =>
    rw [Process.start, here]
    rfl
  | script here _ ih =>
    obtain ⟨content, present, may, line⟩ := here
    rw [Process.start, present]
    simp only [bind, Except.bind, may, line]
    exact ih

theorem Fails.start (fails : Fails files place depth path errno) (words : List String) :
    start files place depth path words = .error errno := by
  induction fails generalizing words with
  | missed nowhere =>
    rw [Process.start, nowhere]
    rfl
  | directory here | sink here =>
    rw [Process.start, here]
    rfl
  | barred here bar =>
    rw [Process.start, here]
    simp only [bind, Except.bind, bar]
    rfl
  | unrecognised here may unknown =>
    rw [Process.start, here]
    simp only [bind, Except.bind, may, unknown]
    rfl
  | tooDeep here =>
    obtain ⟨content, present, may, line⟩ := here
    rw [Process.start, present]
    simp only [bind, Except.bind, may, line]
    rfl
  | interpreter here _ ih =>
    obtain ⟨content, present, may, line⟩ := here
    rw [Process.start, present]
    simp only [bind, Except.bind, may, line]
    exact ih _

/-- A file is started or there is a reason why not. -/
theorem starts_or_fails (files : FileSystem) (place : WorkingDirectory) (depth : Nat) (path : String)
    (words : List String) :
    (∃ started, Starts files place depth path words started) ∨ ∃ errno, Fails files place depth path errno := by
  induction depth generalizing path words with
  | zero =>
    cases status : files.status place path with
    | error errno => exact .inr ⟨errno, .missed status⟩
    | ok found =>
      cases found with
      | directory => exact .inr ⟨_, .directory status⟩
      | sink => exact .inr ⟨_, .sink status⟩
      | shell => exact .inl ⟨words, .shell status⟩
      | file content =>
        cases may : mayExecute content with
        | false => exact .inr ⟨_, .barred status may⟩
        | true =>
          cases line : interpreterLine? content.bytes with
          | none => exact .inr ⟨_, .unrecognised status may line⟩
          | some named => exact .inr ⟨_, .tooDeep ⟨content, status, may, line⟩⟩
  | succ depth ih =>
    cases status : files.status place path with
    | error errno => exact .inr ⟨errno, .missed status⟩
    | ok found =>
      cases found with
      | directory => exact .inr ⟨_, .directory status⟩
      | sink => exact .inr ⟨_, .sink status⟩
      | shell => exact .inl ⟨words, .shell status⟩
      | file content =>
        cases may : mayExecute content with
        | false => exact .inr ⟨_, .barred status may⟩
        | true =>
          cases line : interpreterLine? content.bytes with
          | none => exact .inr ⟨_, .unrecognised status may line⟩
          | some named =>
            obtain ⟨interpreter, argument⟩ := named
            have script : IsScript files place path interpreter argument := ⟨content, status, may, line⟩
            rcases ih interpreter (interpreter :: argument.toList ++ path :: words.drop 1) with
              ⟨started, onward⟩ | ⟨errno, onward⟩
            · exact .inl ⟨started, .script script onward⟩
            · exact .inr ⟨errno, .interpreter script onward⟩

/-- A file that can be started cannot fail to, and the words that come of it are its own. -/
theorem Starts.unique (starts : Starts files place depth path words started) {others : List String}
    (again : Starts files place depth path words others) : others = started := by
  have same := starts.start.symm.trans again.start
  cases same
  rfl

theorem Starts.not_fails (starts : Starts files place depth path words started) :
    ¬Fails files place depth path errno := by
  intro fails
  have same := starts.start.symm.trans (fails.start words)
  cases same

/-- The reasons for which a file cannot be started. -/
def unstarted : List Errno :=
  [.noEntry, .accessDenied, .notExecutableFormat, .notDirectory, .nameTooLong, .tooManyLinks]

theorem Fails.mem_unstarted (fails : Fails files place depth path errno) : errno ∈ unstarted := by
  induction fails with
  | missed nowhere =>
    have unreached := FileSystem.status_refused nowhere
    simp only [FileSystem.unreached, List.mem_cons, List.not_mem_nil, or_false] at unreached
    rcases unreached with rfl | rfl | rfl | rfl <;> decide
  | interpreter _ _ ih => exact ih
  | _ => decide

/-! ### Several candidates -/

/-- Which of several files is started: the first one that can be. -/
inductive Chosen (files : FileSystem) (place : WorkingDirectory) (words : List String) :
    List String → String → List String → Prop
  | first {path : String} {others started : List String}
      (starts : Starts files place interpreterDepth path words started) :
      Chosen files place words (path :: others) path started
  | later {path chosen : String} {others started : List String} {errno : Errno}
      (fails : Fails files place interpreterDepth path errno)
      (onward : Chosen files place words others chosen started) :
      Chosen files place words (path :: others) chosen started

/-- Why none of several files can be started: a reason for each of them. -/
inductive Refused (files : FileSystem) (place : WorkingDirectory) : List String → List Errno → Prop
  | none : Refused files place [] []
  | also {path : String} {others : List String} {errno : Errno} {reasons : List Errno}
      (fails : Fails files place interpreterDepth path errno) (onward : Refused files place others reasons) :
      Refused files place (path :: others) (errno :: reasons)

/-- The reason that is told of several: the first that says more than that nothing is there, else the
last. -/
def told (reasons : List Errno) : Errno :=
  (reasons.find? fun errno => !saysMissing errno).getD (reasons.getLastD .noEntry)

variable {paths : List String} {reasons : List Errno} {chosen : String}

theorem told_cons_cons (first second : Errno) (others : List Errno) :
    told (first :: second :: others) = told ((if saysMissing first then second else first) :: others) := by
  unfold told
  cases missing : saysMissing first with
  | true => simp only [List.find?_cons, missing, Bool.not_true, if_true, List.getLastD_cons]
  | false => simp [missing]

/-- What is told is the reason of one of them. -/
theorem told_mem (some : reasons ≠ []) : told reasons ∈ reasons := by
  unfold told
  cases found : reasons.find? fun errno => !saysMissing errno with
  | some errno => exact List.mem_of_find?_eq_some found
  | none =>
    rw [Option.getD_none, List.getLastD_eq_getLast?, List.getLast?_eq_some_getLast some]
    exact List.getLast_mem some

theorem Refused.told_mem_unstarted (refused : Refused files place paths reasons) :
    told reasons ∈ unstarted := by
  have each : ∀ errno ∈ reasons, errno ∈ unstarted := by
    induction refused with
    | none => exact nofun
    | also fails _ ih => exact List.forall_mem_cons.2 ⟨fails.mem_unstarted, ih⟩
  cases reasons with
  | nil => decide
  | cons first others => exact each _ (told_mem nofun)

theorem Chosen.startFirst (chosen : Chosen files place words paths path started) (reason : Errno) :
    startFirst files place words reason paths = .ok started := by
  induction chosen generalizing reason with
  | first starts => rw [Process.startFirst, starts.start]
  | later fails _ ih =>
    rw [Process.startFirst, fails.start]
    exact ih _

theorem Refused.startFirst (refused : Refused files place paths reasons) (words : List String)
    (reason : Errno) :
    startFirst files place words reason paths = .error (told (reason :: reasons)) := by
  induction refused generalizing reason with
  | none =>
    have same : told [reason] = reason := by
      unfold told
      cases missing : saysMissing reason <;> simp [missing]
    rw [same]
    rfl
  | also fails _ ih =>
    rw [Process.startFirst, fails.start, told_cons_cons]
    exact ih _

/-- What is chosen can be started. -/
theorem Chosen.starts (chosen : Chosen files place words paths path started) :
    Starts files place interpreterDepth path words started := by
  induction chosen with
  | first starts => exact starts
  | later _ _ ih => exact ih

theorem chosen_or_refused (files : FileSystem) (place : WorkingDirectory) (words paths : List String) :
    (∃ path started, Chosen files place words paths path started) ∨
      ∃ reasons, Refused files place paths reasons := by
  induction paths with
  | nil => exact .inr ⟨[], .none⟩
  | cons path others ih =>
    rcases starts_or_fails files place interpreterDepth path words with ⟨started, starts⟩ | ⟨errno, fails⟩
    · exact .inl ⟨path, started, .first starts⟩
    rcases ih with ⟨chosen, started, onward⟩ | ⟨reasons, refused⟩
    · exact .inl ⟨chosen, started, .later fails onward⟩
    · exact .inr ⟨errno :: reasons, .also fails refused⟩

theorem chosen_cons_iff {first : String} :
    Chosen files place words (first :: paths) path started ↔
      (path = first ∧ Starts files place interpreterDepth first words started) ∨
        ((∃ errno, Fails files place interpreterDepth first errno) ∧
          Chosen files place words paths path started) := by
  constructor
  · intro chosen
    cases chosen with
    | first starts => exact .inl ⟨rfl, starts⟩
    | later fails onward => exact .inr ⟨⟨_, fails⟩, onward⟩
  · rintro (⟨rfl, starts⟩ | ⟨⟨_, fails⟩, onward⟩)
    · exact .first starts
    · exact .later fails onward

/-- Files that cannot be started are passed over. -/
theorem chosen_append_iff {before : List String}
    (fail : ∀ path ∈ before, ∃ errno, Fails files place interpreterDepth path errno) :
    Chosen files place words (before ++ paths) path started ↔ Chosen files place words paths path started := by
  induction before with
  | nil => rfl
  | cons first others ih =>
    obtain ⟨⟨errno, fails⟩, more⟩ := List.forall_mem_cons.1 fail
    rw [List.cons_append, chosen_cons_iff, ih more]
    refine ⟨fun either => ?_, fun onward => .inr ⟨⟨errno, fails⟩, onward⟩⟩
    rcases either with ⟨_, starts⟩ | ⟨_, onward⟩
    · exact absurd fails starts.not_fails
    · exact onward

theorem Chosen.launch {searchPath program : String}
    (chosen : Chosen files place words (candidates searchPath program) path started) :
    Process.launch files place searchPath program words = .ok started :=
  chosen.startFirst .noEntry

theorem Refused.launch {searchPath program : String}
    (refused : Refused files place (candidates searchPath program) reasons) (words : List String) :
    Process.launch files place searchPath program words = .error (told reasons) := by
  have ended : Process.launch files place searchPath program words = .error (told (.noEntry :: reasons)) :=
    refused.startFirst words .noEntry
  rw [ended]
  cases reasons with
  | nil => rfl
  | cons first others => rw [told_cons_cons, if_pos (by decide)]

end Process

end Bookbinder

/-! ### The look for a program beside its start -/

namespace Bookbinder

namespace Process

variable {files : FileSystem} {place : WorkingDirectory} {searchPath program path : String}

theorem holdsNul_of_mem_searchDirectories (clean : holdsNul searchPath = false) {directory : String}
    (member : directory ∈ searchDirectories searchPath) : holdsNul directory = false := by
  obtain ⟨part, among, rfl⟩ := List.mem_map.1 member
  simp only [holdsNul, List.contains_eq_mem, decide_eq_false_iff_not, String.toList_ofList] at clean ⊢
  exact fun within => clean (Text.mem_of_mem_splitOn among within)

theorem clean_of_mem_candidates (clean : holdsNul searchPath = false) (named : holdsNul program = false)
    (member : path ∈ candidates searchPath program) : holdsNul path = false := by
  unfold candidates at member
  split at member
  · rwa [List.mem_singleton.1 member]
  · obtain ⟨directory, among, rfl⟩ := List.mem_map.1 member
    exact holdsNul_join (holdsNul_of_mem_searchDirectories clean among) named

theorem holdsNul_of_mem_candidates (unclean : holdsNul program = true)
    (member : path ∈ candidates searchPath program) : holdsNul path = true := by
  unfold candidates at member
  split at member
  · rwa [List.mem_singleton.1 member]
  · obtain ⟨directory, _, rfl⟩ := List.mem_map.1 member
    exact holdsNul_join_of_name unclean directory

/-- What may not be executed cannot be started. -/
theorem fails_of_isProgram (no : isProgram files place path = false) (clean : holdsNul path = false)
    (depth : Nat) : ∃ errno, Fails files place depth path errno := by
  unfold isProgram at no
  unfold holdsNul at clean
  rw [clean, Bool.not_false, Bool.true_and] at no
  cases status : files.status place path with
  | error errno => exact ⟨errno, .missed status⟩
  | ok found =>
    rw [status] at no
    cases found with
    | directory => exact ⟨_, .directory status⟩
    | sink => exact ⟨_, .sink status⟩
    | shell => cases no
    | file content => exact ⟨_, .barred status no⟩

/-- What stands before the file that is found, none of which can be started. -/
theorem before_of_which (clean : holdsNul searchPath = false)
    (found : which files place searchPath program = some path) :
    holdsNul program = false ∧ ∃ before after, candidates searchPath program = before ++ path :: after ∧
      ∀ other ∈ before, ∃ errno, Fails files place interpreterDepth other errno := by
  unfold which at found
  split at found
  · cases found
  obtain ⟨is, before, after, parts, not⟩ := List.find?_eq_some_iff_append.1 found
  have member : path ∈ candidates searchPath program := by
    rw [parts]
    exact List.mem_append_right _ List.mem_cons_self
  have named : holdsNul program = false := by
    refine Bool.eq_false_iff.2 fun unclean => ?_
    have also := holdsNul_of_mem_candidates unclean member
    rw [isProgram, Bool.and_eq_true] at is
    unfold holdsNul at also
    rw [also] at is
    cases is.1
  refine ⟨named, before, after, parts, fun other among => ?_⟩
  have candidate : other ∈ candidates searchPath program := by
    rw [parts]
    exact List.mem_append_left _ among
  exact fails_of_isProgram (by simpa using not other among)
    (clean_of_mem_candidates clean named candidate) interpreterDepth

end Process

end Bookbinder
