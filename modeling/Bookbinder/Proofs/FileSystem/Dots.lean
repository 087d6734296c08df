import Bookbinder.Proofs.FileSystem.Children

/-!
Dots in paths. Main statements: a dot that names follow changes nothing about where a path leads, and a path
that is written after a dot leads where that of the directory leads on to; unless it ends in a dot or a slash,
which ask for a directory.
-/

set_option autoImplicit false

namespace Bookbinder

open FileSystem (mostLinks pathLimit components)

/-- The same names, but for dots that more names follow. -/
inductive Undots : List String → List String → Prop
  | nil : Undots [] []
  | name {first second : List String} (name : String) (rest : Undots first second) :
      Undots (name :: first) (name :: second)
  | dot {first second : List String} (rest : Undots first second) (some : second ≠ []) :
      Undots ("." :: first) second

namespace Undots

variable {first second : List String}

theorem eq_nil_iff (undots : Undots first second) : first = [] ↔ second = [] := by
  cases undots with
  | nil => rfl
  | name name rest => exact ⟨nofun, nofun⟩
  | dot rest some => exact ⟨nofun, fun none => absurd none some⟩

theorem refl (names : List String) : Undots names names := by
  induction names with
  | nil => exact .nil
  | cons name _ ih => exact .name name ih

theorem append_left (undots : Undots first second) (before : List String) :
    Undots (before ++ first) (before ++ second) := by
  induction before with
  | nil => exact undots
  | cons name _ ih => exact .name name ih

/-- All dots may go if a name follows them. -/
theorem filter_append (names : List String) {more : List String} (some : more ≠ []) :
    Undots (names ++ more) (names.filter (· != ".") ++ more) := by
  induction names with
  | nil => exact .refl more
  | cons name rest ih =>
    by_cases same : name = "."
    · subst same
      exact .dot ih (by simp [some])
    · rw [List.filter_cons_of_pos (by simpa using same)]
      exact .name name ih

theorem filter_of_getLast? {names : List String} (last : names.getLast? ≠ some ".") :
    Undots names (names.filter (· != ".")) := by
  rcases List.eq_nil_or_concat names with rfl | ⟨before, name, rfl⟩
  · exact .nil
  · have other : name ≠ "." := by simpa using last
    have rest := filter_append before (List.cons_ne_nil name [])
    simpa [other] using rest

/-- How two walks end that differ in such dots: in the same way, with the same difference in the names that
are left after a link. -/
def Alike : Walk → Walk → Prop
  | .link target directory rest, .link other place more =>
    target = other ∧ directory = place ∧ Undots rest more
  | ends, other => ends = other

theorem walk (undots : Undots first second) (files : FileSystem) (follow : Bool) (start : Spot) :
    Alike (files.walk follow start first) (files.walk follow start second) := by
  induction undots generalizing start with
  | nil => rfl
  | @name first second name rest ih =>
    have none : first.isEmpty = second.isEmpty := by
      rw [Bool.eq_iff_iff, List.isEmpty_iff, List.isEmpty_iff, rest.eq_nil_iff]
    rw [FileSystem.walk, FileSystem.walk, none]
    split
    · rfl
    split
    · exact ih start
    split
    · exact ih start.dropLast
    split
    · rfl
    split
    · split <;> rfl
    · split
      · rfl
      · exact ⟨rfl, rfl, rest⟩
    · exact ih (start ++ [name])
  | @dot first second rest some ih =>
    rw [FileSystem.walk]
    split
    · next closed =>
      -- the name after the dot is refused for the same reason
      obtain ⟨name, more, rfl⟩ := List.exists_cons_of_ne_nil some
      rw [FileSystem.walk, if_pos closed]
      rfl
    · rw [if_pos rfl]
      exact ih start

theorem alike_cases {one other : Walk} (alike : Alike one other) :
    one = other ∨ ∃ target directory rest more, one = .link target directory rest ∧
      other = .link target directory more ∧ Undots rest more := by
  cases one with
  | link target directory rest =>
    cases other with
    | link =>
      obtain ⟨rfl, rfl, less⟩ := alike
      exact .inr ⟨_, _, _, _, rfl, rfl, less⟩
    | arrived | refused => exact .inl alike
  | arrived | refused => exact .inl alike

theorem walkOn (undots : Undots first second) (files : FileSystem) (follow : Bool) (budget : Nat)
    (start : Spot) : files.walkOn follow budget start first = files.walkOn follow budget start second := by
  induction budget generalizing start first second with
  | zero =>
    rw [FileSystem.walkOn, FileSystem.walkOn]
    rcases alike_cases (undots.walk files follow start) with
      same | ⟨target, directory, rest, more, one, other, less⟩
    · rw [same]
    · rw [one, other]
  | succ budget ih =>
    rw [FileSystem.walkOn, FileSystem.walkOn]
    rcases alike_cases (undots.walk files follow start) with
      same | ⟨target, directory, rest, more, one, other, less⟩
    · rw [same]
    · rw [one, other]
      exact ih (less.append_left _) _

end Undots

theorem Text.eq_of_mem_joinWith {α : Type} {separator : α} {parts : List (List α)}
    (empty : ∀ part ∈ parts, part = []) : ∀ c ∈ Text.joinWith [separator] parts, c = separator := by
  induction parts with
  | nil => exact nofun
  | cons part more ih =>
    obtain ⟨rfl, others⟩ := List.forall_mem_cons.1 empty
    cases more with
    | nil => exact nofun
    | cons next rest =>
      intro c member
      rcases List.mem_cons.1 member with same | later
      · exact same
      · exact ih others c later

namespace FileSystem

variable {files : FileSystem} {cwd place : WorkingDirectory}

/-- With fewer links to follow a walk ends as with more, unless there were too many. -/
theorem walkOn_fewer (files : FileSystem) (follow : Bool) {budget more : Nat} (fits : budget ≤ more)
    (start : Spot) (names : List String) :
    files.walkOn follow budget start names = files.walkOn follow more start names ∨
      files.walkOn follow budget start names = .error .tooManyLinks := by
  fun_induction FileSystem.walkOn files follow budget start names generalizing more with
  | case1 _ _ _ _ walked => exact .inl (walkOn_of_arrived more walked).symm
  | case2 _ _ _ _ walked => exact .inl (walkOn_of_refused more walked).symm
  | case3 => exact .inr rfl
  | case4 start names target directory rest walked budget =>
    rename_i ih
    obtain ⟨more, rfl⟩ := Nat.exists_eq_add_of_le' (Nat.le_trans (Nat.le_add_left 1 budget) fits)
    have longer : files.walkOn follow (more + 1) start names =
        files.walkOn follow more (if target.toList.head? = some '/' then [] else directory)
          (components target ++ rest) := by
      rw [walkOn, walked]
    rw [longer]
    exact ih (Nat.le_of_succ_le_succ fits)

/-- A name written after a dot and a slash. -/
theorem components_dotSlash {name : String} (some : name ≠ "") :
    components ("./" ++ name) = "." :: components name := by
  have chars : name.toList ≠ [] := fun none => some (String.toList_inj.1 none)
  have split : Text.splitOn '/' ("./" ++ name).toList = ['.'] :: Text.splitOn '/' name.toList := by
    rw [String.toList_append]
    exact @Text.splitOn_append_separator Char _ '/' ['.'] (by decide) name.toList
  have last : ("./" ++ name).toList.getLast? = name.toList.getLast? := by
    rw [String.toList_append, List.getLast?_append, List.getLast?_eq_some_getLast chars]
    rfl
  simp only [components, split, last, List.map_cons]
  rfl

theorem filter_components (name : String) :
    (components name).filter (· != ".") = Path.namesOf name.toList := by
  have dot : (if name.toList.getLast? = some '/' then ["."] else []).filter (· != ".") = [] := by
    split <;> rfl
  rw [components, List.filter_append, dot, List.append_nil, List.filter_filter, Path.namesOf]
  simp only [Bool.and_comm]

/-- Whether a path ends in a dot or a slash. -/
def AsksDirectory (name : String) : Prop := (components name).getLast? = some "."

instance (name : String) : Decidable (AsksDirectory name) :=
  inferInstanceAs (Decidable ((components name).getLast? = some "."))

theorem components_ne_nil {name : String} (some : name ≠ "") : components name ≠ [] := by
  intro none
  obtain ⟨parts, last⟩ := List.append_eq_nil_iff.1 none
  have chars : name.toList ≠ [] := fun none => some (String.toList_inj.1 none)
  -- what has no names consists of slashes, and ends in one
  have empty : ∀ part ∈ Text.splitOn '/' name.toList, part = [] := by
    intro part member
    have gone := List.filter_eq_nil_iff.1 parts (String.ofList part) (List.mem_map_of_mem member)
    rw [bne_iff_ne, ne_eq, Decidable.not_not] at gone
    rw [← String.toList_ofList (l := part), gone]
    rfl
  have slashes : ∀ c ∈ name.toList, c = '/' := by
    rw [← Text.joinWith_splitOn '/' name.toList]
    exact Text.eq_of_mem_joinWith empty
  rw [List.getLast?_eq_some_getLast chars, slashes _ (List.getLast_mem chars), if_pos rfl] at last
  cases last

theorem undots_components {name : String} (some : name ≠ "") :
    Undots ("." :: components name)
      (Path.namesOf name.toList ++ if AsksDirectory name then ["."] else []) := by
  rw [← filter_components]
  by_cases asks : AsksDirectory name
  · rcases List.eq_nil_or_concat (components name) with none | ⟨before, last, parts⟩
    · exact absurd none (components_ne_nil some)
    · have dot : last = "." := by
        rw [AsksDirectory, parts, List.concat_eq_append, List.getLast?_concat] at asks
        exact Option.some.inj asks
      have rest := Undots.filter_append ("." :: before) (List.cons_ne_nil "." [])
      rw [if_pos asks, parts, dot]
      simpa using rest
  · have rest := Undots.filter_of_getLast? asks
    rw [if_neg asks, List.append_nil]
    exact .dot rest fun none => components_ne_nil some (rest.eq_nil_iff.2 none)

/-- A walk that a final dot is added to comes to directories only. -/
theorem walkOn_dot {names : List String} {budget : Nat} {start spot : Spot} :
    files.walkOn true budget start (names ++ ["."]) = .ok (.occupied spot) ↔
      files.isDirectory spot = true ∧ files.walkOn true budget start names = .ok (.occupied spot) := by
  rcases walkOn_append files budget start names with ⟨other, left, arrived, _, onward⟩ | ⟨never, onward⟩
  · rw [onward true ["."] (List.cons_ne_nil _ _), arrived]
    cases directory : files.isDirectory other with
    | false =>
      have refused : files.walk true other ["."] = .refused .notDirectory := by simp [walk, directory]
      rw [walkOn_of_refused left refused]
      constructor
      · intro arrives
        cases arrives
      · intro both
        obtain ⟨there, same⟩ := both
        cases same
        rw [directory] at there
        cases there
    | true =>
      have stays : files.walk true other ["."] = .arrived (.occupied other) := by simp [walk, directory]
      rw [walkOn_of_arrived left stays]
      constructor
      · intro same
        cases same
        exact ⟨directory, rfl⟩
      · intro both
        exact both.2
  · obtain ⟨errno, refused⟩ := onward true ["."] (List.cons_ne_nil _ _)
    rw [refused]
    constructor
    · intro arrives
      cases arrives
    · intro both
      exact absurd both.2 (never spot)

variable {name : String}

/-- Where a name leads that is written after a dot and a slash. -/
theorem locate_dotSlash (some : name ≠ "") (short : ("./" ++ name).utf8ByteSize < pathLimit)
    (alive : files.isAlive place = true) :
    files.locate place true ("./" ++ name) = files.walkOn true mostLinks place.spot
      (Path.namesOf name.toList ++ if AsksDirectory name then ["."] else []) := by
  have chars : ("./" ++ name).toList = '.' :: '/' :: name.toList := by
    rw [String.toList_append]
    rfl
  have written : "./" ++ name ≠ "" := by
    intro empty
    rw [empty] at chars
    cases chars
  have relative : ("./" ++ name).toList.head? ≠ Option.some '/' := by
    rw [chars]
    exact fun same => absurd (Option.some.inj same) (by decide)
  rw [locate, if_neg written, if_neg (Nat.not_le_of_lt short), if_neg relative, if_pos alive,
    components_dotSlash some]
  exact (undots_components some).walkOn files true mostLinks place.spot

end FileSystem

/-- The path of a name inside of a directory, where a slash at its beginning does not count. -/
def Path.below (directory : Path) (name : String) : Path where
  anchor := directory.anchor
  names := directory.names ++ namesOf name.toList
  all_isName := fun part member =>
    (List.mem_append.1 member).elim (directory.all_isName part) isName_of_mem_namesOf

/-- A relative name leads into the directory, and any other one leaves it out. -/
theorem Path.child_eq (directory : Path) (name : String) :
    directory.child name = if (parse name).isAbsolute then parse name else directory.below name := by
  unfold child join
  cases anchor : (parse name).anchor with
  | here => simp only [isAbsolute, anchor, bne_self_eq_false, Bool.false_eq_true, if_false]; rfl
  | root | doubleRoot => simp only [isAbsolute, anchor]; rfl

namespace FileSystem

variable {files : FileSystem} {cwd place : WorkingDirectory} {directory : Path} {name : String}

theorem locate_text_below (short : (directory.below name).text.utf8ByteSize < pathLimit)
    (entered : files.enter cwd directory.text = .ok place) (alive : files.isAlive place = true) :
    ∃ left, left ≤ mostLinks ∧ files.locate cwd true (directory.below name).text =
      files.walkOn true left place.spot (Path.namesOf name.toList) := by
  by_cases none : Path.namesOf name.toList = []
  · have same : directory.below name = directory := by
      obtain ⟨anchor, names, valid⟩ := directory
      simp only [Path.below, none, List.append_nil]
    rw [same, (locate_of_enter alive entered).1, none]
    exact ⟨mostLinks, Nat.le_refl _, (walkOn_of_arrived mostLinks rfl).symm⟩
  · obtain ⟨left, fits, leads⟩ := @locate_further files cwd place directory (directory.below name) _ rfl rfl none
      short entered alive
    exact ⟨left, fits, leads true⟩

/-- A name after a dot and a slash leads to where a target leads; with a dot or a slash at its end, only to a
directory. -/
structure MeansTarget (files : FileSystem) (place : WorkingDirectory) (name : String) (cwd : WorkingDirectory)
    (target : Path) : Prop where
  same : ¬AsksDirectory name →
    files.locate place true ("./" ++ name) = files.locate cwd true target.text
  directory : AsksDirectory name → ∀ spot, files.locate place true ("./" ++ name) = .ok (.occupied spot) ↔
    files.isDirectory spot = true ∧ files.locate cwd true target.text = .ok (.occupied spot)

/-- From a directory it means the path of the name inside of that directory, unless there are too many links on
that path. -/
theorem meansTarget_below (some : name ≠ "") (short : ("./" ++ name).utf8ByteSize < pathLimit)
    (also : (directory.below name).text.utf8ByteSize < pathLimit)
    (entered : files.enter cwd directory.text = .ok place) (alive : files.isAlive place = true)
    (few : files.locate cwd true (directory.below name).text ≠ .error .tooManyLinks) :
    files.MeansTarget place name cwd (directory.below name) := by
  obtain ⟨left, fits, below⟩ := locate_text_below also entered alive
  have same := (walkOn_fewer files true fits place.spot (Path.namesOf name.toList)).resolve_right
    fun many => few (below.trans many)
  constructor
  · intro plain
    rw [locate_dotSlash some short alive, below, same, if_neg plain, List.append_nil]
  · intro asks spot
    rw [locate_dotSlash some short alive, below, same, if_pos asks, walkOn_dot]

end FileSystem

end Bookbinder
