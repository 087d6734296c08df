import Bookbinder.FileSystem.Operations

/-!
Walks along names in a file system that changes. Where a walk leads is a matter of what kind of entry
stands where, so only few changes of files can turn it. Main statements: a walk along more names is a
walk along the first ones and then along the rest; a new entry turns only the walks that ended where it
was made; an entry that is taken away turns only those that passed it.
-/

set_option autoImplicit false

namespace Bookbinder.FileSystem

/-- What a walk can tell of an entry. -/
inductive Sign where
  | directory
  | link (target : String)
  | leaf
  deriving DecidableEq

def Sign.ofEntry : Entry → Sign
  | .directory _ _ => .directory
  | .symlink target => .link target
  | .file _ | .shell | .sink => .leaf

def signAt? (files : FileSystem) (spot : Spot) : Option Sign :=
  (files.entryAt? spot).map Sign.ofEntry

attribute [local simp] walk walkOn

theorem isDirectory_eq_true_iff (files : FileSystem) (spot : Spot) :
    files.isDirectory spot = true ↔ files.signAt? spot = some .directory := by
  unfold isDirectory signAt?
  cases files.entryAt? spot with
  | none => simp
  | some entry => cases entry <;> simp [Sign.ofEntry]

theorem isDirectory_of_isAlive {files : FileSystem} {place : WorkingDirectory}
    (alive : files.isAlive place = true) : files.isDirectory place.spot = true := by
  unfold isAlive at alive
  split at alive
  · next entry => simp only [isDirectory, entry]
  · cases alive

theorem signAt?_eq_none_iff (files : FileSystem) (spot : Spot) :
    files.signAt? spot = none ↔ files.entryAt? spot = none := by
  simp [signAt?]

theorem signAt?_eq_link_iff (files : FileSystem) (spot : Spot) (target : String) :
    files.signAt? spot = some (.link target) ↔ files.entryAt? spot = some (.symlink target) := by
  unfold signAt?
  cases files.entryAt? spot with
  | none => simp
  | some entry => cases entry <;> simp [Sign.ofEntry]

/-- One step of a walk down, by what stands at the next spot. -/
theorem walk_down {files : FileSystem} {start : Spot} {name : String} (follow : Bool)
    (rest : List String) (directory : files.isDirectory start = true) (notDot : name ≠ ".")
    (notUp : name ≠ "..") (short : name.utf8ByteSize ≤ longestName) :
    files.walk follow start (name :: rest) =
      match files.signAt? (start ++ [name]) with
      | none => if rest.isEmpty then .arrived (.vacant start name) else .refused .noEntry
      | some (.link target) =>
        if rest.isEmpty && !follow then .arrived (.occupied (start ++ [name]))
        else .link target start rest
      | some _ => files.walk follow (start ++ [name]) rest := by
  rw [walk]
  simp only [directory, notDot, notUp, Nat.not_lt_of_le short, Bool.not_true, Bool.false_eq_true,
    if_false, signAt?]
  cases files.entryAt? (start ++ [name]) with
  | none => rfl
  | some entry => cases entry <;> rfl

section

variable {files after : FileSystem}

theorem isDirectory_congr (same : ∀ spot, after.signAt? spot = files.signAt? spot) (spot : Spot) :
    after.isDirectory spot = files.isDirectory spot := by
  rw [Bool.eq_iff_iff, isDirectory_eq_true_iff, isDirectory_eq_true_iff, same]

theorem walk_congr (same : ∀ spot, after.signAt? spot = files.signAt? spot) (follow : Bool)
    (start : Spot) (names : List String) :
    after.walk follow start names = files.walk follow start names := by
  induction names generalizing start with
  | nil => rfl
  | cons name rest ih =>
    have directories := isDirectory_congr same start
    cases directory : files.isDirectory start with
    | false =>
      rw [directory] at directories
      rw [walk, walk]
      simp [directory, directories]
    | true =>
      rw [directory] at directories
      by_cases notDot : name = "."
      · rw [walk, walk]
        simp [directory, directories, notDot, ih]
      by_cases notUp : name = ".."
      · rw [walk, walk]
        simp [directory, directories, notUp, ih]
      by_cases short : name.utf8ByteSize ≤ longestName
      · rw [walk_down follow rest directories notDot notUp short,
          walk_down follow rest directory notDot notUp short, same, ih]
      · rw [walk, walk]
        simp [directory, directories, notDot, notUp, Nat.lt_of_not_le short]

theorem walkOn_congr (same : ∀ spot, after.signAt? spot = files.signAt? spot) (follow : Bool)
    (budget : Nat) (start : Spot) (names : List String) :
    after.walkOn follow budget start names = files.walkOn follow budget start names := by
  induction budget generalizing start names with
  | zero => rw [walkOn, walkOn, walk_congr same]
  | succ budget ih =>
    rw [walkOn, walkOn, walk_congr same]
    cases files.walk follow start names with
    | arrived location => rfl
    | link target directory rest => exact ih _ _
    | refused errno => rfl

end

/-! ### Walks along more names -/

/-- A walk along more names goes along the first ones, follows a link at their end, and goes on. -/
theorem walk_append (files : FileSystem) (follow : Bool) (start : Spot) (names : List String)
    {more : List String} (some : more ≠ []) :
    files.walk follow start (names ++ more) =
      match files.walk true start names with
      | .arrived (.occupied spot) => files.walk follow spot more
      | .arrived _ => .refused .noEntry
      | .link target directory rest => .link target directory (rest ++ more)
      | .refused errno => .refused errno := by
  fun_induction walk files true start names with
  | case8 => simp at *
  | case1 => simp
  | case10 spot name rest directory notDot notUp short entry plain present ih =>
    cases entry with
    | symlink target => exact absurd rfl (plain target)
    | _ => simp [directory, notDot, notUp, short, present, ih]
  | _ => simp [*]

theorem walkOn_of_arrived {files : FileSystem} {follow : Bool} {start : Spot} {names : List String}
    {location : Location} (budget : Nat) (walked : files.walk follow start names = .arrived location) :
    files.walkOn follow budget start names = .ok location := by
  cases budget <;> rw [walkOn, walked]

theorem walkOn_of_refused {files : FileSystem} {follow : Bool} {start : Spot} {names : List String}
    {errno : Errno} (budget : Nat) (walked : files.walk follow start names = .refused errno) :
    files.walkOn follow budget start names = .error errno := by
  cases budget <;> rw [walkOn, walked]

/-- How a walk along some names, links followed, is continued by one along more names. -/
theorem walkOn_append (files : FileSystem) (budget : Nat) (start : Spot) (names : List String) :
    (∃ spot left, files.walkOn true budget start names = .ok (.occupied spot) ∧ left ≤ budget ∧
      ∀ follow more, more ≠ [] →
        files.walkOn follow budget start (names ++ more) = files.walkOn follow left spot more) ∨
    ((∀ spot, files.walkOn true budget start names ≠ .ok (.occupied spot)) ∧
      ∀ follow more, more ≠ [] →
        ∃ errno, files.walkOn follow budget start (names ++ more) = .error errno) := by
  fun_induction walkOn files true budget start names with
  | case1 budget start names location walked =>
    cases location with
    | occupied spot =>
      refine .inl ⟨spot, budget, rfl, Nat.le_refl budget, fun follow more some => ?_⟩
      have longer := walk_append files follow start names some
      rw [walked] at longer
      cases budget <;> rw [walkOn, walkOn, longer]
    | _ =>
      refine .inr ⟨fun spot => by simp, fun follow more some => ⟨.noEntry, ?_⟩⟩
      have longer := walk_append files follow start names some
      rw [walked] at longer
      exact walkOn_of_refused budget longer
  | case2 budget start names errno walked =>
    refine .inr ⟨fun spot => by simp, fun follow more some => ⟨errno, ?_⟩⟩
    have longer := walk_append files follow start names some
    rw [walked] at longer
    exact walkOn_of_refused budget longer
  | case3 start names target directory rest walked =>
    refine .inr ⟨fun spot => by simp, fun follow more some => ⟨.tooManyLinks, ?_⟩⟩
    rw [walkOn, walk_append files follow start names some, walked]
  | case4 start names target directory rest walked budget from_ ih =>
    -- the link is followed in both walks, and the names after it are those of the longer walk
    have longer (follow : Bool) {more : List String} (some : more ≠ []) :
        files.walkOn follow (budget + 1) start (names ++ more) =
          files.walkOn follow budget from_ (components target ++ rest ++ more) := by
      rw [walkOn, walk_append files follow start names some, walked]
      simp only [List.append_assoc]
      rfl
    rcases ih with ⟨spot, left, first, fewer, onward⟩ | ⟨first, onward⟩
    · refine .inl ⟨spot, left, first, Nat.le_succ_of_le fewer, fun follow more some => ?_⟩
      rw [longer follow some, onward follow more some]
    · refine .inr ⟨first, fun follow more some => ?_⟩
      rw [longer follow some]
      exact onward follow more some

/-- More links that may be followed do not turn a walk that came to its end. -/
theorem walkOn_mono {files : FileSystem} {follow : Bool} {budget more : Nat} {start : Spot}
    {names : List String} {location : Location} (fits : budget ≤ more)
    (walked : files.walkOn follow budget start names = .ok location) :
    files.walkOn follow more start names = .ok location := by
  fun_induction walkOn files follow budget start names generalizing more with
  | case1 _ _ _ _ first =>
    cases walked
    exact walkOn_of_arrived more first
  | case2 => cases walked
  | case3 => cases walked
  | case4 start names target directory rest first budget =>
    rename_i ih
    obtain ⟨more, rfl⟩ := Nat.exists_eq_add_of_le' (Nat.le_trans (Nat.le_add_left 1 budget) fits)
    rw [walkOn, first]
    exact ih (by omega) walked

theorem walkOn_unique {files : FileSystem} {follow : Bool} {budget other : Nat} {start : Spot}
    {names : List String} {location place : Location}
    (walked : files.walkOn follow budget start names = .ok location)
    (again : files.walkOn follow other start names = .ok place) : location = place := by
  have first := walkOn_mono (Nat.le_max_left budget other) walked
  rw [walkOn_mono (Nat.le_max_right budget other) again] at first
  cases first
  rfl

/-- Not to follow a link at the end makes a difference only if there is one. -/
theorem walk_nofollow (files : FileSystem) (start : Spot) (names : List String) :
    files.walk false start names = files.walk true start names ∨
      ∃ target directory name, files.walk true start names = .link target directory [] ∧
        files.entryAt? (directory ++ [name]) = some (.symlink target) ∧
        files.walk false start names = .arrived (.occupied (directory ++ [name])) := by
  fun_induction walk files true start names with
  | case8 => simp at *
  | case3 spot rest directory ih =>
    rw [walk, if_neg directory, if_pos rfl]
    exact ih
  | case4 spot rest directory notDot ih =>
    rw [walk, if_neg directory, if_neg notDot, if_pos rfl]
    exact ih
  | case9 spot name rest directory notDot notUp short target present _ =>
    cases rest with
    | nil =>
      refine .inr ⟨target, spot, name, rfl, present, ?_⟩
      simp [directory, notDot, notUp, short, present]
    | cons next more => simp [directory, notDot, notUp, short, present]
  | case10 spot name rest directory notDot notUp short entry plain present ih =>
    cases entry with
    | symlink target => exact absurd rfl (plain target)
    | _ => simpa [walk, directory, notDot, notUp, short, present] using ih
  | _ => simp [*]

/-- A name that is vacant is so with links followed, too. -/
theorem walkOn_vacant_follow {files : FileSystem} {follow : Bool} {budget : Nat}
    {start directory : Spot} {names : List String} {name : String}
    (walked : files.walkOn follow budget start names = .ok (.vacant directory name)) :
    files.walkOn true budget start names = .ok (.vacant directory name) := by
  cases follow with
  | true => exact walked
  | false =>
    induction budget generalizing start names with
    | zero =>
      rw [walkOn] at walked ⊢
      rcases walk_nofollow files start names with same | ⟨_, _, _, _, _, arrived⟩
      · rwa [same] at walked
      · rw [arrived] at walked
        cases walked
    | succ budget ih =>
      rw [walkOn] at walked ⊢
      rcases walk_nofollow files start names with same | ⟨_, _, _, _, _, arrived⟩
      · rw [same] at walked
        cases first : files.walk true start names with
        | link target place rest =>
          rw [first] at walked
          exact ih walked
        | _ => rwa [first] at walked
      · rw [arrived] at walked
        cases walked

/-- Where a walk with links followed comes to an end, one without does. -/
theorem walkOn_nofollow {files : FileSystem} {budget : Nat} {start : Spot} {names : List String}
    {location : Location} (walked : files.walkOn true budget start names = .ok location) :
    files.walkOn false budget start names = .ok location ∨
      ∃ spot, files.walkOn false budget start names = .ok (.occupied spot) := by
  induction budget generalizing start names with
  | zero =>
    rw [walkOn] at walked ⊢
    rcases walk_nofollow files start names with same | ⟨_, _, _, _, _, arrived⟩
    · rw [same]
      exact .inl walked
    · rw [arrived]
      exact .inr ⟨_, rfl⟩
  | succ budget ih =>
    rw [walkOn] at walked ⊢
    rcases walk_nofollow files start names with same | ⟨_, _, _, _, _, arrived⟩
    · rw [same]
      cases first : files.walk true start names with
      | link target place rest =>
        rw [first] at walked
        exact ih walked
      | _ =>
        rw [first] at walked
        exact .inl walked
    · rw [arrived]
      exact .inr ⟨_, rfl⟩

/-! ### One entry more -/

/-- The files with an entry more, at a spot where nothing was. -/
structure Gains (files after : FileSystem) (spot : Spot) (entry : Entry) : Prop where
  vacant : files.entryAt? spot = none
  entryAt? : ∀ other, after.entryAt? other = if spot = other then some entry else files.entryAt? other

/-- Where a walk comes to whose end something new stands at. -/
def arrivalAt (spot : Spot) : Location → Location
  | .vacant directory name =>
    if directory ++ [name] = spot then .occupied spot else .vacant directory name
  | location => location

namespace Gains

variable {files after : FileSystem} {spot : Spot} {entry : Entry}

theorem entryAt?_of_some (gains : Gains files after spot entry) {other : Spot} {held : Entry}
    (present : files.entryAt? other = some held) : after.entryAt? other = some held := by
  rw [gains.entryAt?, if_neg, present]
  rintro rfl
  rw [gains.vacant] at present
  cases present

theorem isDirectory_of_true (gains : Gains files after spot entry) {other : Spot}
    (directory : files.isDirectory other = true) : after.isDirectory other = true := by
  unfold FileSystem.isDirectory at directory ⊢
  split at directory
  · next present => rw [gains.entryAt?_of_some present]
  · cases directory

theorem walk (gains : Gains files after spot entry) (plain : ∀ target, entry ≠ .symlink target)
    (follow : Bool) (start : Spot) (names : List String) :
    (∀ location, files.walk follow start names = .arrived location →
      after.walk follow start names = .arrived (arrivalAt spot location)) ∧
    (∀ target directory rest, files.walk follow start names = .link target directory rest →
      after.walk follow start names = .link target directory rest) := by
  fun_induction FileSystem.walk files follow start names with
  | case1 => simp [arrivalAt]
  | case2 => simp
  | case3 start rest directory ih =>
    have still := gains.isDirectory_of_true (by simpa using directory)
    simpa [FileSystem.walk, still] using ih
  | case4 start rest directory notDot ih =>
    have still := gains.isDirectory_of_true (by simpa using directory)
    simpa [FileSystem.walk, still] using ih
  | case5 => simp
  | case6 start name rest directory notDot notUp short absent last =>
    have still := gains.isDirectory_of_true (by simpa using directory)
    cases rest with
    | cons next more => cases last
    | nil =>
      by_cases here : spot = start ++ [name]
      · have new := gains.entryAt? (start ++ [name])
        rw [if_pos here] at new
        cases entry with
        | symlink target => exact absurd rfl (plain target)
        | _ => simp [still, notDot, notUp, short, new, arrivalAt, here]
      · have same := gains.entryAt? (start ++ [name])
        rw [if_neg here, absent] at same
        simp [still, notDot, notUp, short, same, arrivalAt, Ne.symm here]
  | case7 => simp
  | case8 start name rest directory notDot notUp short target present last =>
    have still := gains.isDirectory_of_true (by simpa using directory)
    simp [still, notDot, notUp, short, gains.entryAt?_of_some present, last, arrivalAt]
  | case9 start name rest directory notDot notUp short target present last =>
    have still := gains.isDirectory_of_true (by simpa using directory)
    simp [still, notDot, notUp, short, gains.entryAt?_of_some present, last]
  | case10 start name rest directory notDot notUp short held leaf present ih =>
    have still := gains.isDirectory_of_true (by simpa using directory)
    cases held with
    | symlink target => exact absurd rfl (leaf target)
    | _ =>
      simpa [FileSystem.walk, still, notDot, notUp, short, gains.entryAt?_of_some present] using ih

theorem walkOn (gains : Gains files after spot entry) (plain : ∀ target, entry ≠ .symlink target)
    {follow : Bool} {budget : Nat} {start : Spot} {names : List String} {location : Location}
    (walked : files.walkOn follow budget start names = .ok location) :
    after.walkOn follow budget start names = .ok (arrivalAt spot location) := by
  fun_induction FileSystem.walkOn files follow budget start names with
  | case1 budget start names place first =>
    cases walked
    exact walkOn_of_arrived budget ((gains.walk plain follow start names).1 _ first)
  | case2 => cases walked
  | case3 => cases walked
  | case4 start names target directory rest first budget from_ ih =>
    rw [FileSystem.walkOn, (gains.walk plain follow start names).2 _ _ _ first]
    exact ih walked

end Gains

/-! ### One entry less -/

/-- The files without the entry at a spot. -/
structure Loses (files after : FileSystem) (spot : Spot) : Prop where
  entryAt? : ∀ other, after.entryAt? other = if other = spot then none else files.entryAt? other

namespace Loses

variable {files after : FileSystem} {spot : Spot}

theorem entryAt?_of_some (loses : Loses files after spot) {other : Spot} {held : Entry}
    (present : after.entryAt? other = some held) : files.entryAt? other = some held := by
  have entry := loses.entryAt? other
  rw [present] at entry
  split at entry
  · cases entry
  · exact entry.symm

theorem isDirectory_of_true (loses : Loses files after spot) {other : Spot}
    (directory : after.isDirectory other = true) : files.isDirectory other = true := by
  unfold FileSystem.isDirectory at directory ⊢
  split at directory
  · next present => rw [loses.entryAt?_of_some present]
  · cases directory

/-- A walk that comes to an end has passed nothing that was taken away. -/
theorem walk (loses : Loses files after spot) (follow : Bool) (start : Spot) (names : List String) :
    (∀ location, after.walk follow start names = .arrived location →
      files.walk follow start names = .arrived location ∨
        ∃ directory name, location = .vacant directory name ∧ directory ++ [name] = spot) ∧
    (∀ target directory rest, after.walk follow start names = .link target directory rest →
      files.walk follow start names = .link target directory rest) := by
  fun_induction FileSystem.walk after follow start names with
  | case1 => simp [FileSystem.walk]
  | case2 => simp
  | case3 start rest directory ih =>
    have before := loses.isDirectory_of_true (by simpa using directory)
    simpa [FileSystem.walk, before] using ih
  | case4 start rest directory notDot ih =>
    have before := loses.isDirectory_of_true (by simpa using directory)
    simpa [FileSystem.walk, before] using ih
  | case5 => simp
  | case6 start name rest directory notDot notUp short absent last =>
    have before := loses.isDirectory_of_true (by simpa using directory)
    have entry := loses.entryAt? (start ++ [name])
    rw [absent] at entry
    by_cases here : start ++ [name] = spot
    · refine ⟨fun location arrived => ?_, nofun⟩
      cases arrived
      exact .inr ⟨start, name, rfl, here⟩
    · rw [if_neg here] at entry
      simp [FileSystem.walk, before, notDot, notUp, short, ← entry, last]
  | case7 => simp
  | case8 start name rest directory notDot notUp short target present last =>
    have before := loses.isDirectory_of_true (by simpa using directory)
    simp [FileSystem.walk, before, notDot, notUp, short, loses.entryAt?_of_some present, last]
  | case9 start name rest directory notDot notUp short target present last =>
    have before := loses.isDirectory_of_true (by simpa using directory)
    simp [FileSystem.walk, before, notDot, notUp, short, loses.entryAt?_of_some present, last]
  | case10 start name rest directory notDot notUp short held leaf present ih =>
    have before := loses.isDirectory_of_true (by simpa using directory)
    cases held with
    | symlink target => exact absurd rfl (leaf target)
    | _ =>
      simpa [FileSystem.walk, before, notDot, notUp, short, loses.entryAt?_of_some present] using ih

theorem walkOn (loses : Loses files after spot) {follow : Bool} {budget : Nat} {start : Spot}
    {names : List String} {location : Location}
    (walked : after.walkOn follow budget start names = .ok location) :
    files.walkOn follow budget start names = .ok location ∨
      ∃ directory name, location = .vacant directory name ∧ directory ++ [name] = spot := by
  fun_induction FileSystem.walkOn after follow budget start names with
  | case1 budget start names place first =>
    cases walked
    rcases (loses.walk follow start names).1 _ first with same | here
    · exact .inl (walkOn_of_arrived budget same)
    · exact .inr here
  | case2 => cases walked
  | case3 => cases walked
  | case4 start names target directory rest first budget from_ ih =>
    rw [FileSystem.walkOn, (loses.walk follow start names).2 _ _ _ first]
    exact ih walked

end Loses

/-! ### Walks in an empty place -/

/-- Nothing is below a spot. -/
def IsBare (files : FileSystem) (spot : Spot) : Prop :=
  ∀ name more, files.entryAt? (spot ++ name :: more) = none

/-- Without steps up, a walk from an empty place stays there. -/
theorem walkOn_of_isBare {files : FileSystem} {spot : Spot} (bare : files.IsBare spot) {follow : Bool}
    {budget : Nat} {names : List String} {location : Location} (down : ".." ∉ names)
    (walked : files.walkOn follow budget spot names = .ok location) :
    location = .occupied spot ∨ ∃ name, location = .vacant spot name := by
  have arrives : (∃ errno, files.walk follow spot names = .refused errno) ∨
      files.walk follow spot names = .arrived (.occupied spot) ∨
        ∃ name, files.walk follow spot names = .arrived (.vacant spot name) := by
    clear walked
    induction names with
    | nil => exact .inr (.inl rfl)
    | cons name rest ih =>
      simp only [List.mem_cons, not_or] at down
      cases directory : files.isDirectory spot with
      | false => simp [directory]
      | true =>
        by_cases dot : name = "."
        · simpa [walk, directory, dot] using ih down.2
        by_cases short : name.utf8ByteSize ≤ longestName
        · have absent := (signAt?_eq_none_iff files (spot ++ [name])).2 (bare name [])
          rw [walk_down follow rest directory dot (Ne.symm down.1) short, absent]
          cases rest <;> simp
        · simp [directory, dot, Ne.symm down.1, Nat.lt_of_not_le short]
  rcases arrives with ⟨errno, refused⟩ | arrived | ⟨name, arrived⟩
  · rw [walkOn_of_refused budget refused] at walked
    cases walked
  · rw [walkOn_of_arrived budget arrived] at walked
    cases walked
    exact .inl rfl
  · rw [walkOn_of_arrived budget arrived] at walked
    cases walked
    exact .inr ⟨name, rfl⟩

/-! ### Vacant names -/

/-- A name that something may be made under. -/
structure Vacancy (files : FileSystem) (directory : Spot) (name : String) : Prop where
  present : files.isDirectory directory = true
  absent : files.entryAt? (directory ++ [name]) = none
  isName : isName name = true
  notUp : name ≠ ".."
  short : name.utf8ByteSize ≤ longestName

/-- What stands between slashes. -/
def IsPart (name : String) : Prop := name ≠ "" ∧ '/' ∉ name.toList

theorem isPart_of_mem_components {path name : String} (member : name ∈ components path) : IsPart name := by
  simp only [components, List.mem_append, List.mem_filter, List.mem_map, bne_iff_ne] at member
  rcases member with ⟨⟨part, inside, rfl⟩, some⟩ | last
  · refine ⟨some, ?_⟩
    rw [String.toList_ofList]
    exact Text.separator_notMem_splitOn inside
  · split at last
    · rw [List.mem_singleton.1 last]
      exact ⟨by decide, by decide⟩
    · cases last

theorem isName_of_isPart {name : String} (part : IsPart name) (notDot : name ≠ ".") :
    isName name = true := by
  simp [isName, part.1, notDot, part.2]

theorem walk_vacant {files : FileSystem} {follow : Bool} {start directory : Spot}
    {names : List String} {name : String} (parts : ∀ name ∈ names, IsPart name)
    (walked : files.walk follow start names = .arrived (.vacant directory name)) :
    files.Vacancy directory name := by
  fun_induction walk files follow start names with
  | case6 start name rest present notDot notUp short absent last =>
    cases walked
    exact ⟨by simpa using present, absent, isName_of_isPart (parts name (by simp)) notDot, notUp,
      by omega⟩
  | case3 start rest directory ih =>
    exact ih (fun name member => parts name (List.mem_cons_of_mem _ member)) walked
  | case4 start rest directory notDot ih =>
    exact ih (fun name member => parts name (List.mem_cons_of_mem _ member)) walked
  | case10 start name rest directory notDot notUp short held leaf present ih =>
    exact ih (fun name member => parts name (List.mem_cons_of_mem _ member)) walked
  | _ => cases walked

/-- The names after a link were among the names of the walk. -/
theorem walk_link_parts {files : FileSystem} {follow : Bool} {start directory : Spot}
    {names rest : List String} {target : String} (parts : ∀ name ∈ names, IsPart name)
    (walked : files.walk follow start names = .link target directory rest) :
    ∀ name ∈ components target ++ rest, IsPart name := by
  have after : ∀ name ∈ rest, name ∈ names := by
    clear parts
    fun_induction walk files follow start names with
    | case3 start names directory ih =>
      exact fun name member => List.mem_cons_of_mem _ (ih walked name member)
    | case4 start names directory notDot ih =>
      exact fun name member => List.mem_cons_of_mem _ (ih walked name member)
    | case9 start name names directory notDot notUp short target present last =>
      cases walked
      exact fun name member => List.mem_cons_of_mem _ member
    | case10 start name names directory notDot notUp short held leaf present ih =>
      exact fun name member => List.mem_cons_of_mem _ (ih walked name member)
    | _ => cases walked
  intro name member
  rcases List.mem_append.1 member with inTarget | inRest
  · exact isPart_of_mem_components inTarget
  · exact parts name (after name inRest)

theorem walkOn_vacant {files : FileSystem} {follow : Bool} {budget : Nat} {start directory : Spot}
    {names : List String} {name : String} (parts : ∀ name ∈ names, IsPart name)
    (walked : files.walkOn follow budget start names = .ok (.vacant directory name)) :
    files.Vacancy directory name := by
  fun_induction walkOn files follow budget start names with
  | case1 _ _ _ _ first =>
    cases walked
    exact walk_vacant parts first
  | case2 => cases walked
  | case3 => cases walked
  | case4 start names target directory rest first budget from_ ih =>
    exact ih (walk_link_parts parts first) walked

/-- A path that is too long leads nowhere in any file system. -/
theorem locate_of_long {path : String} (long : pathLimit ≤ path.utf8ByteSize) (files : FileSystem)
    (cwd : WorkingDirectory) (follow : Bool) : files.locate cwd follow path = .error .nameTooLong := by
  have some : path ≠ "" := by
    rintro rfl
    revert long
    decide
  rw [locate, if_neg some, if_pos long]

end Bookbinder.FileSystem
