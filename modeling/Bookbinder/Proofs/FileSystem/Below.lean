import Bookbinder.Proofs.FileSystem.SpotText

/-!
Paths that start with the text of a directory. Main statements: such a path leads where its other names
lead from that directory, and so does the path that it stands in.
-/

set_option autoImplicit false

namespace Bookbinder.FileSystem

/-- The names of what is written after a directory and a slash. -/
def below (rest : String) : List String :=
  (PathText.parts rest).filter (· != "") ++
    if rest = "" ∨ PathText.endsInSlash rest = true then ["."] else []

theorem eq_slash_of_splitOn (chars : List Char) (empty : ∀ part ∈ Text.splitOn '/' chars, part = []) :
    ∀ c ∈ chars, c = '/' := by
  induction chars with
  | nil => simp
  | cons first rest ih =>
    rw [Text.splitOn] at empty
    split at empty
    · next slash =>
      intro c member
      rcases List.mem_cons.1 member with rfl | later
      · exact slash
      · exact ih (fun part member => empty part (List.mem_cons_of_mem _ member)) c later
    · split at empty
      · exact absurd (empty [first] (by simp)) (by simp)
      · next part parts _ => exact absurd (empty (first :: part) (by simp)) (by simp)

theorem below_ne_nil (rest : String) : below rest ≠ [] := by
  intro none
  rw [below, List.append_eq_nil_iff] at none
  obtain ⟨parts, final⟩ := none
  split at final
  · cases final
  · next unended =>
    rw [not_or] at unended
    rw [List.filter_eq_nil_iff] at parts
    have slashes := eq_slash_of_splitOn rest.toList fun part member => by
      have empty := parts (String.ofList part) (List.mem_map.2 ⟨part, member, rfl⟩)
      simpa using empty
    cases last : rest.toList.getLast? with
    | none =>
      rw [List.getLast?_eq_none_iff] at last
      exact unended.1 (String.toList_inj.1 last)
    | some c =>
      have slash := slashes c (List.mem_of_getLast? last)
      exact unended.2 (by simp [PathText.endsInSlash, last, slash])

theorem below_eq_components {rest : String} (some : rest ≠ "") : below rest = components rest := by
  simp [below, components, PathText.parts, PathText.endsInSlash, some]

theorem isPart_of_mem_below {rest name : String} (member : name ∈ below rest) : IsPart name := by
  by_cases empty : rest = ""
  · have single : below rest = ["."] := by rw [empty]; decide
    rw [single, List.mem_singleton] at member
    rw [member]
    exact ⟨by decide, by decide⟩
  · rw [below_eq_components empty] at member
    exact isPart_of_mem_components member

theorem leads_of_below {files : FileSystem} {region : Spot → Prop} {count : Nat} {start goal : Spot}
    {rest : String} (leads : Leads files region count start (below rest) goal) :
    Leads files region count start (PathText.parts rest) goal := by
  by_cases empty : rest = ""
  · have single : below rest = ["."] := by rw [empty]; decide
    have none : PathText.parts rest = [""] := by rw [empty]; decide
    rw [single] at leads
    rw [none]
    have still : Leads files region 0 start ["."] start := .stay (.inr rfl) (.done start)
    obtain ⟨rfl, rfl⟩ := leads.unique still
    exact .stay (.inl rfl) (.done _)
  · rw [below_eq_components empty] at leads
    exact leads.of_components

theorem components_below {directory : String} (rest : String)
    (plain : PathText.endsInSlash directory = false) :
    components (directory ++ "/" ++ rest) = components directory ++ below rest := by
  have chars : (directory ++ "/" ++ rest).toList = directory.toList ++ '/' :: rest.toList := by simp
  have last : directory.toList.getLast? ≠ Option.some '/' := by
    simpa [PathText.endsInSlash] using plain
  have ends : (directory.toList ++ '/' :: rest.toList).getLast? = Option.some '/' ↔
      rest = "" ∨ PathText.endsInSlash rest = true := by
    by_cases empty : rest = ""
    · simp [empty]
    · cases chars : rest.toList with
      | nil => exact absurd (String.toList_inj.1 chars) empty
      | cons c more =>
        simp [List.getLast?_append, List.getLast?_cons, empty, PathText.endsInSlash, chars]
  rw [components, components, chars, splitOn_append_slash, if_neg last, below, PathText.parts]
  simp only [ends, List.map_append, List.filter_append, List.append_nil, List.append_assoc]

/-- A path with more names than another one leads where these lead from the place of the other. -/
theorem locate_more {files : FileSystem} {cwd : WorkingDirectory} {directory : String} {spot : Spot}
    (here : files.locate cwd true directory = .ok (.occupied spot)) :
    ∃ left, ∀ follow path more, more ≠ [] → components path = components directory ++ more →
      path.toList.head? = directory.toList.head? → path.utf8ByteSize < pathLimit →
      files.locate cwd follow path = files.walkOn follow left spot more := by
  have onward {start : Spot} {names : List String}
      (first : files.walkOn true mostLinks start names = .ok (.occupied spot)) :
      ∃ left, ∀ follow more, more ≠ [] →
        files.walkOn follow mostLinks start (names ++ more) = files.walkOn follow left spot more := by
    rcases walkOn_append files mostLinks start names with ⟨middle, left, first', _, longer⟩ | ⟨none, _⟩
    · rw [first] at first'
      cases first'
      exact ⟨left, longer⟩
    · exact absurd first (none spot)
  have someNames {path : String} {more : List String} (some : more ≠ [])
      (names : components path = components directory ++ more) : path ≠ "" := by
    rintro rfl
    have none : components "" = [] := by decide
    rw [none] at names
    exact some (List.append_eq_nil_iff.1 names.symm).2
  rw [locate] at here
  split at here
  · cases here
  split at here
  · cases here
  simp only at here
  split at here
  · next anchored =>
    obtain ⟨left, walks⟩ := onward here
    refine ⟨left, fun follow path more some names head short => ?_⟩
    rw [locate, if_neg (someNames some names), if_neg (Nat.not_le_of_lt short), if_pos (head.trans anchored), names]
    exact walks follow more some
  next unanchored =>
  split at here
  · next alive =>
    obtain ⟨left, walks⟩ := onward here
    refine ⟨left, fun follow path more some names head short => ?_⟩
    rw [locate, if_neg (someNames some names), if_neg (Nat.not_le_of_lt short),
      if_neg (head ▸ unanchored), if_pos alive, names]
    exact walks follow more some
  · next gone =>
    -- in a directory that is gone only a step up leads somewhere
    split at here
    · cases here
    · next names up =>
      split at here
      · next exists_ =>
        obtain ⟨left, walks⟩ := onward here
        refine ⟨left, fun follow path more some all head short => ?_⟩
        have longer : (components directory ++ more).dropWhile (· = ".") = ".." :: (names ++ more) := by
          rw [List.dropWhile_append, up]
          rfl
        rw [locate, if_neg (someNames some all), if_neg (Nat.not_le_of_lt short),
          if_neg (head ▸ unanchored), if_neg gone, all]
        simp only [longer, exists_, if_true]
        exact walks follow more some
      · cases here
    · cases here

/-- A path below a directory leads where its other names lead from there. -/
theorem locate_below {files : FileSystem} {cwd : WorkingDirectory} {follow : Bool}
    {directory rest : String} {spot : Spot} {location : Location} (some : directory ≠ "")
    (plain : PathText.endsInSlash directory = false)
    (here : files.locate cwd true directory = .ok (.occupied spot))
    (located : files.locate cwd follow (directory ++ "/" ++ rest) = .ok location) :
    ∃ budget, files.walkOn follow budget spot (below rest) = .ok location := by
  have sameHead : (directory ++ "/" ++ rest).toList.head? = directory.toList.head? := by
    cases chars : directory.toList with
    | nil => exact absurd (String.toList_inj.1 chars) some
    | cons c more => simp [chars]
  have short : (directory ++ "/" ++ rest).utf8ByteSize < pathLimit := by
    refine Nat.lt_of_not_le fun long => ?_
    rw [locate_of_long long] at located
    cases located
  obtain ⟨left, walks⟩ := locate_more here
  rw [walks follow _ _ (below_ne_nil rest) (components_below rest plain) sameHead short] at located
  exact ⟨left, located⟩

/-! ### Paths as they are made from a directory and a name -/

/-- Paths of a directory and below it, without slashes at their end, with their names from there. -/
inductive Extends (directory : String) : List String → String → Prop
  | here : Extends directory [] directory
  | below {rest : String} (some : rest ≠ "") (unended : PathText.endsInSlash rest = false) :
      Extends directory (below rest) (directory ++ "/" ++ rest)

theorem below_of_not_endsInSlash {rest : String} (some : rest ≠ "")
    (unended : PathText.endsInSlash rest = false) :
    below rest = (PathText.parts rest).filter (· != "") := by
  simp [FileSystem.below, some, unended]

theorem parts_slash (chars : List Char) :
    (PathText.parts (String.ofList (chars ++ ['/']))).filter (· != "") =
      (PathText.parts (String.ofList chars)).filter (· != "") := by
  simp [PathText.parts, splitOn_append_slash, Text.splitOn]

/-- The path of a name in a directory, without slashes at its end. -/
theorem extends_withoutFinalSlashes {directory : String} (plain : PathText.endsInSlash directory = false)
    (name : String) :
    Extends directory ((PathText.parts name).filter (· != ""))
      (PathText.withoutFinalSlashes (directory ++ "/" ++ name)) := by
  generalize reversed : name.toList.reverse = chars
  induction chars generalizing name with
  | nil =>
    have empty : name = "" := String.toList_inj.1 (by simpa using reversed)
    subst empty
    have trimmed := withoutFinalSlashes_slash directory.toList
    have whole : directory ++ "/" ++ "" = String.ofList (directory.toList ++ ['/']) := by
      rw [← String.toList_inj]
      simp
    rw [String.ofList_toList, withoutFinalSlashes_of_not_endsInSlash plain, ← whole] at trimmed
    rw [trimmed]
    exact .here
  | cons c rest ih =>
    have chars : name = String.ofList (rest.reverse ++ [c]) := by
      rw [← String.toList_inj, String.toList_ofList, ← List.reverse_cons, ← reversed, List.reverse_reverse]
    by_cases slash : c = '/'
    · have shorter := ih (String.ofList rest.reverse) (by simp)
      have whole : directory ++ "/" ++ name =
          String.ofList ((directory ++ "/" ++ String.ofList rest.reverse).toList ++ ['/']) := by
        rw [← String.toList_inj, chars, slash]
        simp
      rw [whole, withoutFinalSlashes_slash, String.ofList_toList, chars, slash, parts_slash]
      exact shorter
    · have some : name ≠ "" := by
        rintro rfl
        simp at reversed
      have unended : PathText.endsInSlash name = false := by
        rw [chars]
        simp [PathText.endsInSlash, slash]
      have unendedWhole : PathText.endsInSlash (directory ++ "/" ++ name) = false := by
        rw [chars]
        simp [PathText.endsInSlash, slash, List.getLast?_append, List.getLast?_cons]
      rw [withoutFinalSlashes_of_not_endsInSlash unendedWhole, ← below_of_not_endsInSlash some unended]
      exact .below some unended

theorem cutAtLastSlash (path : String) :
    '/' ∉ path.toList ∨
      ∃ before last, path = String.ofList (before ++ '/' :: last) ∧ '/' ∉ last := by
  by_cases member : '/' ∈ path.toList
  · obtain ⟨last, before, cut, plain⟩ := List.eq_append_cons_of_mem (List.mem_reverse.2 member)
    refine .inr ⟨before.reverse, last.reverse, ?_, by simpa using plain⟩
    rw [← String.toList_inj, String.toList_ofList, ← List.reverse_reverse path.toList, cut]
    simp
  · exact .inl member

namespace Extends

variable {directory path : String} {names : List String}

theorem eq_of_nil (extends_ : Extends directory [] path) : path = directory := by
  generalize none : ([] : List String) = row at extends_
  cases extends_ with
  | here => rfl
  | @below rest => exact absurd none.symm (below_ne_nil rest)

theorem not_endsInSlash (extends_ : Extends directory names path)
    (plain : PathText.endsInSlash directory = false) : PathText.endsInSlash path = false := by
  cases extends_ with
  | here => exact plain
  | @below rest some unended =>
    cases chars : rest.toList with
    | nil => exact absurd (String.toList_inj.1 chars) some
    | cons c more =>
      simpa [PathText.endsInSlash, List.getLast?_append, List.getLast?_cons, chars] using unended

theorem ne_empty (extends_ : Extends directory names path) (some : directory ≠ "") : path ≠ "" := by
  cases extends_ with
  | here => exact some
  | below => simp

theorem directoryPath_eq (extends_ : Extends directory names path) (some : directory ≠ "")
    (plain : PathText.endsInSlash directory = false) : directoryPath path = path := by
  rw [directoryPath, withoutFinalSlashes_of_not_endsInSlash (extends_.not_endsInSlash plain)]
  simp [extends_.ne_empty some]

/-- What a path below a directory stands in is that directory, or is below it. -/
theorem split (extends_ : Extends directory names path) (deeper : names ≠ []) (some : directory ≠ "")
    (plain : PathText.endsInSlash directory = false) :
    Extends directory names.dropLast (PathText.split path).1 ∧ (PathText.split path).2 ≠ "" := by
  cases extends_ with
  | here => exact absurd rfl deeper
  | @below rest someRest unended =>
    rw [below_of_not_endsInSlash someRest unended]
    rcases cutAtLastSlash rest with noSlash | ⟨before, last, rfl, noSlash⟩
    · have whole : directory ++ "/" ++ rest = String.ofList (directory.toList ++ '/' :: rest.toList) := by
        rw [← String.toList_inj]
        simp
      have parts : (PathText.parts rest).filter (· != "") = [rest] := by
        simp [PathText.parts, Text.splitOn_of_notMem noSlash, someRest]
      rw [whole, split_slash _ noSlash, parts, String.ofList_toList,
        withoutFinalSlashes_of_not_endsInSlash plain, if_neg some, String.ofList_toList]
      exact ⟨.here, someRest⟩
    · have whole : directory ++ "/" ++ String.ofList (before ++ '/' :: last) =
          String.ofList ((directory ++ "/" ++ String.ofList before).toList ++ '/' :: last) := by
        rw [← String.toList_inj]
        simp
      have someLast : String.ofList last ≠ "" := by
        intro empty
        have chars : last = [] := by rw [← String.toList_ofList (l := last), empty]; rfl
        rw [chars] at unended
        simp [PathText.endsInSlash] at unended
      have parts : (PathText.parts (String.ofList (before ++ '/' :: last))).filter (· != "") =
          (PathText.parts (String.ofList before)).filter (· != "") ++ [String.ofList last] := by
        simp [PathText.parts, splitOn_append_slash, Text.splitOn_of_notMem noSlash, someLast]
      have shorter := extends_withoutFinalSlashes plain (String.ofList before)
      have someHead := shorter.ne_empty some
      rw [whole, split_slash _ noSlash, parts, List.dropLast_concat, String.ofList_toList,
        if_neg someHead]
      exact ⟨shorter, someLast⟩

/-- A path below a directory leads where its names lead from there. -/
theorem locate (extends_ : Extends directory names path) {files : FileSystem} {cwd : WorkingDirectory}
    {follow : Bool} {spot : Spot} {location : Location} (some : directory ≠ "")
    (plain : PathText.endsInSlash directory = false)
    (here : ∀ follow, files.locate cwd follow directory = .ok (.occupied spot))
    (located : files.locate cwd follow path = .ok location) :
    ∃ budget, files.walkOn follow budget spot names = .ok location := by
  cases extends_ with
  | here =>
    rw [here] at located
    exact ⟨0, by rw [walkOn, walk]; exact located⟩
  | below => exact locate_below some plain (here true) located

end Extends

/-! ### What is above a place that is reached -/

theorem leadsSomewhere_of_locate {files : FileSystem} {cwd : WorkingDirectory} {path : String}
    {spot : Spot} (located : files.locate cwd true path = .ok (.occupied spot))
    (directory : files.isDirectory spot = true) : files.leadsSomewhere cwd path = true := by
  obtain ⟨serial, mode, present⟩ := entryAt?_of_isDirectory directory
  simp [leadsSomewhere, status, located, statusAt, present, bind, Except.bind, Except.isOk, Except.toBool]

/-- What is above something that is reached leads somewhere. -/
theorem leadsSomewhere_above {files : FileSystem} {cwd : WorkingDirectory} {directory rest : String}
    {location : Location} (some : directory ≠ "") (plain : PathText.endsInSlash directory = false)
    (located : files.locate cwd true (directory ++ "/" ++ rest) = .ok location) :
    files.leadsSomewhere cwd directory = true := by
  have passed {start : Spot} {names : List String}
      (whole : files.walkOn true mostLinks start (names ++ below rest) = .ok location) :
      ∃ spot, files.walkOn true mostLinks start names = .ok (.occupied spot) ∧
        files.isDirectory spot = true := by
    rcases walkOn_append files mostLinks start names with ⟨middle, left, first, _, longer⟩ | ⟨_, refused⟩
    · rw [longer true _ (below_ne_nil rest)] at whole
      exact ⟨middle, first, isDirectory_of_walkOn (below_ne_nil rest) whole⟩
    · obtain ⟨errno, error⟩ := refused true (below rest) (below_ne_nil rest)
      rw [error] at whole
      cases whole
  have someWhole : directory ++ "/" ++ rest ≠ "" := by simp
  have sameHead : (directory ++ "/" ++ rest).toList.head? = directory.toList.head? := by
    cases chars : directory.toList with
    | nil => exact absurd (String.toList_inj.1 chars) some
    | cons c more => simp [chars]
  have shorter : directory.utf8ByteSize ≤ (directory ++ "/" ++ rest).utf8ByteSize := by
    simp only [String.utf8ByteSize_append]
    omega
  rw [locate, if_neg someWhole] at located
  split at located
  · cases located
  next fits =>
  have fits : ¬ directory.utf8ByteSize ≥ pathLimit := by omega
  simp only [components_below rest plain, sameHead] at located
  split at located
  · next anchored =>
    obtain ⟨spot, first, isDirectory⟩ := passed located
    refine leadsSomewhere_of_locate ?_ isDirectory
    rw [locate, if_neg some, if_neg fits]
    simp only [anchored, if_true, first]
  · next unanchored =>
    split at located
    · next alive =>
      obtain ⟨spot, first, isDirectory⟩ := passed located
      refine leadsSomewhere_of_locate ?_ isDirectory
      rw [locate, if_neg some, if_neg fits]
      simp only [unanchored, alive, if_true, if_false, first]
    · next gone =>
      cases up : (components directory).dropWhile (· = ".") with
      | nil =>
        have here : files.locate cwd true directory = .ok .gone := by
          rw [locate, if_neg some, if_neg fits]
          simp [unanchored, gone, up]
        simp [leadsSomewhere, status, here, bind, Except.bind, pure, Except.pure, Except.isOk,
          Except.toBool]
      | cons name names =>
        have longer : (components directory ++ below rest).dropWhile (· = ".") =
            name :: (names ++ below rest) := by
          rw [List.dropWhile_append, up]
          rfl
        rw [longer] at located
        split at located
        · cases ‹name :: (names ++ below rest) = []›
        · next others same =>
          cases same
          split at located
          · next exists_ =>
            obtain ⟨spot, first, isDirectory⟩ := passed located
            refine leadsSomewhere_of_locate ?_ isDirectory
            rw [locate, if_neg some, if_neg fits]
            simp [unanchored, gone, up, exists_, first]
          · cases located
        · cases located

/-- The slashes at the end of a text, and what is before them. -/
theorem cutFinalSlashes (chars : List Char) :
    ∃ above count, chars = above ++ List.replicate count '/' ∧
      PathText.withoutFinalSlashes (String.ofList chars) = String.ofList above ∧
      PathText.endsInSlash (String.ofList above) = false := by
  generalize reversed : chars.reverse = row
  induction row generalizing chars with
  | nil =>
    rw [List.reverse_eq_nil_iff.1 reversed]
    exact ⟨[], 0, rfl, by decide, by decide⟩
  | cons c rest ih =>
    have whole : chars = rest.reverse ++ [c] := by
      rw [← List.reverse_cons, ← reversed, List.reverse_reverse]
    by_cases slash : c = '/'
    · obtain ⟨above, count, cut, same, plain⟩ := ih rest.reverse (List.reverse_reverse rest)
      refine ⟨above, count + 1, ?_, ?_, plain⟩
      · rw [whole, cut, slash, List.append_assoc, ← List.replicate_succ']
      · rw [whole, slash, withoutFinalSlashes_slash, same]
    · have plain : PathText.endsInSlash (String.ofList chars) = false := by
        rw [whole]
        simp [PathText.endsInSlash, slash]
      exact ⟨chars, 0, by simp, withoutFinalSlashes_of_not_endsInSlash plain, plain⟩

/-- Above a name in the root is the root. -/
theorem leadsSomewhere_root {files : FileSystem} {cwd : WorkingDirectory} {count : Nat}
    {last : List Char} {location : Location} (some : last ≠ []) (noSlash : '/' ∉ last)
    (located :
      files.locate cwd true (String.ofList (List.replicate count '/' ++ '/' :: last)) = .ok location) :
    files.leadsSomewhere cwd (String.ofList (List.replicate count '/' ++ ['/'])) = true := by
  have anchored (chars : List Char) : (List.replicate count '/' ++ '/' :: chars).head? = Option.some '/' := by
    cases count <;> simp [List.replicate_succ]
  have none : (Text.splitOn '/' (List.replicate count '/')).map String.ofList =
      List.replicate (count + 1) "" := by
    clear located anchored
    induction count with
    | zero => rfl
    | succ count ih =>
      rw [List.replicate_succ, Text.splitOn, if_pos rfl, List.map_cons, ih]
      rfl
  have whole : String.ofList (List.replicate count '/' ++ '/' :: last) =
      String.ofList (List.replicate count '/' ++ ['/']) ++ String.ofList last := by
    rw [← String.toList_inj]
    simp
  have shorter : (String.ofList (List.replicate count '/' ++ ['/'])).utf8ByteSize ≤
      (String.ofList (List.replicate count '/' ++ '/' :: last)).utf8ByteSize := by
    rw [whole, String.utf8ByteSize_append]
    omega
  rw [locate, if_neg (by simp)] at located
  split at located
  · cases located
  next fits =>
  simp only [String.toList_ofList, anchored, if_true] at located
  have someNames : components (String.ofList (List.replicate count '/' ++ '/' :: last)) ≠ [] := by
    have someText : String.ofList last ≠ "" := by
      intro empty
      exact some (by rw [← String.toList_ofList (l := last), empty]; rfl)
    simp [components, splitOn_append_slash, Text.splitOn_of_notMem noSlash, someText]
  have directory := isDirectory_of_walkOn someNames located
  refine leadsSomewhere_of_locate ?_ directory
  have names : components (String.ofList (List.replicate count '/' ++ ['/'])) = ["."] := by
    rw [components, String.toList_ofList, splitOn_append_slash, List.map_append, none]
    simp [Text.splitOn]
  rw [locate, if_neg (by simp), if_neg (by omega), names]
  simp only [String.toList_ofList, anchored, if_true]
  exact walkOn_of_arrived mostLinks (by simp [walk, directory])

/-- What a path stands in leads somewhere if the path does. -/
theorem leadsSomewhere_parent {files : FileSystem} {cwd : WorkingDirectory} {path : String}
    {location : Location} (plain : PathText.endsInSlash path = false)
    (located : files.locate cwd true path = .ok location) :
    PathText.parent path = "" ∨ files.leadsSomewhere cwd (PathText.parent path) = true := by
  rcases cutAtLastSlash path with noSlash | ⟨before, last, rfl, noSlash⟩
  · have others : ∀ c ∈ path.toList.reverse, (c != '/') = true := by
      intro c member
      rw [bne_iff_ne]
      rintro rfl
      exact noSlash (List.mem_reverse.1 member)
    have none : path.toList.reverse.dropWhile (· != '/') = [] := by
      rw [← List.append_nil path.toList.reverse, List.dropWhile_append_of_pos others]
      rfl
    refine .inl ?_
    simp [PathText.parent, PathText.split, none, PathText.withoutFinalSlashes]
  · obtain ⟨above, count, rfl, trimmed, plainAbove⟩ := cutFinalSlashes before
    refine .inr ?_
    rw [PathText.parent, split_slash _ noSlash, trimmed]
    have someLast : last ≠ [] := by
      rintro rfl
      simp [PathText.endsInSlash] at plain
    have moved : List.replicate count '/' ++ '/' :: last = '/' :: (List.replicate count '/' ++ last) := by
      rw [← List.singleton_append, ← List.append_assoc, ← List.replicate_succ', List.replicate_succ]
      rfl
    by_cases root : String.ofList above = ""
    · -- the path is that of a name in the root
      have none : above = [] := by rw [← String.toList_ofList (l := above), root]; rfl
      subst none
      rw [if_pos rfl]
      simp only [List.nil_append] at located ⊢
      exact leadsSomewhere_root someLast noSlash located
    · have whole : String.ofList (above ++ List.replicate count '/' ++ '/' :: last) =
          String.ofList above ++ "/" ++ String.ofList (List.replicate count '/' ++ last) := by
        rw [← String.toList_inj, List.append_assoc, moved]
        simp
      rw [whole] at located
      rw [if_neg root]
      exact leadsSomewhere_above root plainAbove located

/-! ### Names below a directory -/

/-- The path of names below a directory. Without names it is that of the directory. -/
def under (base : String) (names : List String) : String :=
  if names = [] then base else PathText.join base ("/".intercalate names)

/-- The path of a directory has slashes at its end only if it is that of the root. -/
structure IsBase (base : String) : Prop where
  some : base ≠ ""
  root : PathText.endsInSlash base = true → base = "/" ∨ base = "//"

/-- What stands before the slash after which the names are. -/
def stem (base : String) : List Char :=
  if PathText.endsInSlash base then base.toList.dropLast else base.toList

theorem toList_intercalate (names : List String) :
    ("/".intercalate names).toList = Text.joinWith ['/'] (names.map String.toList) := by
  have whole := toList_spotText names
  rw [spotText, String.toList_append] at whole
  exact List.tail_eq_of_cons_eq whole

theorem IsBase.stem_slash {base : String} (is : IsBase base) (ends : PathText.endsInSlash base = true) :
    stem base ++ ['/'] = base.toList := by
  rcases is.root ends with rfl | rfl <;> decide

theorem isAnchored_intercalate {names : List String} (some : names ≠ []) (down : Descends names) :
    PathText.isAnchored ("/".intercalate names) = false := by
  obtain ⟨c, chars, starts, notSlash⟩ := Path.joinWith_ne_slash some (isName_of_leadsDown down)
  rw [PathText.isAnchored, toList_intercalate, starts]
  simpa using notSlash

theorem toList_under {base : String} (is : IsBase base) {names : List String} (some : names ≠ [])
    (down : Descends names) :
    (under base names).toList = stem base ++ '/' :: Text.joinWith ['/'] (names.map String.toList) := by
  rw [under, if_neg some, PathText.join, isAnchored_intercalate some down]
  cases ends : PathText.endsInSlash base with
  | true =>
    rw [if_neg (by simp), if_pos (.inr rfl), String.toList_append, toList_intercalate, ← is.stem_slash ends,
      List.append_assoc]
    rfl
  | false =>
    rw [if_neg (by simp), if_neg (by simp [is.some]), String.toList_append, String.toList_append,
      toList_intercalate, stem, ends, if_neg (by simp), List.append_assoc]
    rfl

theorem under_concat {base : String} (is : IsBase base) {names : List String} (some : names ≠ [])
    {name : String} (down : Descends (names ++ [name])) :
    under base (names ++ [name]) = String.ofList ((under base names).toList ++ '/' :: name.toList) := by
  have above : Descends names := down.of_prefix (List.prefix_append names [name])
  rw [← String.toList_inj, toList_under is (by simp) down, toList_under is some above, List.map_append,
    List.map_singleton, joinWith_concat (by simpa using some)]
  simp

theorem endsInSlash_under {base : String} (is : IsBase base) {names : List String} (some : names ≠ [])
    (down : Descends names) : PathText.endsInSlash (under base names) = false := by
  obtain ⟨c, chars, starts, _⟩ := Path.joinWith_ne_slash some (isName_of_leadsDown down)
  have last := getLast?_joinWith_ne_slash (isName_of_leadsDown down)
  rw [starts] at last
  simpa [PathText.endsInSlash, toList_under is some down, starts] using last

theorem under_ne_empty {base : String} (is : IsBase base) {names : List String} (down : Descends names) :
    under base names ≠ "" := by
  by_cases none : names = []
  · rw [under, if_pos none]
    exact is.some
  · intro empty
    have chars := toList_under is none down
    rw [empty] at chars
    simp at chars

/-- Names below the path of names are names below the directory. -/
theorem join_under {base : String} (is : IsBase base) {names more : List String} (some : more ≠ [])
    (down : Descends (names ++ more)) :
    PathText.join (under base names) ("/".intercalate more) = under base (names ++ more) := by
  by_cases none : names = []
  · rw [none, List.nil_append, under, if_pos rfl, under, if_neg some]
  · have above : Descends names := down.of_prefix (List.prefix_append names more)
    have further : Descends more := fun name member => down name (List.mem_append_right _ member)
    have unended := endsInSlash_under is none above
    have joined : Text.joinWith ['/'] ((names ++ more).map String.toList) =
        Text.joinWith ['/'] (names.map String.toList) ++ '/' :: Text.joinWith ['/'] (more.map String.toList) := by
      rw [List.map_append, joinWith_append (by simpa using none) (by simpa using some)]
    rw [PathText.join, isAnchored_intercalate some further, if_neg (by simp),
      if_neg (by simp [under_ne_empty is above, unended]), ← String.toList_inj, toList_under is (by simp [some]) down,
      joined, String.toList_append, String.toList_append, toList_under is none above, toList_intercalate,
      List.append_assoc, List.append_assoc]
    rfl

theorem size_under_le {base : String} (is : IsBase base) {names : List String} {name : String}
    (down : Descends (names ++ [name])) :
    (under base names).utf8ByteSize ≤ (under base (names ++ [name])).utf8ByteSize := by
  have begins : (under base names).toList <+: (under base (names ++ [name])).toList := by
    by_cases none : names = []
    · subst none
      rw [toList_under is (by simp) down, under, if_pos rfl]
      cases ends : PathText.endsInSlash base with
      | true =>
        rw [← is.stem_slash ends]
        exact (List.prefix_append_right_inj _).2 (List.prefix_append ['/'] _)
      | false =>
        rw [stem, ends]
        exact List.prefix_append _ _
    · rw [under_concat is none down, String.toList_ofList]
      exact List.prefix_append _ _
  obtain ⟨rest, whole⟩ := begins
  have longer : under base (names ++ [name]) = under base names ++ String.ofList rest := by
    rw [← String.toList_inj, ← whole, String.toList_append, String.toList_ofList]
  rw [longer, String.utf8ByteSize_append]
  exact Nat.le_add_right _ _

/-- What the path of a name stands in is the path of the names before it. -/
theorem split_under {base : String} (is : IsBase base) {names : List String} {name : String}
    (down : Descends (names ++ [name])) :
    PathText.split (under base (names ++ [name])) = (under base names, name) := by
  have next := down name (by simp)
  have above : Descends names := down.of_prefix (List.prefix_append names [name])
  by_cases none : names = []
  · subst none
    have chars : under base ([] ++ [name]) = String.ofList (stem base ++ '/' :: name.toList) := by
      rw [← String.toList_inj, toList_under is (by simp) down]
      simp [Text.joinWith]
    rw [chars, split_slash _ next.noSlash, String.ofList_toList, under, if_pos rfl]
    cases ends : PathText.endsInSlash base with
    | true => rcases is.root ends with rfl | rfl <;> rfl
    | false =>
      have same : stem base = base.toList := by
        rw [stem, ends]
        rfl
      rw [same, String.ofList_toList, withoutFinalSlashes_of_not_endsInSlash ends, if_neg is.some]
  · rw [under_concat is none down, split_slash _ next.noSlash, String.ofList_toList, String.ofList_toList,
      withoutFinalSlashes_of_not_endsInSlash (endsInSlash_under is none above), if_neg (under_ne_empty is above)]

theorem length_le_under {base : String} (is : IsBase base) {names : List String} (down : Descends names) :
    names.length ≤ (under base names).length := by
  rcases List.eq_nil_or_concat names with rfl | ⟨above, name, rfl⟩
  · exact Nat.zero_le _
  · rw [List.concat_eq_append] at *
    have longer (row : List String) (some : row ≠ []) :
        row.length ≤ (Text.joinWith ['/'] (row.map String.toList)).length + 1 := by
      induction row with
      | nil => exact absurd rfl some
      | cons first rest ih =>
        cases rest with
        | nil => simp [Text.joinWith]
        | cons second more =>
          have onward := ih (List.cons_ne_nil second more)
          simp only [List.map_cons, Text.joinWith, List.length_append, List.length_cons, List.length_nil]
            at onward ⊢
          omega
    rw [← String.length_toList, toList_under is (by simp) down]
    refine Nat.le_trans (longer (above ++ [name]) (by simp)) ?_
    rw [List.length_append, List.length_cons]
    omega

theorem components_under {base : String} (is : IsBase base) {names : List String} (some : names ≠ [])
    (down : Descends names) :
    components (under base names) =
      (if PathText.endsInSlash base then [] else components base) ++ names := by
  have chars := toList_under is some down
  have parts : Text.splitOn '/' (Text.joinWith ['/'] (names.map String.toList)) = names.map String.toList := by
    refine Text.splitOn_joinWith (by simpa using some) fun part member => ?_
    obtain ⟨name, inside, rfl⟩ := List.mem_map.1 member
    exact (down name inside).noSlash
  have kept : names.filter (· != "") = names := by
    refine List.filter_eq_self.2 fun name member => ?_
    simpa using (down name member).some
  have unended : (under base names).toList.getLast? ≠ Option.some '/' := by
    simpa [PathText.endsInSlash] using endsInSlash_under is some down
  have all : components (under base names) =
      ((Text.splitOn '/' (stem base)).map String.ofList).filter (· != "") ++ names := by
    rw [components, if_neg unended, chars, splitOn_append_slash, parts]
    simp [Function.comp_def, kept]
  rw [all]
  cases ends : PathText.endsInSlash base with
  | true => rcases is.root ends with rfl | rfl <;> rfl
  | false =>
    have last : ¬ base.toList.getLast? = Option.some '/' := by simpa [PathText.endsInSlash] using ends
    simp [components, stem, ends, last]

theorem isBase_slash : IsBase "/" := ⟨by decide, fun _ => .inl rfl⟩

/-- The text of a spot is the path of its names below the root. -/
theorem under_slash {spot : Spot} (down : Descends spot) : under "/" spot = spotText spot := by
  by_cases root : spot = []
  · rw [root]
    rfl
  · rw [← String.toList_inj, toList_under isBase_slash root down, toList_spotText]
    rfl

/-- The root is a directory that its own path leads to, if anything does. -/
theorem IsBase.locate {base : String} (is : IsBase base) (ends : PathText.endsInSlash base = true)
    {files : FileSystem} {cwd : WorkingDirectory} {home : Spot}
    (here : files.locate cwd true base = .ok (.occupied home)) : home = [] := by
  have walks : files.locate cwd true base = files.walkOn true mostLinks [] ["."] := by
    have names : components base = ["."] := by rcases is.root ends with rfl | rfl <;> decide
    have short : ¬ base.utf8ByteSize ≥ pathLimit := by rcases is.root ends with rfl | rfl <;> decide
    have anchored : base.toList.head? = Option.some '/' := by rcases is.root ends with rfl | rfl <;> decide
    rw [FileSystem.locate, if_neg is.some, if_neg short, names]
    exact if_pos anchored
  rw [walks] at here
  cases directory : files.isDirectory [] with
  | false =>
    have refused : files.walk true [] ["."] = .refused .notDirectory := by simp [walk, directory]
    rw [walkOn_of_refused _ refused] at here
    cases here
  | true =>
    have arrived : files.walk true [] ["."] = .arrived (.occupied []) := by simp [walk, directory]
    rw [walkOn_of_arrived _ arrived] at here
    cases here
    rfl

/-- The path of names leads where they lead from the place of the directory. -/
theorem locate_under {files : FileSystem} {cwd : WorkingDirectory} {base : String} {home : Spot}
    (is : IsBase base) (here : files.locate cwd true base = .ok (.occupied home)) :
    ∃ left, ∀ follow names, names ≠ [] → Descends names → (under base names).utf8ByteSize < pathLimit →
      files.locate cwd follow (under base names) = files.walkOn follow left home names := by
  cases ends : PathText.endsInSlash base with
  | true =>
    refine ⟨mostLinks, fun follow names some down short => ?_⟩
    have anchored : (under base names).toList.head? = Option.some '/' := by
      rw [toList_under is some down, stem, ends]
      rcases is.root ends with rfl | rfl <;> rfl
    rw [locate, if_neg (under_ne_empty is down), if_neg (Nat.not_le_of_lt short), if_pos anchored,
      components_under is some down, ends, is.locate ends here]
    rfl
  | false =>
    obtain ⟨left, walks⟩ := locate_more here
    refine ⟨left, fun follow names some down short => walks follow _ names some ?_ ?_ short⟩
    · rw [components_under is some down, ends]
      rfl
    · have chars := toList_under is some down
      rw [stem, ends, if_neg (by simp)] at chars
      rw [chars]
      cases first : base.toList with
      | nil => exact absurd (String.toList_inj.1 first) is.some
      | cons c rest => rfl

end Bookbinder.FileSystem
