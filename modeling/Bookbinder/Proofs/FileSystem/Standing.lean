import Bookbinder.Machine.Files

/-!
Directories that their own path leads to. The path of a spot is anchored, so what it leads to does not
depend on the current directory. Main statements: a directory with no link on the way to it is what its
path leads to, and one that stands below directories only is such a directory.
-/

set_option autoImplicit false

namespace Bookbinder

theorem Path.ofSpot_isAbsolute (spot : Spot) : (Path.ofSpot spot).isAbsolute = true := by
  have starts : (FileSystem.spotText spot).toList = '/' :: ("/".intercalate spot).toList := by
    simp [FileSystem.spotText]
  have anchored (rest : List Char) : (anchorOf ('/' :: rest) != .here) = true := by
    unfold anchorOf
    split <;> simp_all
  simp only [ofSpot, parse, isAbsolute, starts, anchored]

theorem Path.head?_text_of_isAbsolute {path : Path} (absolute : path.isAbsolute = true) :
    path.text.toList.head? = some '/' := by
  obtain ⟨anchor, names, valid⟩ := path
  cases anchor with
  | here => cases absolute
  | root => simp [text, Anchor.text]
  | doubleRoot => simp [text, Anchor.text]

/-- Names that may stand in a spot: none of them means a way up, and none is too long. -/
def IsSpot (spot : Spot) : Prop :=
  ∀ name ∈ spot, isName name = true ∧ name ≠ ".." ∧ name.utf8ByteSize ≤ FileSystem.longestName

instance (spot : Spot) : Decidable (IsSpot spot) :=
  inferInstanceAs (Decidable (∀ name ∈ spot, _))

theorem FileSystem.toList_spotText (spot : Spot) :
    (FileSystem.spotText spot).toList = '/' :: Text.joinWith ['/'] (spot.map String.toList) := by
  have joined : ("/".intercalate spot).toList = Text.joinWith ['/'] (spot.map String.toList) := by
    induction spot with
    | nil => rfl
    | cons name others ih =>
      cases others with
      | nil => simp [Text.joinWith]
      | cons next more =>
        rw [String.intercalate_cons_cons, String.toList_append, String.toList_append, ih]
        simp [Text.joinWith]
  rw [FileSystem.spotText, String.toList_append, joined]
  rfl

theorem Path.ofSpot_eq {spot : Spot} (valid : ∀ name ∈ spot, isName name = true) :
    Path.ofSpot spot = ⟨.root, spot, valid⟩ := by
  have text : (Path.mk .root spot valid).text = FileSystem.spotText spot := by
    rw [← String.toList_inj, FileSystem.toList_spotText]
    simp [Path.text, Anchor.text]
  rw [ofSpot, ← text, parse_text]

theorem Path.text_ofSpot {spot : Spot} (valid : ∀ name ∈ spot, isName name = true) :
    (Path.ofSpot spot).text = FileSystem.spotText spot := by
  rw [← String.toList_inj, FileSystem.toList_spotText, Path.ofSpot_eq valid]
  simp [Path.text, Anchor.text]

namespace FileSystem

/-- A directory that its path leads to without a link on the way. -/
structure StandsPlainly (files : FileSystem) (spot : Spot) : Prop where
  clean : holdsNul (Path.ofSpot spot).text = false
  short : (Path.ofSpot spot).text.utf8ByteSize < pathLimit
  reached : files.walk true [] (components (Path.ofSpot spot).text) = .arrived (.occupied spot)
  directory : files.isDirectory spot = true

theorem StandsPlainly.locate {files : FileSystem} {spot : Spot} (stands : files.StandsPlainly spot)
    (cwd : WorkingDirectory) :
    files.locate cwd true (Path.ofSpot spot).text = .ok (.occupied spot) := by
  have anchored := Path.head?_text_of_isAbsolute (Path.ofSpot_isAbsolute spot)
  have some : (Path.ofSpot spot).text ≠ "" := by
    intro empty
    rw [empty] at anchored
    cases anchored
  have short := Nat.not_le_of_lt stands.short
  simp only [FileSystem.locate, some, short, anchored, if_true, if_false]
  rw [walkOn, stands.reached]

/-- To enter it is to stand in it, wherever one comes from. -/
theorem StandsPlainly.enter {files : FileSystem} {spot : Spot} (stands : files.StandsPlainly spot)
    (cwd : WorkingDirectory) :
    ∃ serial mode, files.entryAt? spot = some (.directory serial mode) ∧
      files.enter cwd (Path.ofSpot spot).text = .ok ⟨spot, serial⟩ := by
  have directory := stands.directory
  unfold isDirectory at directory
  split at directory
  · next serial mode entry =>
    refine ⟨serial, mode, entry, ?_⟩
    simp only [FileSystem.enter, stands.locate cwd, entry, bind, Except.bind, pure, Except.pure]
  · cases directory

theorem getLast?_joinWith_ne_slash {names : List String} (valid : ∀ name ∈ names, isName name = true) :
    (Text.joinWith ['/'] (names.map String.toList)).getLast? ≠ some '/' := by
  induction names with
  | nil => simp [Text.joinWith]
  | cons name others ih =>
    have plain := Path.slash_notMem (valid name (by simp))
    have rest := ih fun other member => valid other (List.mem_cons_of_mem _ member)
    cases others with
    | nil =>
      intro last
      exact plain (List.mem_of_getLast? last)
    | cons next more =>
      obtain ⟨c, chars, starts, _⟩ := Path.joinWith_ne_slash (List.cons_ne_nil next more)
        fun other member => valid other (List.mem_cons_of_mem _ member)
      rw [List.map_cons] at starts rest
      rw [starts] at rest
      simpa [Text.joinWith, starts, List.getLast?_append] using rest

theorem components_spotText {spot : Spot} (valid : ∀ name ∈ spot, isName name = true) :
    components (spotText spot) = if spot = [] then ["."] else spot := by
  by_cases root : spot = []
  · subst root
    decide
  have parts : Text.splitOn '/' (Text.joinWith ['/'] (spot.map String.toList)) =
      spot.map String.toList := by
    refine Text.splitOn_joinWith (by simpa using root) ?_
    intro part member
    obtain ⟨name, inside, rfl⟩ := List.mem_map.1 member
    exact Path.slash_notMem (valid name inside)
  obtain ⟨c, chars, starts, _⟩ := Path.joinWith_ne_slash root valid
  have last := getLast?_joinWith_ne_slash valid
  rw [starts] at last parts
  have kept : spot.filter (· != "") = spot := by
    refine List.filter_eq_self.2 fun name member => ?_
    have := valid name member
    simp_all [isName]
  have unended : ('/' :: c :: chars).getLast? ≠ some '/' := by simpa using last
  have split : Text.splitOn '/' ('/' :: c :: chars) = [] :: spot.map String.toList := by
    rw [Text.splitOn, if_pos rfl, parts]
  simp only [components, toList_spotText, starts, split, unended, root, if_false, List.append_nil,
    List.map_cons, List.map_map, Function.comp_def, String.ofList_toList, List.map_id']
  exact kept

/-- A walk down through directories arrives. -/
theorem walk_of_directories {files : FileSystem} (follow : Bool) (start : Spot) {names : List String}
    (valid : IsSpot names) (directories : ∀ place, place <+: names → files.isDirectory (start ++ place)) :
    files.walk follow start names = .arrived (.occupied (start ++ names)) := by
  induction names generalizing start with
  | nil => simp [walk]
  | cons name others ih =>
    obtain ⟨plain, notUp, short⟩ := valid name (by simp)
    have here := directories [] (List.nil_prefix)
    have next := directories [name] (by simp)
    have onward := ih (start ++ [name]) (fun other member => valid other (List.mem_cons_of_mem _ member))
      (fun place within => by
        have deeper := directories (name :: place) (List.prefix_cons_inj name |>.2 within)
        simpa using deeper)
    have notDot : name ≠ "." := by
      rintro rfl
      exact absurd plain (by decide)
    rw [List.append_nil] at here
    rw [walk]
    simp only [here, notDot, notUp, Nat.not_lt_of_le short, Bool.not_true, Bool.false_eq_true, if_false]
    unfold isDirectory at next
    split at next
    · next serial mode entry =>
      rw [entry]
      simpa using onward
    · cases next

/-- A spot stands plainly if there are only directories from the root down to it. -/
theorem standsPlainly_of_directories {files : FileSystem} {spot : Spot} (valid : IsSpot spot)
    (clean : holdsNul (spotText spot) = false) (short : (spotText spot).utf8ByteSize < pathLimit)
    (directories : ∀ place, place <+: spot → files.isDirectory place = true) :
    files.StandsPlainly spot := by
  have named : ∀ name ∈ spot, isName name = true := fun name member => (valid name member).1
  have same := Path.text_ofSpot named
  refine ⟨by rw [same]; exact clean, by rw [same]; exact short, ?_, directories spot (List.prefix_refl _)⟩
  rw [same, components_spotText named]
  split
  · next root =>
    subst root
    have here := directories [] (List.prefix_refl _)
    simp [walk, here]
  · simpa using walk_of_directories true [] valid (by simpa using directories)

end FileSystem

end Bookbinder
