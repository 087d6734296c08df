import Bookbinder.Proofs.FileSystem.Writing
import Bookbinder.Proofs.FileSystem.Standing

/-!
Names in a directory. Main statement: where the path of a directory leads to it, that of a name in it leads on
from there, with as many links left to follow as the first path left.
-/

set_option autoImplicit false

namespace Bookbinder

open FileSystem (mostLinks pathLimit)

theorem Path.head?_text_eq_slash_iff (path : Path) :
    path.text.toList.head? = some '/' ↔ path.isAbsolute = true := by
  refine ⟨fun slash => ?_, head?_text_of_isAbsolute⟩
  obtain ⟨anchor, names, valid⟩ := path
  cases anchor with
  | here =>
    cases names with
    | nil => simp [text] at slash
    | cons name more =>
      obtain ⟨c, chars, starts, other⟩ := joinWith_ne_slash (List.cons_ne_nil name more) valid
      simp only [text, Anchor.text, List.nil_append, String.toList_ofList, starts, List.head?_cons,
        Option.some.injEq] at slash
      exact absurd slash other
  | _ => rfl

theorem FileSystem.components_joined {names : List String} (some : names ≠ [])
    (valid : ∀ name ∈ names, isName name = true) :
    components (String.ofList (Text.joinWith ['/'] (names.map String.toList))) = names := by
  have parts : Text.splitOn '/' (Text.joinWith ['/'] (names.map String.toList)) = names.map String.toList := by
    refine Text.splitOn_joinWith (by simpa using some) ?_
    intro part member
    obtain ⟨name, inside, rfl⟩ := List.mem_map.1 member
    exact Path.slash_notMem (valid name inside)
  have kept : names.filter (· != "") = names := by
    refine List.filter_eq_self.2 fun name member => ?_
    have := valid name member
    simp_all [isName]
  simp only [components, String.toList_ofList, parts, getLast?_joinWith_ne_slash valid, if_false,
    List.append_nil, List.map_map, Function.comp_def, String.ofList_toList, List.map_id']
  exact kept

theorem FileSystem.components_slash {chars : List Char} (some : chars ≠ []) :
    components (String.ofList ('/' :: chars)) = components (String.ofList chars) := by
  have split : Text.splitOn '/' ('/' :: chars) = [] :: Text.splitOn '/' chars := by
    rw [Text.splitOn, if_pos rfl]
  have last : ('/' :: chars).getLast? = chars.getLast? := by
    cases chars with
    | nil => exact absurd rfl some
    | cons c rest => simp
  simp only [components, String.toList_ofList, split, last, List.map_cons]
  rfl

/-- The names in the text of a path are its names; without any it stands for where it starts. -/
theorem Path.components_text (path : Path) :
    FileSystem.components path.text = if path.names = [] then ["."] else path.names := by
  obtain ⟨anchor, names, valid⟩ := path
  by_cases none : names = []
  · subst none
    cases anchor with
    | here => exact (by decide : FileSystem.components "." = ["."])
    | root => exact (by decide : FileSystem.components "/" = ["."])
    | doubleRoot => exact (by decide : FileSystem.components "//" = ["."])
  · have joined := FileSystem.components_joined none valid
    obtain ⟨c, chars, starts, _⟩ := joinWith_ne_slash none valid
    rw [starts] at joined
    have text : (Path.mk anchor names valid).text = String.ofList (anchor.text ++ c :: chars) := by
      rw [← starts]
      unfold Path.text
      split
      · next same => exact absurd same none
      · rfl
    rw [text, if_neg none]
    cases anchor with
    | here => exact joined
    | root => exact (FileSystem.components_slash (List.cons_ne_nil c chars)).trans joined
    | doubleRoot =>
      refine (FileSystem.components_slash (List.cons_ne_nil _ _)).trans ?_
      exact (FileSystem.components_slash (List.cons_ne_nil c chars)).trans joined

namespace FileSystem

variable {files : FileSystem} {cwd place : WorkingDirectory} {start spot : Spot}

/-- A walk that comes to a spot goes on from there along more names. -/
theorem walkOn_further {names more : List String} {budget : Nat}
    (walked : files.walkOn true budget start (if names = [] then ["."] else names) = .ok (.occupied spot))
    (some : more ≠ []) :
    ∃ left, left ≤ budget ∧ ∀ follow,
      files.walkOn follow budget start (names ++ more) = files.walkOn follow left spot more := by
  by_cases none : names = []
  · subst none
    refine ⟨budget, Nat.le_refl budget, fun follow => ?_⟩
    have here : start = spot := by
      cases directory : files.isDirectory start with
      | false =>
        have refused : files.walk true start ["."] = .refused .notDirectory := by simp [walk, directory]
        rw [if_pos rfl, walkOn_of_refused budget refused] at walked
        cases walked
      | true =>
        have arrived : files.walk true start ["."] = .arrived (.occupied start) := by simp [walk, directory]
        rw [if_pos rfl, walkOn_of_arrived budget arrived] at walked
        cases walked
        rfl
    rw [here]
    rfl
  · rw [if_neg none] at walked
    rcases walkOn_append files budget start names with ⟨other, left, arrived, fits, onward⟩ | ⟨never, _⟩
    · rw [walked] at arrived
      cases arrived
      exact ⟨left, fits, fun follow => onward follow more some⟩
    · exact absurd walked (never spot)

/-- Where names lead to from a directory that is gone: only steps up lead anywhere. -/
def locateAbove (files : FileSystem) (follow : Bool) (spot : Spot) : List String → Except Errno Location
  | [] => .ok .gone
  | ".." :: rest =>
    if files.isDirectory spot.dropLast then files.walkOn follow mostLinks spot.dropLast rest
    else .error .noEntry
  | _ => .error .noEntry

theorem locate_text (files : FileSystem) (cwd : WorkingDirectory) (follow : Bool) {path : Path}
    (short : path.text.utf8ByteSize < pathLimit) :
    files.locate cwd follow path.text =
      if path.isAbsolute then
        files.walkOn follow mostLinks [] (if path.names = [] then ["."] else path.names)
      else if files.isAlive cwd then
        files.walkOn follow mostLinks cwd.spot (if path.names = [] then ["."] else path.names)
      else files.locateAbove follow cwd.spot path.names := by
  have some : path.text ≠ "" := by
    intro empty
    have parts := path.components_text
    rw [empty, (by decide : components "" = [])] at parts
    split at parts
    · cases parts
    · next named => exact named parts.symm
  have dots : (if path.names = [] then ["."] else path.names).dropWhile (· = ".") = path.names := by
    cases names : path.names with
    | nil => rfl
    | cons name rest =>
      have valid := path.all_isName name (names ▸ List.mem_cons_self)
      have notDot : name ≠ "." := by
        rintro rfl
        exact absurd valid (by decide)
      simp [notDot]
  simp only [locate, some, if_false, Nat.not_le.2 short, path.head?_text_eq_slash_iff, path.components_text,
    dots]
  rfl

theorem walkOn_ne_gone (files : FileSystem) (follow : Bool) (budget : Nat) (start : Spot)
    (names : List String) : files.walkOn follow budget start names ≠ .ok .gone := by
  have first (start : Spot) (names : List String) : files.walk follow start names ≠ .arrived .gone := by
    fun_induction walk files follow start names <;> simp_all
  fun_induction walkOn files follow budget start names with
  | case1 budget start names location walked =>
    rintro ended
    cases ended
    exact first start names walked
  | case2 =>
    intro ended
    cases ended
  | case3 =>
    intro ended
    cases ended
  | case4 _ _ _ _ _ _ _ _ ih => exact ih

/-- A path that leads to a directory that is there leads to its spot. -/
theorem locate_of_enter (alive : files.isAlive place = true) {path : Path}
    (entered : files.enter cwd path.text = .ok place) :
    files.locate cwd true path.text = .ok (.occupied place.spot) ∧ path.text.utf8ByteSize < pathLimit := by
  have short : path.text.utf8ByteSize < pathLimit := by
    refine Nat.lt_of_not_le fun long => ?_
    rw [enter, locate_of_long long] at entered
    cases entered
  refine ⟨?_, short⟩
  unfold enter at entered
  cases located : files.locate cwd true path.text with
  | error errno =>
    rw [located] at entered
    cases entered
  | ok location =>
    rw [located] at entered
    cases location with
    | vacant directory name => cases entered
    | gone =>
      cases entered
      -- only a directory that is no longer there is entered in this way
      rw [locate_text files cwd true short, alive] at located
      split at located
      · exact absurd located (walkOn_ne_gone _ _ _ _ _)
      · rw [if_pos rfl] at located
        exact absurd located (walkOn_ne_gone _ _ _ _ _)
    | occupied spot =>
      simp only [bind, Except.bind] at entered
      split at entered
      · cases entered
        rfl
      · cases entered

/-- A path that goes on from that of a directory leads on from there. -/
theorem locate_further {directory file : Path} {more : List String} (anchor : file.anchor = directory.anchor)
    (names : file.names = directory.names ++ more) (some : more ≠ [])
    (short : file.text.utf8ByteSize < pathLimit) (entered : files.enter cwd directory.text = .ok place)
    (alive : files.isAlive place = true) :
    ∃ left, left ≤ mostLinks ∧ ∀ follow,
      files.locate cwd follow file.text = files.walkOn follow left place.spot more := by
  obtain ⟨located, fits⟩ := locate_of_enter alive entered
  have absolute : file.isAbsolute = directory.isAbsolute := by rw [Path.isAbsolute, anchor, Path.isAbsolute]
  have child (follow : Bool) := locate_text files cwd follow short
  simp only [names, absolute, List.append_eq_nil_iff, some, and_false, if_false] at child
  simp only [child]
  rw [locate_text files cwd true fits] at located
  split at located
  · next anchored =>
    simp only [anchored, if_true]
    exact walkOn_further located some
  · next relative =>
    simp only [relative]
    split at located
    · next here =>
      simp only [here, if_true]
      exact walkOn_further located some
    · next lost =>
      simp only [lost, Bool.false_eq_true, if_false]
      unfold locateAbove at located
      split at located
      · cases located
      · next rest up =>
        split at located
        · next above =>
          simp only [up, List.cons_append, locateAbove, above, if_true]
          rcases walkOn_append files mostLinks cwd.spot.dropLast rest with
            ⟨other, left, arrived, fewer, onward⟩ | ⟨never, _⟩
          · rw [located] at arrived
            cases arrived
            exact ⟨left, fewer, fun follow => onward follow more some⟩
          · exact absurd located (never _)
        · cases located
      · cases located

/-- The path of a name in a directory leads on from there. -/
theorem locate_child {directory file : Path} {name : String} (anchor : file.anchor = directory.anchor)
    (names : file.names = directory.names ++ [name]) (short : file.text.utf8ByteSize < pathLimit)
    (entered : files.enter cwd directory.text = .ok place) (alive : files.isAlive place = true) :
    ∃ left, left ≤ mostLinks ∧ ∀ follow,
      files.locate cwd follow file.text = files.walkOn follow left place.spot [name] :=
  locate_further anchor names (List.cons_ne_nil name []) short entered alive

end FileSystem

end Bookbinder
