import Bookbinder.Text.Split

/-!
Paths as texts: an anchor and a row of names. Main statements: reading a path's text gives the path
back, and joining is associative. A path says nothing about what exists; `..` stays as it is written.
-/

set_option autoImplicit false

namespace Bookbinder

/-- Where a path starts. Exactly two leading slashes are kept apart from one. -/
inductive Anchor where
  | here
  | root
  | doubleRoot
  deriving DecidableEq, Repr

def Anchor.text : Anchor → List Char
  | .here => []
  | .root => ['/']
  | .doubleRoot => ['/', '/']

def isName (name : String) : Bool :=
  name != "" && name != "." && !name.toList.contains '/'

structure Path where
  anchor : Anchor
  names : List String
  all_isName : ∀ name ∈ names, isName name = true
  deriving DecidableEq, Repr

namespace Path

def empty : Path := ⟨.here, [], by simp⟩

/-- One leading slash or three and more anchor a path at the root. -/
def anchorOf : List Char → Anchor
  | '/' :: '/' :: '/' :: _ => .root
  | '/' :: '/' :: _ => .doubleRoot
  | '/' :: _ => .root
  | _ => .here

/-- The names in a text: what stands between slashes, without empty parts and single dots. -/
def namesOf (text : List Char) : List String :=
  ((Text.splitOn '/' text).map String.ofList).filter fun part => part != "" && part != "."

theorem isName_of_mem_namesOf {text : List Char} {name : String} (member : name ∈ namesOf text) :
    isName name = true := by
  simp only [namesOf, List.mem_filter, List.mem_map] at member
  obtain ⟨⟨part, inside, rfl⟩, kept⟩ := member
  have := Text.separator_notMem_splitOn inside
  simp_all [isName]

def parse (text : String) : Path where
  anchor := anchorOf text.toList
  names := namesOf text.toList
  all_isName := fun _ member => isName_of_mem_namesOf member

/-- The text of a path; the path without anchor and names is a single dot. -/
def text (path : Path) : String :=
  match path.anchor, path.names with
  | .here, [] => "."
  | anchor, names =>
    String.ofList (anchor.text ++ Text.joinWith ['/'] (names.map String.toList))

/-- The right path seen from the left one. An anchored right path stands for itself. -/
def join (left right : Path) : Path :=
  match right.anchor with
  | .here =>
    { anchor := left.anchor
      names := left.names ++ right.names
      all_isName := fun name member =>
        (List.mem_append.1 member).elim (left.all_isName name) (right.all_isName name) }
  | _ => right

instance : Div Path := ⟨join⟩

/-- The right text read as a path and joined. -/
def child (left : Path) (name : String) : Path := left.join (parse name)

def isAbsolute (path : Path) : Bool := path.anchor != .here

theorem toList_ne_nil {name : String} (valid : isName name = true) : name.toList ≠ [] := by
  intro empty
  have : name = "" := String.toList_inj.1 empty
  simp [isName, this] at valid

theorem slash_notMem {name : String} (valid : isName name = true) : '/' ∉ name.toList := by
  intro member
  simp [isName] at valid
  exact valid.2 member

theorem joinWith_ne_slash {names : List String} (some : names ≠ [])
    (valid : ∀ name ∈ names, isName name = true) :
    ∃ c rest, Text.joinWith ['/'] (names.map String.toList) = c :: rest ∧ c ≠ '/' := by
  match names, some with
  | name :: others, _ =>
    have first := valid name (by simp)
    match chars : name.toList with
    | [] => exact absurd chars (toList_ne_nil first)
    | c :: rest =>
      have : c ≠ '/' := by
        rintro rfl
        exact slash_notMem first (by simp [chars])
      cases others <;> simp [Text.joinWith, chars, this]

theorem filter_names {names : List String} (valid : ∀ name ∈ names, isName name = true) :
    names.filter (fun part => part != "" && part != ".") = names := by
  rw [List.filter_eq_self]
  intro name member
  have := valid name member
  simp_all [isName]

theorem namesOf_joinWith {names : List String} (valid : ∀ name ∈ names, isName name = true) :
    namesOf (Text.joinWith ['/'] (names.map String.toList)) = names := by
  by_cases none : names = []
  · subst none; decide
  · have split := @Text.splitOn_joinWith Char _ '/' (names.map String.toList)
      (by simpa using none)
      (by
        intro part member
        obtain ⟨name, inside, rfl⟩ := List.mem_map.1 member
        exact slash_notMem (valid name inside))
    simp only [namesOf, split, List.map_map, Function.comp_def, String.ofList_toList, List.map_id']
    exact filter_names valid

theorem namesOf_slash (text : List Char) : namesOf ('/' :: text) = namesOf text := by
  simp [namesOf, Text.splitOn]

theorem parse_text (path : Path) : parse path.text = path := by
  obtain ⟨anchor, names, valid⟩ := path
  have same : ∀ anchor', anchorOf (anchor'.text ++ Text.joinWith ['/'] (names.map String.toList)) =
      if names = [] ∧ anchor' = .here then .here else anchor' := by
    intro anchor'
    by_cases none : names = []
    · subst none; cases anchor' <;> rfl
    · obtain ⟨c, rest, starts, different⟩ := joinWith_ne_slash none valid
      rw [starts]
      cases anchor' <;> simp [none, Anchor.text, anchorOf] <;> split <;> simp_all
      next others same => exact absurd same.symm (others _)
  by_cases bare : anchor = .here ∧ names = []
  · obtain ⟨rfl, rfl⟩ := bare
    have law : parse empty.text = empty := by decide
    exact law
  · have shown : (Path.mk anchor names valid).text =
        String.ofList (anchor.text ++ Text.joinWith ['/'] (names.map String.toList)) := by
      simp only [Path.text]
      split
      · simp_all
      · rfl
    have kept : namesOf (anchor.text ++ Text.joinWith ['/'] (names.map String.toList)) = names := by
      cases anchor <;> simp [Anchor.text, namesOf_slash, namesOf_joinWith valid]
    simp only [parse, shown, String.toList_ofList, same, kept]
    congr
    split <;> simp_all

theorem text_ne_empty (path : Path) : path.text ≠ "" := by
  intro empty
  have back := path.parse_text
  rw [empty] at back
  subst back
  exact absurd empty (by decide)

theorem join_assoc (a b c : Path) : (a.join b).join c = a.join (b.join c) := by
  obtain ⟨_, _, _⟩ := a
  obtain ⟨anchorB, _, _⟩ := b
  obtain ⟨anchorC, _, _⟩ := c
  cases anchorC <;> cases anchorB <;> simp [join, List.append_assoc]

theorem isAbsolute_join {a b : Path} (absolute : a.isAbsolute = true) :
    (a.join b).isAbsolute = true := by
  obtain ⟨anchorA, _, _⟩ := a
  obtain ⟨anchorB, _, _⟩ := b
  cases anchorB <;> simp_all [join, isAbsolute]

end Path

end Bookbinder
