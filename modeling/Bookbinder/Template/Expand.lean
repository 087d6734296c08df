import Bookbinder.Template.Layout
import Bookbinder.Template.Scan

/-!
Expansion of a template: each field is replaced by the value it names, and values are never expanded
again. Main statement: a template may be cut between two pieces, and its parts expand on their own.
-/

set_option autoImplicit false

namespace Bookbinder.Template

/-- What the names in a template stand for. -/
abbrev Values := List Char → Option (List Char)

/-- A step from a value to a part of it. -/
inductive Access where
  | attribute (name : List Char)
  | index (name : List Char)
  deriving DecidableEq, Repr

/-- The part of a field's name that a value is looked up under. -/
def rootOf (name : List Char) : List Char := name.takeWhile fun c => c != '.' && c != '['

inductive AccessPlace where
  | between
  | inAttribute (name : List Char)
  | inIndex (name : List Char)

/-- The accesses in a text, up to the first fault; names are kept last character first. -/
def accessesFrom : AccessPlace → List Char → List Access × Option Fault
  | .between, [] => ([], none)
  | .inAttribute name, [] => ([.attribute name.reverse], none)
  | .inIndex _, [] => ([], some .unclosedIndex)
  | .between, c :: rest =>
    if c = '.' then accessesFrom (.inAttribute []) rest
    else if c = '[' then accessesFrom (.inIndex []) rest
    else ([], some .textAfterIndex)
  | .inAttribute name, c :: rest =>
    if c = '.' then
      let (more, fault) := accessesFrom (.inAttribute []) rest
      (.attribute name.reverse :: more, fault)
    else if c = '[' then
      let (more, fault) := accessesFrom (.inIndex []) rest
      (.attribute name.reverse :: more, fault)
    else accessesFrom (.inAttribute (c :: name)) rest
  | .inIndex name, c :: rest =>
    if c = ']' then
      let (more, fault) := accessesFrom .between rest
      (.index name.reverse :: more, fault)
    else accessesFrom (.inIndex (c :: name)) rest

def accessesOf (name : List Char) : List Access × Option Fault :=
  accessesFrom .between (name.drop (rootOf name).length)

/-- A name made of digits alone, read as a number. -/
def wholeNumber? (name : List Char) : Except Fault (Option Nat) := do
  let (number, rest) ← leadingNumber name
  return if rest.isEmpty then number else none

/-- A text has no attributes, and its indexes are numbers. -/
def Access.apply (value : List Char) : Access → Except Fault (List Char)
  | .attribute name => .error (if name.isEmpty then .emptyAccess else .noAttribute name)
  | .index name => do
    match ← wholeNumber? name with
    | some position =>
      match value[position]? with
      | some c => .ok [c]
      | none => .error .indexOutOfRange
    | none => .error (if name.isEmpty then .emptyAccess else .indexNotNumber)

/-- There are no values without a name: an empty name and a number are out of range. -/
def lookUp (values : Values) (name : List Char) : Except Fault (List Char) := do
  let root := rootOf name
  match ← wholeNumber? root with
  | some index => .error (.positional index)
  | none =>
    if root.isEmpty then .error (.positional 0)
    else
      let some value := values root | .error (.unknownName root)
      let (accesses, fault) := accessesOf name
      let part ← accesses.foldlM Access.apply value
      match fault with
      | some fault => .error fault
      | none => .ok part

def convert (value : List Char) : Option Char → Except Fault (List Char)
  | none => .ok value
  | some c =>
    if c = 's' ∨ c = '\x00' then .ok value
    else if c = 'r' then .ok (Text.quoted (String.ofList value)).toList
    else if c = 'a' then .ok (Text.quotedAscii (String.ofList value)).toList
    else .error (.unknownConversion c)

/-- The spec of a field is a template as well if it holds a brace. -/
def expandField (values : Values) (expandSpec : List Char → Except Fault (List Char))
    (field : Field) : Except Fault (List Char) := do
  let value ← lookUp values field.name
  let value ← convert value field.conversion
  let spec ← if field.spec.contains '{' then expandSpec field.spec else pure field.spec
  layOut spec value

def expandPiece (values : Values) (expandSpec : List Char → Except Fault (List Char)) :
    Piece → Except Fault (List Char)
  | .literal c => .ok [c]
  | .field field => expandField values expandSpec field

def expandPieces (values : Values) (expandSpec : List Char → Except Fault (List Char)) :
    List Piece → Except Fault (List Char)
  | [] => .ok []
  | piece :: rest => do
    let first ← expandPiece values expandSpec piece
    let more ← expandPieces values expandSpec rest
    return first ++ more

/-- Pieces before a fault are expanded first, so that the first fault from the left is the one that
is reported. -/
def expandWith (values : Values) (expandSpec : List Char → Except Fault (List Char))
    (template : List Char) : Except Fault (List Char) := do
  let (pieces, fault) := scan template
  let text ← expandPieces values expandSpec pieces
  match fault with
  | some fault => .error fault
  | none => .ok text

/-- Expansion of templates whose specs are nested at most `depth` deep. -/
def expandNested (values : Values) : Nat → List Char → Except Fault (List Char)
  | 0, _ => .error .tooDeep
  | depth + 1, template => expandWith values (expandNested values depth) template

/-- A spec may hold fields; the specs of those may not. -/
def expand (values : Values) (template : List Char) : Except Fault (List Char) :=
  expandNested values 2 template

theorem expandPieces_append (values : Values) (expandSpec : List Char → Except Fault (List Char))
    (first second : List Piece) :
    expandPieces values expandSpec (first ++ second) = (do
      let a ← expandPieces values expandSpec first
      let b ← expandPieces values expandSpec second
      return a ++ b) := by
  induction first with
  | nil =>
    cases h : expandPieces values expandSpec second <;>
      simp [expandPieces, h, bind, Except.bind, pure, Except.pure]
  | cons piece rest ih =>
    simp only [List.cons_append, expandPieces, ih]
    cases expandPiece values expandSpec piece <;>
      cases expandPieces values expandSpec rest <;>
      cases expandPieces values expandSpec second <;>
      simp [bind, Except.bind, pure, Except.pure]

/-- An expansion succeeds only if the scan reached the end without a fault. -/
theorem expandWith_eq_ok_iff {values : Values} {expandSpec : List Char → Except Fault (List Char)}
    {template text : List Char} :
    expandWith values expandSpec template = .ok text ↔
      (scan template).2 = none ∧ expandPieces values expandSpec (scan template).1 = .ok text := by
  simp only [expandWith]
  cases expandPieces values expandSpec (scan template).1 <;> cases (scan template).2 <;>
    simp [bind, Except.bind]

theorem expandWith_append {values : Values} {expandSpec : List Char → Except Fault (List Char)}
    {first second a b : List Char} (left : expandWith values expandSpec first = .ok a)
    (right : expandWith values expandSpec second = .ok b) :
    expandWith values expandSpec (first ++ second) = .ok (a ++ b) := by
  rw [expandWith_eq_ok_iff] at left right ⊢
  have both := @scanFrom_append .outside first (scan first).1 (by rw [← left.1]; rfl) second
  simp only [scan] at both left right ⊢
  rw [both]
  refine ⟨right.1, ?_⟩
  rw [expandPieces_append, left.2, right.2]
  rfl

end Bookbinder.Template
