import Bookbinder.Template.Fault

/-!
The pieces of a template: literal characters and replacement fields. A scanner takes one character
at a time; a doubled brace is a literal one. Main statements: a text whose braces are doubled scans
to its own characters, and where a scan stands between two pieces the rest is scanned on its own.
-/

set_option autoImplicit false

namespace Bookbinder.Template

/-- A replacement field as it is written between braces. -/
structure Field where
  name : List Char
  conversion : Option Char
  spec : List Char
  deriving DecidableEq, Repr

inductive Piece where
  | literal (c : Char)
  | field (field : Field)
  deriving DecidableEq, Repr

/-- Where the scanner stands. What it has read of a name or spec is kept last character first. -/
inductive Place where
  | outside
  | opened
  | closed
  | inName (name : List Char)
  | inIndex (name : List Char)
  | afterBang (name : List Char)
  | converted (name : List Char) (conversion : Char)
  | inSpec (name : List Char) (conversion : Option Char) (depth : Nat) (spec : List Char)
  deriving DecidableEq, Repr

/-- Inside brackets a name may hold any character. -/
def stepName (name : List Char) (c : Char) : Except Fault (Place × List Piece) :=
  if c = '{' then .error .openingInName
  else if c = '}' then .ok (.outside, [.field ⟨name.reverse, none, []⟩])
  else if c = ':' then .ok (.inSpec name none 0 [], [])
  else if c = '!' then .ok (.afterBang name, [])
  else if c = '[' then .ok (.inIndex (c :: name), [])
  else .ok (.inName (c :: name), [])

/-- A spec ends at the closing brace that no brace inside it has opened. -/
def stepSpec (name : List Char) (conversion : Option Char) (depth : Nat) (spec : List Char)
    (c : Char) : Place × List Piece :=
  if c = '{' then (.inSpec name conversion (depth + 1) (c :: spec), [])
  else if c = '}' then
    match depth with
    | 0 => (.outside, [.field ⟨name.reverse, conversion, spec.reverse⟩])
    | depth + 1 => (.inSpec name conversion depth (c :: spec), [])
  else (.inSpec name conversion depth (c :: spec), [])

/-- One character further. A finished piece is given out. -/
def Place.step : Place → Char → Except Fault (Place × List Piece)
  | .outside, c =>
    if c = '{' then .ok (.opened, [])
    else if c = '}' then .ok (.closed, [])
    else .ok (.outside, [.literal c])
  | .opened, c => if c = '{' then .ok (.outside, [.literal c]) else stepName [] c
  | .closed, c => if c = '}' then .ok (.outside, [.literal c]) else .error .lonelyClosing
  | .inName name, c => stepName name c
  | .inIndex name, c =>
    .ok (if c = ']' then .inName (c :: name) else .inIndex (c :: name), [])
  | .afterBang name, c => .ok (.converted name c, [])
  | .converted name conversion, c =>
    if c = '}' then .ok (.outside, [.field ⟨name.reverse, some conversion, []⟩])
    else if c = ':' then .ok (.inSpec name (some conversion) 0 [], [])
    else .error .textAfterConversion
  | .inSpec name conversion depth spec, c => .ok (stepSpec name conversion depth spec c)

/-- What is wrong if the template ends here. -/
def Place.atEnd : Place → Option Fault
  | .outside => none
  | .opened => some .lonelyOpening
  | .closed => some .lonelyClosing
  | .inName _ | .inIndex _ => some .unclosedField
  | .afterBang _ => some .missingConversion
  | .converted _ _ | .inSpec _ _ _ _ => some .unclosedSpec

/-- The pieces from a place on, up to the first fault if there is one. -/
def scanFrom : Place → List Char → List Piece × Option Fault
  | place, [] => ([], place.atEnd)
  | place, c :: rest =>
    match place.step c with
    | .error fault => ([], some fault)
    | .ok (next, pieces) =>
      let (more, fault) := scanFrom next rest
      (pieces ++ more, fault)

def scan (text : List Char) : List Piece × Option Fault := scanFrom .outside text

/-- A text written so that it stands for itself. -/
def escape (text : List Char) : List Char :=
  text.flatMap fun c => if c = '{' ∨ c = '}' then [c, c] else [c]

/-- A template that scans to its end without a fault may be followed by any other. -/
theorem scanFrom_append {place : Place} {text : List Char} {pieces : List Piece}
    (clean : scanFrom place text = (pieces, none)) (rest : List Char) :
    scanFrom place (text ++ rest) = (pieces ++ (scan rest).1, (scan rest).2) := by
  induction text generalizing place pieces with
  | nil =>
    cases place <;> simp [scanFrom, Place.atEnd] at clean
    subst clean
    rfl
  | cons c more ih =>
    simp only [scanFrom, List.cons_append] at clean ⊢
    cases step : place.step c with
    | error fault => rw [step] at clean; simp at clean
    | ok next =>
      rw [step] at clean
      simp only [Prod.mk.injEq] at clean
      have tail := @ih next.1 (scanFrom next.1 more).1 (by rw [← clean.2])
      simp only [tail, ← clean.1, List.append_assoc]

theorem scan_escape (text : List Char) : scan (escape text) = (text.map .literal, none) := by
  induction text with
  | nil => rfl
  | cons c rest ih =>
    simp only [scan, escape] at ih
    by_cases opening : c = '{'
    · subst opening
      simp [scan, escape, scanFrom, Place.step, ih]
    · by_cases closing : c = '}'
      · subst closing
        simp [scan, escape, scanFrom, Place.step, ih]
      · simp [scan, escape, scanFrom, Place.step, opening, closing, ih]

end Bookbinder.Template
