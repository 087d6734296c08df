import Bookbinder.Proofs.Attempts
import Bookbinder.Proofs.Template.Grammar
import Bookbinder.Release

/-!
What templates expand to. Main statements: a template made of literal text and plain fields expands to the
text and the values, as they are; and all fields of a template that expands, those in specs included, are
known.
-/

set_option autoImplicit false

namespace Bookbinder.Template

/-- A field of a template, or of the spec of one of its fields. -/
inductive HasField : List Char → Field → Prop where
  | direct {pieces : List Piece} {template : List Char} {field : Field} (written : IsWritten pieces template)
    (member : .field field ∈ pieces) : HasField template field
  | nested {template : List Char} {outer field : Field} (has : HasField template outer)
    (inside : HasField outer.spec field) : HasField template field

theorem HasField.opens {template : List Char} {field : Field} (has : HasField template field) :
    '{' ∈ template := by
  induction has with
  | direct written member =>
    induction written with
    | nil => cases member
    | cons first onward ih =>
      rcases List.mem_cons.1 member with rfl | later
      · cases first
        simp
      · exact List.mem_append_right _ (ih later)
  | nested has inside ihHas ihInside => exact ihHas

section

variable {values : Values} {expandSpec : List Char → Except Fault (List Char)}

theorem isSome_of_lookUp {name value : List Char} (found : lookUp values name = .ok value) :
    (values (rootOf name)).isSome := by
  unfold lookUp at found
  obtain ⟨number, _, found⟩ := bind_eq_ok_iff.1 found
  cases number with
  | some index => cases found
  | none =>
    simp only at found
    split at found
    · cases found
    · cases known : values (rootOf name) with
      | none => simp [known] at found
      | some value => rfl

theorem expandField_eq_ok {field : Field} {text : List Char}
    (expanded : expandField values expandSpec field = .ok text) :
    (values (rootOf field.name)).isSome ∧
      ('{' ∈ field.spec → ∃ spec, expandSpec field.spec = .ok spec) := by
  obtain ⟨value, found, expanded⟩ := bind_eq_ok_iff.1 expanded
  obtain ⟨value, _, expanded⟩ := bind_eq_ok_iff.1 expanded
  refine ⟨isSome_of_lookUp found, fun opens => ?_⟩
  have inside : field.spec.contains '{' = true := by simpa using opens
  simp only [inside, if_true] at expanded
  obtain ⟨spec, expands, _⟩ := bind_eq_ok_iff.1 expanded
  exact ⟨spec, expands⟩

theorem expandPieces_eq_ok {pieces : List Piece} {text : List Char}
    (expanded : expandPieces values expandSpec pieces = .ok text) {field : Field}
    (member : .field field ∈ pieces) : ∃ text, expandField values expandSpec field = .ok text := by
  induction pieces generalizing text with
  | nil => cases member
  | cons piece rest ih =>
    obtain ⟨first, expands, expanded⟩ := bind_eq_ok_iff.1 expanded
    obtain ⟨more, onward, _⟩ := bind_eq_ok_iff.1 expanded
    rcases List.mem_cons.1 member with rfl | later
    · exact ⟨first, expands⟩
    · exact ih onward later

/-- Wherever a field stands in a template that expands, its value is known, and its spec expands. -/
theorem HasField.isSome {template : List Char} {field : Field} (has : HasField template field) {depth : Nat}
    {text : List Char} (expanded : expandNested values depth template = .ok text) :
    (values (rootOf field.name)).isSome ∧
      ('{' ∈ field.spec → ∃ less spec, expandNested values less field.spec = .ok spec) := by
  induction has generalizing depth text with
  | direct written member =>
    cases depth with
    -- with no level left nothing expands
    | zero => cases expanded
    | succ depth =>
      have pieces := (expandWith_eq_ok_iff.1 expanded).2
      rw [written.scan_eq] at pieces
      obtain ⟨_, expands⟩ := expandPieces_eq_ok pieces member
      obtain ⟨known, opens⟩ := expandField_eq_ok expands
      exact ⟨known, fun inside => ⟨depth, opens inside⟩⟩
  | nested has inside ihHas ihInside =>
    -- the spec of the outer field was expanded too, as there is a brace in it
    obtain ⟨less, spec, expands⟩ := (ihHas expanded).2 inside.opens
    exact ihInside expands

theorem isWritten_of_expand {template text : List Char} (expanded : expand values template = .ok text) :
    ∃ pieces, IsWritten pieces template := by
  have clean := (expandWith_eq_ok_iff.1 expanded).1
  exact ⟨(scan template).1, scan_eq_iff.1 (Prod.ext rfl clean)⟩

end

/-! ### Plain templates -/

/-- A value of a release that a template may ask for. -/
inductive Slot where
  | name
  | version
  | platform
  deriving DecidableEq, Repr

def Slot.label : Slot → List Char
  | .name => "name".toList
  | .version => "version".toList
  | .platform => "platform".toList

/-- Literal text, or a plain field. -/
inductive Segment where
  | text (chars : List Char)
  | field (slot : Slot)
  deriving DecidableEq, Repr

def Segment.written : Segment → List Char
  | .text chars => escape chars
  | .field slot => '{' :: slot.label ++ ['}']

/-- What a segment stands for. -/
def Segment.filled (value : Slot → List Char) : Segment → List Char
  | .text chars => chars
  | .field slot => value slot

end Bookbinder.Template

namespace Bookbinder.Release

open Template

def slot (release : Release) : Slot → List Char
  | .name => release.name.toList
  | .version => release.version.toList
  | .platform => release.platform.toList

theorem values_isSome_iff (release : Release) (name : List Char) :
    (release.values name).isSome ↔ ∃ slot : Slot, name = slot.label := by
  unfold values
  constructor
  · intro known
    split at known
    · next same => exact ⟨.name, same⟩
    next =>
      split at known
      · next same => exact ⟨.version, same⟩
      next =>
        split at known
        · next same => exact ⟨.platform, same⟩
        · cases known
  · rintro ⟨slot, rfl⟩
    cases slot <;> rfl

end Bookbinder.Release

namespace Bookbinder.Template

theorem expandPieces_literal (values : Values) (expandSpec : List Char → Except Fault (List Char))
    (chars : List Char) : expandPieces values expandSpec (chars.map .literal) = .ok chars := by
  induction chars with
  | nil => rfl
  | cons c rest ih => simp [expandPieces, expandPiece, ih, bind, Except.bind, pure, Except.pure]

theorem scan_slot (slot : Slot) :
    scan ('{' :: slot.label ++ ['}']) = ([.field ⟨slot.label, none, []⟩], none) := by
  cases slot <;> decide

theorem lookUp_label (release : Release) (slot : Slot) :
    lookUp release.values slot.label = .ok (release.slot slot) := by
  have root : rootOf slot.label = slot.label := by cases slot <;> decide
  have number : wholeNumber? slot.label = .ok none := by cases slot <;> rfl
  have accesses : accessesOf slot.label = ([], none) := by cases slot <;> decide
  have value : release.values slot.label = some (release.slot slot) := by cases slot <;> rfl
  have named : slot.label.isEmpty = false := by cases slot <;> decide
  simp [lookUp, root, number, accesses, value, named, bind, Except.bind, pure, Except.pure]

theorem expand_segment (release : Release) (segment : Segment) :
    expand release.values segment.written = .ok (segment.filled release.slot) := by
  refine expandWith_eq_ok_iff.2 ?_
  cases segment with
  | text chars =>
    rw [Segment.written, scan_escape]
    exact ⟨rfl, expandPieces_literal _ _ chars⟩
  | field slot =>
    rw [Segment.written, scan_slot]
    refine ⟨rfl, ?_⟩
    simp [expandPieces, expandPiece, expandField, lookUp_label, convert, layOut, Segment.filled, bind,
      Except.bind, pure, Except.pure]

/-- The text of a template, segment by segment. -/
def written (segments : List Segment) : List Char := segments.flatMap Segment.written

theorem expand_written (release : Release) (segments : List Segment) :
    expand release.values (written segments) = .ok (segments.flatMap (Segment.filled release.slot)) := by
  induction segments with
  | nil => rfl
  | cons segment rest ih => exact expandWith_append (expand_segment release segment) ih

end Bookbinder.Template

namespace Bookbinder.Release

open Template

def withTemplate (release : Release) (template : String) : Release := { release with template := template }

theorem url_eq_ok_iff {release : Release} {text : String} :
    release.url = .ok text ↔ expand release.values release.template.toList = .ok text.toList := by
  unfold url
  cases expand release.values release.template.toList with
  | error fault => simp [Except.map]
  | ok chars => simp [Except.map, ← String.toList_inj]

theorem values_withTemplate (release : Release) (template : String) :
    (release.withTemplate template).values = release.values := rfl

/-- Literal text and plain fields come to the text and the values in their order, whatever braces there are in
the values; and the address that two templates give one after the other is that of the first, and then that of
the second. -/
theorem url_withTemplate (release : Release) :
    (∀ segments : List Segment, (release.withTemplate (String.ofList (written segments))).url =
      .ok (String.ofList (segments.flatMap (Segment.filled release.slot)))) ∧
    ∀ first second a b : String, (release.withTemplate first).url = .ok a →
      (release.withTemplate second).url = .ok b →
      (release.withTemplate (first ++ second)).url = .ok (a ++ b) := by
  constructor
  · intro segments
    rw [url_eq_ok_iff, values_withTemplate, withTemplate, String.toList_ofList, String.toList_ofList]
    exact expand_written release segments
  · intro first second a b left right
    rw [url_eq_ok_iff, values_withTemplate] at left right ⊢
    rw [withTemplate, String.toList_append, String.toList_append]
    exact expandWith_append left right

/-- A release whose values look like templates. -/
def braced : Release := ⟨"9\x7bversion\x7d", "1\x7d", "\x7b\x7d", ""⟩

theorem url_withTemplate_of_braces :
    (braced.withTemplate "\x7b\x7b\x7bname\x7d\x7d\x7d").url = .ok "\x7b9\x7bversion\x7d\x7d" ∧
      (braced.withTemplate "\x7bversion!r:>\x7bname[0]\x7d\x7d").url = .ok "     '1\x7d'" ∧
      (braced.withTemplate ("\x7b\x7b\x7bname\x7d\x7d\x7d" ++ "\x7bversion!r:>\x7bname[0]\x7d\x7d")).url =
        .ok ("\x7b9\x7bversion\x7d\x7d" ++ "     '1\x7d'") := by
  have first : (braced.withTemplate "\x7b\x7b\x7bname\x7d\x7d\x7d").url =
      .ok "\x7b9\x7bversion\x7d\x7d" := rfl
  have second : (braced.withTemplate "\x7bversion!r:>\x7bname[0]\x7d\x7d").url = .ok "     '1\x7d'" := rfl
  exact ⟨first, second, (url_withTemplate braced).2 _ _ _ _ first second⟩

end Bookbinder.Release
