import Bookbinder.Template.Scan

/-!
How templates are written: plain characters, doubled braces, and fields between braces. Main statement: the
pieces that the scanner finds are exactly those that a template is written with.
-/

set_option autoImplicit false

namespace Bookbinder.Template

/-- A field's name as it may be written: braces and the marks that end a name stand in brackets only. -/
inductive IsFieldName : List Char → Prop where
  | nil : IsFieldName []
  | plain {name : List Char} {c : Char} (before : IsFieldName name) (free : c ∉ ['{', '}', ':', '!', '[']) :
    IsFieldName (name ++ [c])
  | index {name inside : List Char} (before : IsFieldName name) (unclosed : ']' ∉ inside) :
    IsFieldName (name ++ '[' :: inside ++ [']'])

/-- So many braces are open at the end of a text, and none was closed before it was opened. -/
structure LeavesOpen (depth : Nat) (text : List Char) : Prop where
  never : ∀ before, before <+: text → before.count '}' ≤ before.count '{'
  open_ : text.count '{' = depth + text.count '}'

/-- What stands between the braces of a field. -/
inductive Field.IsWritten : Field → List Char → Prop where
  | bare {name : List Char} (named : IsFieldName name) : IsWritten ⟨name, none, []⟩ name
  | spec {name spec : List Char} (named : IsFieldName name) (balanced : LeavesOpen 0 spec) :
    IsWritten ⟨name, none, spec⟩ (name ++ ':' :: spec)
  | converted {name : List Char} (named : IsFieldName name) (conversion : Char) :
    IsWritten ⟨name, some conversion, []⟩ (name ++ ['!', conversion])
  | convertedSpec {name spec : List Char} (named : IsFieldName name) (conversion : Char)
    (balanced : LeavesOpen 0 spec) :
    IsWritten ⟨name, some conversion, spec⟩ (name ++ '!' :: conversion :: ':' :: spec)

inductive Piece.IsWritten : Piece → List Char → Prop where
  | plain {c : Char} (notOpening : c ≠ '{') (notClosing : c ≠ '}') : IsWritten (.literal c) [c]
  | doubled {c : Char} (brace : c = '{' ∨ c = '}') : IsWritten (.literal c) [c, c]
  | field {field : Field} {text : List Char} (written : field.IsWritten text) :
    IsWritten (.field field) ('{' :: text ++ ['}'])

/-- A template is written piece by piece. -/
inductive IsWritten : List Piece → List Char → Prop where
  | nil : IsWritten [] []
  | cons {piece : Piece} {pieces : List Piece} {text rest : List Char} (first : piece.IsWritten text)
    (onward : IsWritten pieces rest) : IsWritten (piece :: pieces) (text ++ rest)

theorem IsFieldName.head?_append {name rest : List Char} (named : IsFieldName name)
    (starts : rest.head? ≠ some '{') : (name ++ rest).head? ≠ some '{' := by
  induction named generalizing rest with
  | nil => exact starts
  | @plain name c named free ih =>
    have other : c ≠ '{' := fun same => free (by simp [same])
    rw [List.append_assoc]
    exact ih (by simpa using other)
  | index named unclosed ih =>
    rw [List.append_assoc, List.append_assoc]
    exact ih (by simp)

/-! ### The scanner finds what is written -/

theorem scanFrom_name {name : List Char} (named : IsFieldName name) (before rest : List Char) :
    scanFrom (.inName before) (name ++ rest) = scanFrom (.inName (name.reverse ++ before)) rest := by
  -- in brackets nothing but the closing one counts, not even braces
  have inside (chars name rest : List Char) (unclosed : ']' ∉ chars) :
      scanFrom (.inIndex name) (chars ++ ']' :: rest) =
        scanFrom (.inName (']' :: chars.reverse ++ name)) rest := by
    induction chars generalizing name with
    | nil => simp [scanFrom, Place.step]
    | cons c chars ih =>
      have open_ : c ≠ ']' := fun closes => unclosed (by simp [closes])
      have more : ']' ∉ chars := fun member => unclosed (List.mem_cons_of_mem _ member)
      simp [scanFrom, Place.step, open_, ih (c :: name) more]
  induction named generalizing rest with
  | nil => rfl
  | @plain name c named free ih =>
    simp only [List.mem_cons, List.not_mem_nil, or_false, not_or] at free
    obtain ⟨notOpening, notClosing, notColon, notBang, notBracket⟩ := free
    rw [List.append_assoc, ih]
    simp [scanFrom, Place.step, stepName, notOpening, notClosing, notColon, notBang, notBracket]
  | @index name chars named unclosed ih =>
    have entered : scanFrom (.inName (name.reverse ++ before)) ('[' :: (chars ++ ']' :: rest)) =
        scanFrom (.inIndex ('[' :: (name.reverse ++ before))) (chars ++ ']' :: rest) := by
      simp [scanFrom, Place.step, stepName]
    rw [List.append_assoc, List.append_assoc, ih, List.cons_append, List.singleton_append, entered,
      inside _ _ _ unclosed]
    simp

/-- A spec is read up to the brace that closes its field. -/
theorem scanFrom_spec {depth : Nat} {spec : List Char}
    (never : ∀ before, before <+: spec → before.count '}' ≤ depth + before.count '{')
    (closed : depth + spec.count '{' = spec.count '}') (name : List Char) (conversion : Option Char)
    (before : List Char) :
    scanFrom (.inSpec name conversion depth before) (spec ++ ['}']) =
      ([.field ⟨name.reverse, conversion, before.reverse ++ spec⟩], none) := by
  -- the depth is that of the braces before the rest of the spec, all of which it has to close
  induction spec generalizing depth before with
  | nil =>
    have outermost : depth = 0 := by simpa using closed
    subst outermost
    simp [scanFrom, Place.step, stepSpec, Place.atEnd]
  | cons c rest ih =>
    have onward (next : Nat) (step : stepSpec name conversion depth before c =
          (.inSpec name conversion next (c :: before), []))
        (counts : ∀ text, depth + (c :: text).count '{' + text.count '}' =
          next + text.count '{' + (c :: text).count '}') :
        scanFrom (.inSpec name conversion depth before) (c :: rest ++ ['}']) =
          ([.field ⟨name.reverse, conversion, before.reverse ++ c :: rest⟩], none) := by
      have deeper : ∀ text, text <+: rest → text.count '}' ≤ next + text.count '{' := by
        intro text within
        have bound := never (c :: text) ((List.prefix_cons_inj c).2 within)
        have balance := counts text
        omega
      have ends : next + rest.count '{' = rest.count '}' := by
        have balance := counts rest
        omega
      simp [scanFrom, Place.step, step, ih deeper ends]
    by_cases opening : c = '{'
    · subst opening
      exact onward (depth + 1) (by simp [stepSpec]) fun text => by simp; omega
    · by_cases closing : c = '}'
      · subst closing
        -- a brace that closes what nothing has opened would end the field
        have opened := never ['}'] ⟨rest, rfl⟩
        obtain ⟨outer, rfl⟩ : ∃ outer, depth = outer + 1 := ⟨depth - 1, by simp at opened; omega⟩
        exact onward outer (by simp [stepSpec]) fun text => by simp; omega
      · exact onward depth (by simp [stepSpec, opening, closing]) fun text => by simp [opening, closing]

theorem LeavesOpen.scanFrom {spec : List Char} (balanced : LeavesOpen 0 spec) (name : List Char)
    (conversion : Option Char) :
    scanFrom (.inSpec name conversion 0 []) (spec ++ ['}']) =
      ([.field ⟨name.reverse, conversion, spec⟩], none) := by
  refine scanFrom_spec (fun before within => ?_) ?_ name conversion []
  · have bound := balanced.never before within
    omega
  · have even := balanced.open_
    omega

theorem scan_field {field : Field} {text : List Char} (written : field.IsWritten text) :
    scan ('{' :: text ++ ['}']) = ([.field field], none) := by
  -- a name cannot start with a brace, so the field is not taken for a doubled one
  have entered {name : List Char} (named : IsFieldName name) (c : Char) (rest : List Char)
      (other : c ≠ '{') :
      scan ('{' :: (name ++ c :: rest)) = scanFrom (.inName name.reverse) (c :: rest) := by
    have first : scan ('{' :: (name ++ c :: rest)) = scanFrom (.inName []) (name ++ c :: rest) := by
      have starts : (name ++ c :: rest).head? ≠ some '{' := named.head?_append (by simpa using other)
      cases text : name ++ c :: rest with
      | nil => simp at text
      | cons start more =>
        have differs : start ≠ '{' := by simpa [text] using starts
        simp [scan, scanFrom, Place.step, differs]
    rw [first, scanFrom_name named, List.append_nil]
  cases written with
  | bare named =>
    rw [List.cons_append, entered named _ _ (by decide)]
    simp [scanFrom, Place.step, stepName, Place.atEnd]
  | spec named balanced =>
    have ended := balanced.scanFrom
    rw [List.cons_append, List.append_assoc, List.cons_append, entered named _ _ (by decide)]
    simp [Template.scanFrom, Place.step, stepName, ended]
  | converted named conversion =>
    rw [List.cons_append, List.append_assoc, List.cons_append, entered named _ _ (by decide)]
    simp [scanFrom, Place.step, stepName, Place.atEnd]
  | convertedSpec named conversion balanced =>
    have ended := balanced.scanFrom
    rw [List.cons_append, List.append_assoc, List.cons_append, entered named _ _ (by decide)]
    simp [scanFrom, Place.step, stepName, ended]

theorem scan_piece {piece : Piece} {text : List Char} (written : piece.IsWritten text) :
    scan text = ([piece], none) := by
  cases written with
  | plain notOpening notClosing => simp [scan, scanFrom, Place.step, Place.atEnd, notOpening, notClosing]
  | doubled brace =>
    rcases brace with rfl | rfl <;> simp [scan, scanFrom, Place.step, Place.atEnd]
  | field written => exact scan_field written

theorem IsWritten.scan_eq {pieces : List Piece} {text : List Char} (written : IsWritten pieces text) :
    scan text = (pieces, none) := by
  induction written with
  | nil => rfl
  | cons first onward ih =>
    have found := scanFrom_append (scan_piece first)
    rw [scan, found, ih]
    rfl

/-! ### What the scanner finds is written -/

def conversionText : Option Char → List Char
  | none => []
  | some conversion => ['!', conversion]

/-- The part of a piece that brings the scanner to a place. -/
def Place.After : Place → List Char → Prop
  | .outside, text => text = []
  | .opened, text => text = ['{']
  | .closed, text => text = ['}']
  | .inName name, text => IsFieldName name.reverse ∧ text = '{' :: name.reverse
  | .inIndex name, text =>
    ∃ before inside, IsFieldName before ∧ ']' ∉ inside ∧ name.reverse = before ++ '[' :: inside ∧
      text = '{' :: name.reverse
  | .afterBang name, text => IsFieldName name.reverse ∧ text = '{' :: (name.reverse ++ ['!'])
  | .converted name conversion, text =>
    IsFieldName name.reverse ∧ text = '{' :: (name.reverse ++ ['!', conversion])
  | .inSpec name conversion depth spec, text =>
    IsFieldName name.reverse ∧ LeavesOpen depth spec.reverse ∧
      text = '{' :: (name.reverse ++ conversionText conversion ++ ':' :: spec.reverse)

/-- A character brings the scanner further into a piece, or ends it. -/
def Place.Advances (text : List Char) (next : Place) (pieces : List Piece) : Prop :=
  (pieces = [] ∧ next.After text) ∨ ∃ piece, pieces = [piece] ∧ next = .outside ∧ piece.IsWritten text

theorem LeavesOpen.concat {depth : Nat} {spec : List Char} (opens : LeavesOpen depth spec) {c : Char}
    {next : Nat} (counts : next + (spec ++ [c]).count '}' = (spec ++ [c]).count '{') :
    LeavesOpen next (spec ++ [c]) where
  never before within := by
    rcases List.prefix_concat_iff.1 within with rfl | earlier
    · omega
    · exact opens.never before earlier
  open_ := counts.symm

theorem advances_stepName {name : List Char} (named : IsFieldName name.reverse) {c : Char} {next : Place}
    {pieces : List Piece} (stepped : stepName name c = .ok (next, pieces)) :
    next.Advances ('{' :: name.reverse ++ [c]) pieces := by
  unfold stepName at stepped
  split at stepped
  · cases stepped
  next notOpening =>
    split at stepped
    · next closes =>
      cases stepped
      exact .inr ⟨_, rfl, rfl, closes ▸ .field (.bare named)⟩
    · next notClosing =>
      split at stepped
      · next colon =>
        cases stepped
        refine .inl ⟨rfl, named, ⟨fun before within => ?_, rfl⟩, by simp [colon, conversionText]⟩
        simp [List.prefix_nil.1 within]
      · next notColon =>
        split at stepped
        · next bang =>
          cases stepped
          exact .inl ⟨rfl, named, by simp [bang]⟩
        · next notBang =>
          split at stepped
          · next bracket =>
            cases stepped
            exact .inl ⟨rfl, name.reverse, [], named, by simp, by simp [bracket], by simp [bracket]⟩
          · next notBracket =>
            cases stepped
            have free : c ∉ ['{', '}', ':', '!', '['] := by
              simp [notOpening, notClosing, notColon, notBang, notBracket]
            exact .inl ⟨rfl, by simpa using named.plain free, by simp⟩

theorem advances_stepSpec {name spec : List Char} {depth : Nat} (named : IsFieldName name.reverse)
    (opens : LeavesOpen depth spec.reverse) (conversion : Option Char) (c : Char) :
    Place.Advances ('{' :: (name.reverse ++ conversionText conversion ++ ':' :: spec.reverse) ++ [c])
      (stepSpec name conversion depth spec c).1 (stepSpec name conversion depth spec c).2 := by
  have counts : spec.count '{' = depth + spec.count '}' := by simpa using opens.open_
  have onward {next : Nat}
      (balance : next + (spec.reverse ++ [c]).count '}' = (spec.reverse ++ [c]).count '{') :
      Place.Advances ('{' :: (name.reverse ++ conversionText conversion ++ ':' :: spec.reverse) ++ [c])
        (.inSpec name conversion next (c :: spec)) [] :=
    .inl ⟨rfl, named, by simpa using opens.concat balance, by simp⟩
  unfold stepSpec
  split
  · next opening =>
    refine onward ?_
    simp [opening]
    omega
  next notOpening =>
    split
    · next closing =>
      subst closing
      split
      · -- the outermost brace ends the field
        refine .inr ⟨_, rfl, rfl, ?_⟩
        cases conversion with
        | none =>
          have written := Piece.IsWritten.field (.spec named opens)
          simpa [conversionText] using written
        | some conversion =>
          have written := Piece.IsWritten.field (.convertedSpec named conversion opens)
          simpa [conversionText] using written
      · refine onward ?_
        simp
        omega
    · next notClosing =>
      refine onward ?_
      simp [notOpening, notClosing]
      omega

theorem advances_step {place next : Place} {text : List Char} (after : place.After text) {c : Char}
    {pieces : List Piece} (stepped : place.step c = .ok (next, pieces)) :
    next.Advances (text ++ [c]) pieces := by
  cases place with
  | outside =>
    cases after
    simp only [Place.step] at stepped
    split at stepped
    · next opening =>
      cases stepped
      exact .inl ⟨rfl, by simp [Place.After, opening]⟩
    next notOpening =>
      split at stepped
      · next closing =>
        cases stepped
        exact .inl ⟨rfl, by simp [Place.After, closing]⟩
      · next notClosing =>
        cases stepped
        exact .inr ⟨_, rfl, rfl, .plain notOpening notClosing⟩
  | opened =>
    cases after
    simp only [Place.step] at stepped
    split at stepped
    · next again =>
      cases stepped
      exact .inr ⟨_, rfl, rfl, again ▸ .doubled (.inl again)⟩
    · have unnamed : IsFieldName ([] : List Char).reverse := .nil
      exact advances_stepName unnamed stepped
  | closed =>
    cases after
    simp only [Place.step] at stepped
    split at stepped
    · next again =>
      cases stepped
      exact .inr ⟨_, rfl, rfl, again ▸ .doubled (.inr again)⟩
    · cases stepped
  | inName name =>
    obtain ⟨named, rfl⟩ := after
    exact advances_stepName named stepped
  | inIndex name =>
    obtain ⟨before, inside, named, unclosed, way, rfl⟩ := after
    cases stepped
    split
    · next closing =>
      refine .inl ⟨rfl, ?_, by simp⟩
      rw [List.reverse_cons, way, closing]
      exact named.index unclosed
    · next open_ =>
      refine .inl ⟨rfl, before, inside ++ [c], named, ?_, by simp [way], by simp⟩
      simpa [unclosed] using Ne.symm open_
  | afterBang name =>
    obtain ⟨named, rfl⟩ := after
    cases stepped
    exact .inl ⟨rfl, named, by simp⟩
  | converted name conversion =>
    obtain ⟨named, rfl⟩ := after
    simp only [Place.step] at stepped
    split at stepped
    · next closes =>
      cases stepped
      exact .inr ⟨_, rfl, rfl, closes ▸ .field (.converted named conversion)⟩
    next notClosing =>
      split at stepped
      · next colon =>
        cases stepped
        refine .inl ⟨rfl, named, ⟨fun before within => ?_, rfl⟩, by simp [colon, conversionText]⟩
        simp [List.prefix_nil.1 within]
      · cases stepped
  | inSpec name conversion depth spec =>
    obtain ⟨named, opens, rfl⟩ := after
    have same : stepSpec name conversion depth spec c = (next, pieces) := Except.ok.inj stepped
    have advances := advances_stepSpec named opens conversion c
    rwa [same] at advances

/-- A scan that ends well completes the piece it started in, and finds the pieces after it. -/
theorem isWritten_of_scanFrom {place : Place} {before text : List Char} {pieces : List Piece}
    (after : place.After before) (found : scanFrom place text = (pieces, none)) :
    IsWritten pieces (before ++ text) := by
  -- what a place says of the piece so far is kept by each step, until the piece is complete
  induction text generalizing place before pieces with
  | nil =>
    -- only between pieces may a template end
    cases place <;> simp [scanFrom, Place.atEnd] at found
    cases after
    subst found
    exact .nil
  | cons c rest ih =>
    simp only [scanFrom] at found
    cases stepped : place.step c with
    | error fault => simp [stepped] at found
    | ok step =>
      obtain ⟨next, piece⟩ := step
      simp only [stepped, Prod.mk.injEq] at found
      obtain ⟨rfl, clean⟩ := found
      have onward : scanFrom next rest = ((scanFrom next rest).1, none) := by rw [← clean]
      rcases advances_step after stepped with ⟨rfl, further⟩ | ⟨piece, rfl, rfl, written⟩
      · simpa using ih further onward
      · have begins : Place.After .outside [] := rfl
        have more := ih begins onward
        simpa using IsWritten.cons written more

/-- The scanner finds exactly the pieces that a template is written with. -/
theorem scan_eq_iff {pieces : List Piece} {text : List Char} :
    scan text = (pieces, none) ↔ IsWritten pieces text := by
  have begins : Place.After .outside [] := rfl
  exact ⟨fun found => isWritten_of_scanFrom begins found, fun written => written.scan_eq⟩

end Bookbinder.Template
