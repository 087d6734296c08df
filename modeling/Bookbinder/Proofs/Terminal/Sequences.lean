import Mathlib.Data.List.TakeWhile
import Bookbinder.Terminal.Codes

/-!
Text with control sequences in it. Main statement: text is shown as it is where there is no terminal just if
no sequence stands anywhere in it.
-/

set_option autoImplicit false

namespace Bookbinder.Terminal

/-- A control sequence stands somewhere in a text. -/
inductive HoldsSequence : List Char → Prop where
  | first {parameters intermediates rest : List Char} {last : Char}
      (allParameters : ∀ c ∈ parameters, isParameter c = true)
      (allIntermediates : ∀ c ∈ intermediates, isIntermediate c = true) (final : isFinal last = true) :
      HoldsSequence ('\x1b' :: '[' :: (parameters ++ (intermediates ++ last :: rest)))
  | later {c : Char} {text : List Char} (holds : HoldsSequence text) : HoldsSequence (c :: text)

theorem not_isParameter_of_isIntermediate {c : Char} (intermediate : isIntermediate c = true) :
    isParameter c = false := by
  simp only [isIntermediate, isParameter, Bool.and_eq_true, decide_eq_true_eq, Bool.and_eq_false_iff,
    decide_eq_false_iff_not] at *
  omega

theorem not_isParameter_of_isFinal {c : Char} (final : isFinal c = true) :
    isParameter c = false ∧ isIntermediate c = false := by
  simp only [isFinal, isIntermediate, isParameter, Bool.and_eq_true, decide_eq_true_eq,
    Bool.and_eq_false_iff, decide_eq_false_iff_not] at *
  omega

theorem afterSequence?_eq_some_iff {text rest : List Char} :
    afterSequence? text = some rest ↔ ∃ parameters intermediates last,
      text = parameters ++ (intermediates ++ last :: rest) ∧ (∀ c ∈ parameters, isParameter c = true) ∧
        (∀ c ∈ intermediates, isIntermediate c = true) ∧ isFinal last = true := by
  unfold afterSequence?
  constructor
  · intro found
    split at found
    · next last after reached =>
      split at found
      · next final =>
        cases found
        refine ⟨text.takeWhile isParameter, (text.dropWhile isParameter).takeWhile isIntermediate, last, ?_,
          fun _ => List.mem_takeWhile_imp, fun _ => List.mem_takeWhile_imp, final⟩
        rw [← reached, List.takeWhile_append_dropWhile, List.takeWhile_append_dropWhile]
      · cases found
    · cases found
  · rintro ⟨parameters, intermediates, last, rfl, allParameters, allIntermediates, final⟩
    obtain ⟨noParameter, noIntermediate⟩ := not_isParameter_of_isFinal final
    have second : (intermediates ++ last :: rest).dropWhile isIntermediate = last :: rest := by
      rw [List.dropWhile_append_of_pos allIntermediates, List.dropWhile_cons, noIntermediate]
      rfl
    have first : (intermediates ++ last :: rest).dropWhile isParameter = intermediates ++ last :: rest := by
      cases intermediates with
      | nil => simp [noParameter]
      | cons c more =>
        have other := not_isParameter_of_isIntermediate (allIntermediates c List.mem_cons_self)
        simp [other]
    rw [List.dropWhile_append_of_pos allParameters, first, second]
    simp [final]

theorem length_withoutSequences_le (text : List Char) : (withoutSequences text).length ≤ text.length := by
  fun_induction withoutSequences text with
  | case1 => exact Nat.le_refl _
  | case2 others rest found shorter ih =>
    simp only [List.length_cons]
    omega
  | case3 others none ih => simpa using ih
  | case4 c others _ ih => simpa using ih

/-- Text is shown as it is just if there is no sequence in it. -/
theorem withoutSequences_eq_self_iff (text : List Char) :
    withoutSequences text = text ↔ ¬ HoldsSequence text := by
  fun_induction withoutSequences text with
  | case1 =>
    refine ⟨fun _ holds => ?_, fun _ => rfl⟩
    cases holds
  | case2 others rest found shorter ih =>
    obtain ⟨parameters, intermediates, last, rfl, allParameters, allIntermediates, final⟩ :=
      afterSequence?_eq_some_iff.1 found
    -- the text gets shorter by the sequence, so it is not what it was
    refine ⟨fun same => ?_, fun free => absurd (.first allParameters allIntermediates final) free⟩
    have bound := length_withoutSequences_le rest
    rw [same] at bound
    simp only [List.length_cons] at bound
    omega
  | case3 others none ih =>
    -- what only begins like a sequence stays, and none begins at its bracket
    rw [List.cons.injEq, List.cons.injEq, and_iff_right rfl, and_iff_right rfl, ih, not_iff_not]
    refine ⟨fun holds => .later (.later holds), fun holds => ?_⟩
    rcases holds with ⟨allParameters, allIntermediates, final⟩ | holds
    · cases none.symm.trans
        (afterSequence?_eq_some_iff.2 ⟨_, _, _, rfl, allParameters, allIntermediates, final⟩)
    · rcases holds with _ | holds
      exact holds
  | case4 c others different ih =>
    rw [List.cons.injEq, and_iff_right rfl, ih, not_iff_not]
    refine ⟨.later, fun holds => ?_⟩
    cases holds with
    | first => exact absurd rfl (different _ rfl)
    | later holds => exact holds

end Bookbinder.Terminal
