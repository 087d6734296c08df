/-!
Line ends of text files: a carriage return, alone or before a line feed, is read as a line feed.
-/

set_option autoImplicit false

namespace Bookbinder.Text

def unifyNewlines : List Char → List Char
  | [] => []
  | '\r' :: '\n' :: rest => '\n' :: unifyNewlines rest
  | c :: rest => (if c = '\r' then '\n' else c) :: unifyNewlines rest

theorem unifyNewlines_of_notMem {text : List Char} (none : '\r' ∉ text) :
    unifyNewlines text = text := by
  fun_induction unifyNewlines text with
  | case1 => rfl
  | case2 rest ih => simp at none
  | case3 c rest _ ih =>
    have : c ≠ '\r' := by rintro rfl; simp at none
    simp [this, ih (fun member => none (List.mem_cons_of_mem _ member))]

theorem return_notMem_unifyNewlines (text : List Char) : '\r' ∉ unifyNewlines text := by
  fun_induction unifyNewlines text with
  | case1 => simp
  | case2 rest ih => simp [ih]
  | case3 c rest _ ih =>
    by_cases same : c = '\r' <;> simp [same, ih]
    exact fun other => same other.symm

end Bookbinder.Text
