/-!
Rows of named values. A name keeps the place of its first appearance. Main statements: what is put
under a name is found there, and other names keep what they had.
-/

set_option autoImplicit false

namespace Bookbinder.Pairs

variable {α β : Type} [DecidableEq α]

def get? (pairs : List (α × β)) (name : α) : Option β :=
  match pairs with
  | [] => none
  | (other, value) :: rest => if other = name then some value else get? rest name

/-- The value under a name that is present is replaced where it stands; a new name comes last. -/
def put (pairs : List (α × β)) (name : α) (value : β) : List (α × β) :=
  match pairs with
  | [] => [(name, value)]
  | (other, old) :: rest =>
    if other = name then (name, value) :: rest else (other, old) :: put rest name value

def erase (pairs : List (α × β)) (name : α) : List (α × β) :=
  pairs.filter fun pair => pair.1 ≠ name

theorem get?_put (pairs : List (α × β)) (name other : α) (value : β) :
    get? (put pairs name value) other = if name = other then some value else get? pairs other := by
  induction pairs with
  | nil => simp [put, get?]
  | cons pair rest ih =>
    obtain ⟨first, old⟩ := pair
    by_cases here : first = name
    · subst here
      by_cases same : first = other <;> simp [put, get?, same]
    · by_cases same : first = other
      · subst same
        simp [put, get?, here, Ne.symm here]
      · simp [put, get?, here, same, ih]

theorem put_put (pairs : List (α × β)) (name : α) (first second : β) :
    put (put pairs name first) name second = put pairs name second := by
  induction pairs with
  | nil => simp [put]
  | cons pair rest ih =>
    by_cases here : pair.1 = name <;> simp [put, here, ih]

theorem get?_filter (pairs : List (α × β)) (keep : α → Bool) (name : α) :
    get? (pairs.filter fun pair => keep pair.1) name =
      if keep name then get? pairs name else none := by
  induction pairs with
  | nil => simp [get?]
  | cons pair rest ih =>
    obtain ⟨first, value⟩ := pair
    by_cases kept : keep first = true
    · by_cases same : first = name
      · subst same
        simp [List.filter, kept, get?]
      · simp [List.filter, kept, get?, same, ih]
    · by_cases same : first = name
      · subst same
        simp [List.filter, kept, ih]
      · simp [List.filter, kept, get?, same, ih]

theorem get?_erase (pairs : List (α × β)) (name other : α) :
    get? (erase pairs name) other = if other = name then none else get? pairs other := by
  have := get?_filter pairs (fun key => decide (key ≠ name)) other
  by_cases same : other = name <;> simp_all [erase]

end Bookbinder.Pairs
