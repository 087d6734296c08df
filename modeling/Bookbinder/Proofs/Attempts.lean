/-!
Attempts that give a value or a fault: what a value of several of them, one after the other, shows of each.
Where the faults do not matter, attempts are compared by the values they give.
-/

set_option autoImplicit false

namespace Bookbinder

variable {ε α β : Type}

theorem bind_eq_ok_iff {first : Except ε α} {next : α → Except ε β} {value : β} :
    first >>= next = .ok value ↔ ∃ middle, first = .ok middle ∧ next middle = .ok value := by
  cases first with
  | error fault => simp [bind, Except.bind]
  | ok middle => simp [bind, Except.bind]

theorem map_eq_ok_iff {first : Except ε α} {change : α → β} {value : β} :
    first.map change = .ok value ↔ ∃ middle, first = .ok middle ∧ change middle = value := by
  cases first with
  | error fault => simp [Except.map]
  | ok middle => simp [Except.map]

@[simp] theorem bind_ok (value : α) (next : α → Except ε β) : Except.ok value >>= next = next value := rfl

@[simp] theorem bind_error (fault : ε) (next : α → Except ε β) :
    (Except.error fault : Except ε α) >>= next = .error fault := rfl

theorem exists_ok_of_isOk {first : Except ε α} (succeeds : first.isOk = true) :
    ∃ value, first = .ok value := by
  cases first with
  | error fault => cases succeeds
  | ok value => exact ⟨value, rfl⟩

theorem toOption_bind (first : Except ε α) (next : α → Except ε β) :
    (first >>= next).toOption = first.toOption.bind fun value => (next value).toOption := by
  cases first <;> rfl

theorem toOption_map (first : Except ε α) (change : α → β) :
    (first.map change).toOption = first.toOption.map change := by
  cases first <;> rfl

theorem eq_ok_of_toOption {first : Except ε α} {value : α} (gives : first.toOption = some value) :
    first = .ok value := by
  cases first with
  | error fault => cases gives
  | ok given =>
    cases gives
    rfl

/-- Two attempts with the same values, but for a change, succeed together. -/
theorem eq_ok_iff_of_toOption {δ : Type} {first : Except ε α} {second : Except δ β} {change : β → α}
    {value : α} (same : first.toOption = second.toOption.map change) :
    first = .ok value ↔ ∃ found, second = .ok found ∧ change found = value := by
  cases first with
  | error fault =>
    cases second with
    | error other => simp
    | ok found => cases same
  | ok given =>
    cases second with
    | error other => cases same
    | ok found =>
      cases same
      simp

end Bookbinder
