import Bookbinder.Archive.Fault
import Bookbinder.Text.Integer

/-!
The time at which a file was changed last, in seconds. Times themselves are not kept; but one that cannot
be set is a fault.
-/

set_option autoImplicit false

namespace Bookbinder.Archive

inductive Time where
  /-- A time that is known exactly. -/
  | whole (seconds : Int)
  /-- A time that is written with a fraction, here without it. -/
  | rounded (seconds : Int)
  /-- A time that is too large for its form. -/
  | beyond
  | notANumber
  deriving DecidableEq, Repr

namespace Time

/-- What lies in the middle between times and no longer is one. -/
def limit : Int := 0x8000000000000000

/-- Numbers with a fraction have digits enough that all below the limit have fewer than this. -/
def digitLimit : Nat := 30

/-- The time that a text gives. -/
def ofText? (text : String) : Option Time :=
  (Text.Decimal.read? text.toList).map fun number =>
    match number.floor? digitLimit with
    | some seconds => .rounded seconds
    | none => if number = .notANumber then .notANumber else .beyond

/-- Numbers with a fraction keep 53 binary digits, so that those next to a limit are 1024 below it or
2048 beyond it. What is nearer to the limit counts as the limit, which itself is only a time if it is
negative. -/
def fault? : Time → Option Fault
  | .whole seconds => if -limit ≤ seconds ∧ seconds < limit then none else some (.overflow .time)
  | .rounded seconds =>
    if -(limit + 1024) ≤ seconds ∧ seconds < limit - 512 then none else some (.overflow .time)
  | .beyond => some (.overflow .time)
  | .notANumber => some (.misvalue .timeNotANumber)

theorem fault?_whole_eq_none_iff (seconds : Int) :
    (Time.whole seconds).fault? = none ↔ -limit ≤ seconds ∧ seconds < limit := by
  simp only [fault?]
  split <;> simp_all

end Time

end Bookbinder.Archive
