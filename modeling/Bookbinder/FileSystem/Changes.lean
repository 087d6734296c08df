import Bookbinder.FileSystem.Basic

/-!
What differs between two states of a directory, as it can be seen from outside: which entries are
there, what files hold, permission bits, and where links point. Main statement: where nothing has
changed, nothing differs.
-/

set_option autoImplicit false

namespace Bookbinder.FileSystem

/-- What can be seen of an entry. -/
inductive View where
  | directory (mode : Nat)
  | file (content : Content)
  | symlink (target : String)
  deriving DecidableEq, Repr

def viewAt? (files : FileSystem) (spot : Spot) : Option View :=
  match files.entryAt? spot with
  | some (.directory _ mode) => some (.directory mode)
  | some (.file number) => (files.content? number).map .file
  | some (.symlink target) => some (.symlink target)
  | some .shell | some .sink | none => none

/-- A difference: the path from the directory on, and what is there now, if anything. -/
structure Difference where
  path : String
  now : Option View
  deriving DecidableEq, Repr

/-- The spots below a directory. -/
def spotsBelow (files : FileSystem) (directory : Spot) : List Spot :=
  (files.entries.map Prod.fst).filter fun spot =>
    directory.isPrefixOf spot && spot.length != directory.length

/-- The differences below a directory, in the order of their paths. -/
def differences (directory : Spot) (before after : FileSystem) : List Difference :=
  let gone := (before.spotsBelow directory).filter fun spot => (after.viewAt? spot).isNone
  let changed := (after.spotsBelow directory).filter fun spot =>
    after.viewAt? spot ≠ before.viewAt? spot
  let found := (gone ++ changed).map fun spot : Spot =>
    (⟨"/".intercalate (spot.drop directory.length), after.viewAt? spot⟩ : Difference)
  found.mergeSort fun a b => a.path ≤ b.path

theorem differences_self (directory : Spot) (files : FileSystem)
    (visible : ∀ spot ∈ files.spotsBelow directory, (files.viewAt? spot).isSome) :
    differences directory files files = [] := by
  have none : (files.spotsBelow directory).filter (fun spot => (files.viewAt? spot).isNone) = [] := by
    rw [List.filter_eq_nil_iff]
    intro spot member
    have := visible spot member
    cases seen : files.viewAt? spot <;> simp_all
  have same : (files.spotsBelow directory).filter
      (fun spot => files.viewAt? spot ≠ files.viewAt? spot) = [] := by
    simp
  simp only [differences, none, same, List.append_nil, List.map_nil, List.mergeSort_nil]

end Bookbinder.FileSystem
