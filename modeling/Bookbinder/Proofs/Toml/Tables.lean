import Bookbinder.Proofs.Attempts
import Bookbinder.Toml.Document

/-!
What a statement does to the table of a document and to its marks. Every change is one of what stands
under a single path, so it touches nothing but what stands under the first name of it. Main statements:
`enter_eq_ok_iff`, `openTable_eq_ok_iff` and `openTableArray_eq_ok_iff`.
-/

set_option autoImplicit false

namespace Bookbinder.Toml

theorem Table.put_of_absent {table : Table} {name : String} (absent : table.get? name = none)
    (value : Value) : table.put name value = table ++ [(name, value)] := by
  induction table with
  | nil => rfl
  | cons entry others ih =>
    obtain ⟨first, held⟩ := entry
    by_cases here : first = name
    · simp [Table.get?, Pairs.get?, here] at absent
    · have later : Table.get? others name = none := by
        simpa [Table.get?, Pairs.get?, here] using absent
      simpa [Table.put, Pairs.put, here] using ih later

/-- A change of what stands under one name. -/
def Table.changeAt (name : String) (change : Option Value → Except Fault Value) (table : Table) :
    Except Fault Table :=
  (change (table.get? name)).map (table.put name)

/-- A change within the table that stands under a name, or the last one of an array of tables. -/
def within (intoArrays : Bool) (change : Table → Except Fault Table) : Option Value → Except Fault Value
  | none => (change []).map .table
  | some (.table inner) => (change inner).map .table
  | some (.array items) =>
    match intoArrays, items.getLast? with
    | true, some (.table inner) =>
      (change inner).map fun changed => .array (items.dropLast ++ [.table changed])
    | _, _ => .error .overwritten
  | some _ => .error .overwritten

/-- The table that a name stands for: an empty one if there is none yet. -/
def Table.sub? (table : Table) (name : String) : Option Table :=
  match table.get? name with
  | none => some []
  | some (.table inner) => some inner
  | some _ => none

/-- A value where none is. -/
def fresh (value : Value) (taken : Fault) : Option Value → Except Fault Value
  | none => .ok value
  | some _ => .error taken

/-- One more table at the end of an array. -/
def oneMore : Option Value → Except Fault Value
  | none => .ok (.array [.table []])
  | some (.array items) => .ok (.array (items ++ [.table []]))
  | some _ => .error .overwritten

theorem addEntry_eq (name : String) (value : Value) (taken : Fault) :
    addEntry name value taken = Table.changeAt name (fresh value taken) := by
  funext table
  unfold addEntry Table.changeAt
  cases held : table.get? name with
  | none => simp [fresh, Except.map, Table.put_of_absent held]
  | some old => rfl

theorem appendTable_eq (name : String) :
    Document.appendTable name = Table.changeAt name oneMore := by
  funext table
  unfold Document.appendTable Table.changeAt
  cases held : table.get? name with
  | none => simp [oneMore, Except.map, Table.put_of_absent held]
  | some old => cases old <;> rfl

theorem under_cons (intoArrays : Bool) (name : String) (rest : Key) (change : Table → Except Fault Table) :
    Table.under intoArrays (name :: rest) change =
      Table.changeAt name (within intoArrays (Table.under intoArrays rest change)) := by
  funext table
  rw [Table.under, Table.changeAt]
  cases held : table.get? name with
  | none => simp only [within]; cases Table.under intoArrays rest change [] <;> rfl
  | some old =>
    cases old with
    | table inner => simp only [within]; cases Table.under intoArrays rest change inner <;> rfl
    | array items =>
      simp only [within]
      cases intoArrays with
      | false => rfl
      | true =>
        cases last : items.getLast? with
        | none => rfl
        | some item =>
          cases item with
          | table inner => simp only; cases Table.under true rest change inner <;> rfl
          | _ => rfl
    | _ => rfl

/-- A change of what stands under a path, with the tables on the way made where they are missing. -/
def Table.alter (intoArrays : Bool) (change : Option Value → Except Fault Value) :
    String → Key → Table → Except Fault Table
  | name, [] => Table.changeAt name change
  | name, next :: rest => Table.changeAt name (within intoArrays (Table.alter intoArrays change next rest))

theorem under_dropLast (intoArrays : Bool) (change : Option Value → Except Fault Value) (name : String)
    (rest : Key) :
    Table.under intoArrays (name :: rest).dropLast
        (Table.changeAt ((name :: rest).getLastD "") change) =
      Table.alter intoArrays change name rest := by
  induction rest generalizing name with
  | nil => rfl
  | cons next rest ih =>
    have last : (name :: next :: rest).getLastD "" = (next :: rest).getLastD "" := by simp
    rw [last, List.dropLast_cons_cons, under_cons, ih]
    rfl

theorem under_ok (intoArrays : Bool) (name : String) (rest : Key) :
    Table.under intoArrays (name :: rest) .ok =
      Table.alter intoArrays (within intoArrays .ok) name rest := by
  induction rest generalizing name with
  | nil => rw [under_cons]; rfl
  | cons next rest ih => rw [under_cons, ih]; rfl

theorem addInline_of_free {frozen : List Key} {name : String} {rest : Key}
    (free : isFrozen frozen (name :: rest) = false) (value : Value) :
    addInline frozen (name :: rest) value =
      Table.alter false (fresh value (.duplicateInlineKey ((name :: rest).getLastD ""))) name rest := by
  funext table
  rw [addInline, free, if_neg Bool.false_ne_true]
  simp only [addEntry_eq, under_dropLast]

namespace Document

variable {document next : Document} {key rest : Key} {name : String} {value : Value}

theorem enter_eq_ok_iff (path : document.header ++ key = name :: rest) (some : key ≠ []) :
    document.enter key value = .ok next ↔
      (∀ stem ∈ stems document.header key, stem ∉ document.declared) ∧
      isFrozen document.frozen (document.header ++ key.dropLast) = false ∧
      ∃ table, Table.alter true (fresh value .overwritten) name rest document.table = .ok table ∧
        next = { document with
          table := table
          frozen := if value.isNested then (document.header ++ key) :: document.frozen
            else document.frozen
          pending := stems document.header key ++ document.pending } := by
  have parent : document.header ++ key.dropLast = (name :: rest).dropLast := by
    rw [← path, List.dropLast_append_of_ne_nil some]
  have last : key.getLastD "" = (name :: rest).getLastD "" := by
    obtain ⟨final, ends⟩ := Option.ne_none_iff_exists'.1 (mt List.getLast?_eq_none_iff.1 some)
    rw [← path]
    simp [List.getLastD_eq_getLast?, ends]
  have change : document.table.under true (document.header ++ key.dropLast)
      (addEntry (key.getLastD "") value .overwritten) =
      Table.alter true (fresh value .overwritten) name rest document.table := by
    rw [addEntry_eq, parent, last, under_dropLast]
  unfold enter
  cases declared : (stems document.header key).find? document.isDeclared with
  | some stem =>
    have member := List.mem_of_find?_eq_some declared
    have taken : stem ∈ document.declared := by
      simpa [isDeclared] using List.find?_some declared
    simp only [declared]
    constructor
    · rintro ⟨⟩
    · rintro ⟨free, -⟩
      exact absurd taken (free stem member)
  | none =>
    have free : ∀ stem ∈ stems document.header key, stem ∉ document.declared := by
      simpa [isDeclared] using declared
    simp only [declared]
    cases frozen : isFrozen document.frozen (document.header ++ key.dropLast) with
    | true => simp [bind, Except.bind, throw, throwThe, MonadExceptOf.throw]
    | false =>
      rw [change]
      simp only [Bool.false_eq_true, if_false]
      constructor
      · intro entered
        obtain ⟨table, altered, same⟩ := bind_eq_ok_iff.1 entered
        cases same
        exact ⟨free, trivial, table, altered, rfl⟩
      · rintro ⟨-, -, table, altered, rfl⟩
        rw [altered]
        rfl

theorem openTable_eq_ok_iff :
    document.openTable (name :: rest) = .ok next ↔
      name :: rest ∉ document.declared ∧ isFrozen document.frozen (name :: rest) = false ∧
      ∃ table, Table.alter true (within true .ok) name rest document.table = .ok table ∧
        next = { document with
          table := table
          declared := (name :: rest) :: document.declared
          header := name :: rest } := by
  have taken : (document.isDeclared (name :: rest) || isFrozen document.frozen (name :: rest)) = false ↔
      name :: rest ∉ document.declared ∧ isFrozen document.frozen (name :: rest) = false := by
    simp [isDeclared]
  rw [openTable, ← and_assoc, ← taken, under_ok]
  cases document.isDeclared (name :: rest) || isFrozen document.frozen (name :: rest) with
  | true => simp [bind, Except.bind, throw, throwThe, MonadExceptOf.throw]
  | false =>
    simp only [Bool.false_eq_true, if_false, true_and]
    constructor
    · intro opened
      obtain ⟨table, altered, same⟩ := bind_eq_ok_iff.1 opened
      cases same
      exact ⟨table, altered, rfl⟩
    · rintro ⟨table, altered, rfl⟩
      rw [altered]
      rfl

theorem openTableArray_eq_ok_iff :
    document.openTableArray (name :: rest) = .ok next ↔
      isFrozen document.frozen (name :: rest) = false ∧
      ∃ table, Table.alter true oneMore name rest document.table = .ok table ∧
        next = { document with
          table := table
          frozen := document.frozen.filter fun other => !(name :: rest).isPrefixOf other
          declared := (name :: rest) ::
            document.declared.filter fun other => !(name :: rest).isPrefixOf other
          header := name :: rest } := by
  rw [openTableArray, appendTable_eq, under_dropLast]
  cases isFrozen document.frozen (name :: rest) with
  | true => simp [bind, Except.bind, throw, throwThe, MonadExceptOf.throw]
  | false =>
    simp only [Bool.false_eq_true, if_false, true_and]
    constructor
    · intro opened
      obtain ⟨table, altered, same⟩ := bind_eq_ok_iff.1 opened
      cases same
      exact ⟨table, altered, rfl⟩
    · rintro ⟨table, altered, rfl⟩
      rw [altered]
      rfl

theorem header_enter (some : key ≠ []) (entered : document.enter key value = .ok next) :
    next.header = document.header := by
  cases path : document.header ++ key with
  | nil => exact absurd (List.append_eq_nil_iff.1 path).2 some
  | cons name rest =>
    obtain ⟨-, -, table, -, rfl⟩ := (enter_eq_ok_iff path some).1 entered
    rfl

theorem header_openTable (opened : document.openTable key = .ok next) : next.header = key := by
  unfold openTable at opened
  split at opened
  · cases opened
  · obtain ⟨table, -, same⟩ := bind_eq_ok_iff.1 opened
    cases same
    rfl

theorem header_openTableArray (opened : document.openTableArray key = .ok next) : next.header = key := by
  unfold openTableArray at opened
  split at opened
  · cases opened
  · obtain ⟨table, -, same⟩ := bind_eq_ok_iff.1 opened
    cases same
    rfl

end Document

end Bookbinder.Toml
