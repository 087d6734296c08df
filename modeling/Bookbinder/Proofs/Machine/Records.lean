import Bookbinder.Build
import Bookbinder.Proofs.Machine.Outcomes
import Bookbinder.Workbench.System

/-!
Records, which are shown on demand only. Main statement: what is shown without a demand for records is what
would be shown if none had been written. The rules are for what is kept as long as nothing is written but
text and records of the program's own.
-/

set_option autoImplicit false

namespace Bookbinder

/-- The parts of the program that write records. -/
def loggers : List String :=
  [Workbench.commandOrigin, Delivery.origin, Tool.origin, Build.origin, "bookbuild.core.directory"]

def Emission.isRecord : Emission → Bool
  | .trace _ _ => true
  | _ => false

/-- Text, or a record of the program itself. -/
def Emission.IsOwn : Emission → Prop
  | .trace origin _ => origin ∈ loggers
  | _ => True

/-- The same machine, had no records been written. -/
def Machine.withoutRecords (machine : Machine) : Machine :=
  { machine with emissions := machine.emissions.filter fun emission => !emission.isRecord }

/-- Text in which records leave nothing is the same without them. -/
theorem join_withoutRecords {text shown : Emission → String}
    (same : ∀ emission, emission.isRecord = false → text emission = shown emission)
    (silent : ∀ emission, emission.isRecord = true → shown emission = "") (emissions : List Emission) :
    String.join ((emissions.filter fun emission => !emission.isRecord).map text) =
      String.join (emissions.map shown) := by
  induction emissions with
  | nil => rfl
  | cons emission rest ih =>
    cases record : emission.isRecord with
    | true => simp [record, silent emission record, ih]
    | false => simp [record, same emission record, ih]

theorem Machine.notices_withoutRecords (machine : Machine) :
    machine.withoutRecords.notices true = machine.notices false := by
  apply join_withoutRecords
  · intro emission text
    cases emission with
    | trace origin message => cases text
    | _ => rfl
  · intro emission record
    cases emission with
    | trace origin message => rfl
    | _ => cases record

theorem Machine.results_withoutRecords (machine : Machine) :
    machine.withoutRecords.results = machine.results := by
  apply join_withoutRecords
  · intro emission _
    rfl
  · intro emission record
    cases emission with
    | trace origin message => rfl
    | _ => cases record

/-- Since some emissions nothing was written but text and records of the program itself. -/
def Machine.ReportsSince (before : List Emission) (machine : Machine) : Prop :=
  ∃ written, machine.emissions = before ++ written ∧ ∀ emission ∈ written, emission.IsOwn

/-- A property that does not look at files. -/
def IgnoresFiles (kept : Machine → Prop) : Prop :=
  ∀ (machine : Machine) (files : FileSystem), kept machine → kept { machine with files := files }

/-- A property that looks at what was written alone, and that text and own records leave. -/
structure IsReporting (kept : Machine → Prop) : Prop where
  looks : ∀ machine other : Machine, other.emissions = machine.emissions → kept machine → kept other
  adds : ∀ (machine : Machine) (written : List Emission), (∀ emission ∈ written, emission.IsOwn) →
    kept machine → kept { machine with emissions := machine.emissions ++ written }

/-- Text for the user, or a record of the program itself. -/
def Emission.IsTold (emission : Emission) : Prop := emission.IsOwn ∧ emission.resultText = ""

/-- A property that text for the user and own records leave. -/
def BearsText (kept : Machine → Prop) : Prop :=
  ∀ (machine : Machine) (written : List Emission), (∀ emission ∈ written, emission.IsTold) →
    kept machine → kept { machine with emissions := machine.emissions ++ written }

/-- A property that looks at what was written alone, and that such text leaves. -/
structure IsTelling (kept : Machine → Prop) : Prop where
  looks : ∀ machine other : Machine, other.emissions = machine.emissions → kept machine → kept other
  adds : BearsText kept

theorem IsReporting.telling {kept : Machine → Prop} (reporting : IsReporting kept) : IsTelling kept :=
  ⟨reporting.looks, fun machine written told => reporting.adds machine written fun emission member =>
    (told emission member).1⟩

theorem IsTelling.ignoresFiles {kept : Machine → Prop} (telling : IsTelling kept) : IgnoresFiles kept :=
  fun machine _ holds => telling.looks machine _ rfl holds

theorem isReporting_reportsSince (before : List Emission) : IsReporting (Machine.ReportsSince before) where
  looks machine other same := by
    rintro ⟨written, emissions, own⟩
    exact ⟨written, same.trans emissions, own⟩
  adds machine more ownMore := by
    rintro ⟨written, emissions, own⟩
    refine ⟨written ++ more, by simp [emissions], ?_⟩
    intro emission member
    exact (List.mem_append.1 member).elim (own emission) (ownMore emission)

namespace Action

variable {α β : Type} {kept : Machine → Prop}

theorem keeps_pure (value : α) : Keeps kept (pure value) := meets_pure fun _ holds => holds

theorem keeps_throw (failure : Failure) : Keeps kept (throw failure : Action α) :=
  meets_throw fun _ holds => holds

/-- What comes after a failure does not matter. -/
theorem keeps_throw_bind (failure : Failure) (next : α → Action β) : Keeps kept (throw failure >>= next) :=
  ⟨fun _ holds => holds⟩

theorem Keeps.bind {first : Action α} {next : α → Action β} (keeps : Keeps kept first)
    (onward : ∀ value, Keeps kept (next value)) : Keeps kept (first >>= next) :=
  Meets.bind keeps onward

theorem Keeps.attempt {action : Action α} (keeps : Keeps kept action) : Keeps kept (attempt action) := by
  refine ⟨fun machine holds => ?_⟩
  rw [perform_attempt]
  exact Meets.always keeps holds

theorem keeps_look {next : Machine → Action α} (onward : ∀ machine, Keeps kept (next machine)) :
    Keeps kept (get >>= next) :=
  meets_look onward

theorem keeps_ofExcept (result : Except Failure α) : Keeps kept (ofExcept result) := by
  cases result with
  | ok value => exact keeps_pure value
  | error failure => exact keeps_throw failure

theorem Keeps.ensuring {action : Action α} {last : Action Unit} (keeps : Keeps kept action)
    (keepsLast : Keeps kept last) : Keeps kept (ensuring action last) :=
  keeps.attempt.bind fun _ => keepsLast.bind fun _ => keeps_ofExcept _

theorem keeps_forM {items : List α} {each : α → Action Unit} (keeps : ∀ item, Keeps kept (each item)) :
    Keeps kept (items.forM each) := by
  induction items with
  | nil => exact keeps_pure ()
  | cons item rest ih => exact (keeps item).bind fun _ => ih

theorem keeps_change (ignores : IgnoresFiles kept) (path : String)
    (operation : FileSystem → WorkingDirectory → Except Errno FileSystem) :
    Keeps kept (change path operation) :=
  meets_change fun machine files holds _ => ignores machine files holds

theorem keeps_provideDirectory (ignores : IgnoresFiles kept) (path : String) :
    Keeps kept (provideDirectory path) :=
  meets_provideDirectory (fun _ holds => holds) fun machine _ holds => ignores machine _ holds

theorem keeps_query (path : String) (operation : FileSystem → WorkingDirectory → Except Errno α) :
    Keeps kept (query path operation) :=
  meets_query.weaken (fun _ holds => holds) (fun _ _ holds => holds.1) fun _ holds => holds

theorem keeps_realPath (path : String) : Keeps kept (realPath path) :=
  (meets_realPath path).weaken (fun _ holds => holds) (fun _ _ holds => holds.1) fun _ holds => holds

theorem keeps_statusOf? (path : Path) : Keeps kept (statusOf? path) :=
  ⟨fun machine holds => by
    have same := perform_statusOf?_snd path machine
    generalize perform (statusOf? path) machine = outcome at same ⊢
    rcases outcome with ⟨result, after⟩
    cases same
    cases result <;> exact holds⟩

theorem keeps_loadSettings (directory : Path) : Keeps kept (loadSettings directory) :=
  ⟨fun machine holds => by
    have same := perform_loadSettings_snd directory machine
    generalize perform (loadSettings directory) machine = outcome at same ⊢
    rcases outcome with ⟨result, after⟩
    cases same
    cases result <;> exact holds⟩

theorem keeps_currentDirectory : Keeps kept currentDirectory := by
  refine keeps_look fun machine => ?_
  cases machine.files.isAlive machine.cwd with
  | true => exact keeps_pure _
  | false => exact keeps_throw _

theorem keeps_exists? (path : Path) : Keeps kept (exists? path) :=
  (keeps_statusOf? path).bind fun _ => keeps_pure _

theorem keeps_answer (reporting : IsReporting kept) (message : String) (newline : Bool) :
    Keeps kept (answer message newline) :=
  ⟨fun machine holds => reporting.adds machine [.result (shown message newline)] (by simp [Emission.IsOwn]) holds⟩

section

variable (bears : BearsText kept)

include bears

theorem keeps_emit {emission : Emission} (told : emission.IsTold) : Keeps kept (emit emission) :=
  ⟨fun machine holds => bears machine [emission] (by simpa using told) holds⟩

theorem keeps_trace {origin : String} (message : String) (logs : origin ∈ loggers) :
    Keeps kept (trace origin message) :=
  keeps_emit bears ⟨logs, rfl⟩

theorem keeps_tellLine (message : String) : Keeps kept (tellLine message) := keeps_emit bears ⟨trivial, rfl⟩

theorem keeps_ensure (condition : Bool) (message : String) : Keeps kept (ensure condition message) := by
  unfold ensure
  split
  · exact (keeps_tellLine bears _).bind fun _ => keeps_throw _
  · exact keeps_pure _

theorem keeps_ensureBookDirectory (path : Path) : Keeps kept (ensureBookDirectory path) :=
  Keeps.bind ((keeps_statusOf? path).bind fun _ => keeps_pure _) fun _ => keeps_ensure bears _ _

end

section

variable (telling : IsTelling kept)

include telling

theorem keeps_note (event : Event) : Keeps kept (note event) :=
  ⟨fun machine holds => telling.looks machine _ rfl holds⟩

theorem keeps_enterDirectory (path : Path) : Keeps kept (enterDirectory path) :=
  (keeps_query path.text _).bind fun _ => ⟨fun machine holds => telling.looks machine _ rfl holds⟩

theorem Keeps.inDirectory {target : Path} {body : Path → Action α} (keeps : ∀ place, Keeps kept (body place)) :
    Keeps kept (inDirectory target body) := by
  have directory : "bookbuild.core.directory" ∈ loggers := by decide
  have arrives : Keeps kept (arrive target) := by
    refine keeps_currentDirectory.bind fun _ => (keeps_enterDirectory telling target).bind fun _ => ?_
    exact keeps_currentDirectory.bind fun _ => (keeps_trace telling.adds _ directory).bind fun _ => keeps_pure _
  refine arrives.bind fun visit => (keeps visit.place).ensuring ?_
  exact (keeps_enterDirectory telling visit.origin).bind fun _ => keeps_trace telling.adds _ directory

end

end Action

end Bookbinder
