import Bookbinder.Proofs.Archive.Extraction
import Bookbinder.Proofs.FileSystem.Regular
import Bookbinder.Proofs.Machine.Outcomes

/-!
What extracting does to regular files where links are replaced by what they stand for. Main statement:
whatever is extracted in place of a link, the only file that may be left with the permission bits of a
member that the link stands for is the one that its path leads to.
-/

set_option autoImplicit false

namespace Bookbinder

open FileSystem (AllFiles)

/-- A path that can be used leads to the regular file with a number. -/
def Machine.Names (machine : Machine) (path : String) (number : Nat) : Prop :=
  holdsNul path = false ∧ machine.files.LeadsToFile machine.cwd path number

namespace Archive

open Compression (Gzip.Cursor)

namespace Extraction

variable {α β : Type} {before : Gzip.Cursor → Machine → Prop} {after : α → Gzip.Cursor → Machine → Prop}
  {failed : Failure → Machine → Prop}

/-- What holds of the machine, and of the place in the stream, after extracting, by what it ends with. -/
structure Yields (before : Gzip.Cursor → Machine → Prop) (extraction : Extraction α)
    (after : α → Gzip.Cursor → Machine → Prop) (failed : Failure → Machine → Prop) : Prop where
  ends : ∀ cursor, Action.Yields (before cursor) (extraction cursor)
    (fun result => after result.1 result.2) failed

theorem Meets.yields {extraction : Extraction α} {held lost : Machine → Prop} {final : α → Machine → Prop}
    (meets : Meets held extraction final lost) :
    Yields (fun _ => held) extraction (fun value _ => final value) fun _ => lost :=
  ⟨fun cursor => (meets.ends cursor).yields⟩

theorem Yields.weaken {extraction : Extraction α} (yields : Yields before extraction after failed)
    {stronger : Gzip.Cursor → Machine → Prop} {weaker : α → Gzip.Cursor → Machine → Prop}
    {other : Failure → Machine → Prop}
    (first : ∀ cursor machine, stronger cursor machine → before cursor machine)
    (last : ∀ value cursor machine, after value cursor machine → weaker value cursor machine)
    (failing : ∀ failure machine, failed failure machine → other failure machine) :
    Yields stronger extraction weaker other :=
  ⟨fun cursor => (yields.ends cursor).weaken (first cursor) (fun result => last result.1 result.2) failing⟩

theorem Yields.knowing {extraction : Extraction α} {fact : Prop}
    (known : ∀ cursor machine, before cursor machine → fact)
    (yields : fact → Yields before extraction after failed) : Yields before extraction after failed :=
  ⟨fun cursor => Action.Yields.knowing (known cursor) fun holds => (yields holds).ends cursor⟩

theorem yields_pure {value : α} (holds : ∀ cursor machine, before cursor machine → after value cursor machine) :
    Yields before (pure value) after failed :=
  ⟨fun cursor => Action.yields_pure (holds cursor)⟩

theorem yields_throw {failure : Failure}
    (holds : ∀ cursor machine, before cursor machine → failed failure machine) :
    Yields before (throw failure : Extraction α) after failed :=
  ⟨fun cursor => Action.yields_throw (holds cursor)⟩

theorem yields_lift {action : Action α}
    (yields : ∀ cursor, Action.Yields (before cursor) action (after · cursor) failed) :
    Yields before (liftM action) after failed :=
  ⟨fun cursor => (yields cursor).bind fun _ => Action.yields_pure fun _ holds => holds⟩

theorem Yields.bind {extraction : Extraction α} {next : α → Extraction β}
    {final : β → Gzip.Cursor → Machine → Prop} (first : Yields before extraction after failed)
    (onward : ∀ value, Yields (after value) (next value) final failed) :
    Yields before (extraction >>= next) final failed :=
  ⟨fun cursor => (first.ends cursor).bind fun result => (onward result.1).ends result.2⟩

theorem Yields.attempt {extraction : Extraction α} {final : α → Machine → Prop}
    (yields : Yields before extraction (fun value _ => final value) failed)
    {other : Failure → Machine → Prop} :
    Yields before (attempt extraction)
      (fun result _ machine =>
        match result with
        | .ok value => final value machine
        | .error failure => failed failure machine) other := by
  refine ⟨fun cursor => (yields.ends cursor).attempt.bind fun result => ?_⟩
  cases result with
  | ok value => exact Action.yields_pure fun _ holds => holds
  | error failure => exact Action.yields_pure fun _ holds => holds

theorem yields_machine {next : Machine → Extraction α}
    (onward : ∀ machine,
      Yields (fun cursor same => same = machine ∧ before cursor same) (next machine) after failed) :
    Yields before (getThe Machine >>= next) after failed :=
  ⟨fun cursor => ⟨fun machine holds => ((onward machine).ends cursor).ends machine ⟨rfl, holds⟩⟩⟩

theorem yields_cursor {next : Gzip.Cursor → Extraction α}
    (onward : ∀ cursor, Yields (fun same machine => same = cursor ∧ before same machine) (next cursor)
      after failed) :
    Yields before (get >>= next) after failed :=
  ⟨fun cursor => ⟨fun machine holds => ((onward cursor).ends cursor).ends machine ⟨rfl, holds⟩⟩⟩

/-- What the operating system refuses is followed by the other way, from where the first one stopped. -/
theorem Yields.unlessRefused {extraction fallback : Extraction Unit} {final : Machine → Prop}
    {between : Failure → Machine → Prop}
    (first : Yields before extraction (fun _ _ => final) between)
    (second : ∀ errno subject, Yields (fun _ => between (.refused errno subject)) fallback
      (fun _ _ => final) failed)
    (passed : ∀ failure machine, (∀ errno subject, failure ≠ .refused errno subject) →
      between failure machine → failed failure machine) :
    Yields before (unlessRefused extraction fallback) (fun _ _ => final) failed := by
  refine first.attempt.bind fun result => ?_
  cases result with
  | ok _ => exact yields_pure fun _ _ holds => holds
  | error failure =>
    cases failure with
    | refused errno subject => exact second errno subject
    | _ => exact yields_throw fun _ machine holds => passed _ machine (by simp) holds

end Extraction

/-! ### What holds of files on the way -/

/-- Failures after which nothing has been extracted in place of a link. -/
def IsHarmless : Failure → Prop
  | .refused _ _ | .archive .leftOut | .archive (.missingTarget _) => True
  | _ => False

/-- Something holds of every regular file of the machine. -/
def AllGood (good : Spot → Nat → Content → Prop) (machine : Machine) : Prop := AllFiles good machine.files

/-- It may fail for the file that a path leads to, if the permission bits of that are of a kind. -/
def AllElse (good : Spot → Nat → Content → Prop) (target : String) (bits : Nat → Prop) (machine : Machine) :
    Prop :=
  AllFiles (fun spot number content => good spot number content ∨
    (bits content.mode ∧ machine.Names target number)) machine.files

/-- After a failure: a harmless one leaves no file behind. -/
def AfterFailure (good : Spot → Nat → Content → Prop) (target : String) (bits : Nat → Prop)
    (failure : Failure) (machine : Machine) : Prop :=
  AllElse good target bits machine ∧ (IsHarmless failure → AllGood good machine)

/-- What holds of a regular file is a matter of its permission bits, whatever else it holds, and holds of a
new file. -/
structure IsLoose (good : Spot → Nat → Content → Prop) : Prop where
  new : ∀ spot number content, content.mode = FileSystem.fileMode → good spot number content
  rewritten : ∀ spot number old content, old.mode = content.mode → good spot number old →
    good spot number content

variable {good : Spot → Nat → Content → Prop} {target : String} {bits : Nat → Prop} {machine : Machine}

theorem AllGood.allElse (all : AllGood good machine) : AllElse good target bits machine :=
  all.mono fun _ _ _ => .inl

theorem AllElse.mono {wider : Nat → Prop} (else_ : AllElse good target bits machine)
    (wide : ∀ mode, bits mode → wider mode) : AllElse good target wider machine :=
  FileSystem.AllFiles.mono else_ fun _ _ _ =>
    Or.imp_right fun named => ⟨wide _ named.1, named.2⟩

theorem AllGood.afterFailure (all : AllGood good machine) (failure : Failure) :
    AfterFailure good target bits failure machine :=
  ⟨all.allElse, fun _ => all⟩

theorem AllElse.allGood (else_ : AllElse good target bits machine)
    (nowhere : ∀ number content, machine.files.content? number = some content →
      ¬ machine.Names target number) : AllGood good machine :=
  fun spot number content entry held =>
    (else_ spot number content entry held).resolve_right fun named => nowhere number content held named.2

/-! ### What is done to a path -/

theorem keeps_noneNew {path : String}
    {operation : FileSystem → WorkingDirectory → Except Errno FileSystem}
    (none : ∀ files cwd after, operation files cwd = .ok after → FileSystem.NoneNew files after) :
    Action.Keeps (AllGood good) (Action.change path operation) :=
  Action.meets_change fun machine _ all made => (none machine.files machine.cwd _ made).allFiles all

theorem keeps_provideDirectory (path : String) : Action.Keeps (AllGood good) (Action.provideDirectory path) :=
  Action.meets_provideDirectory (fun _ all => all) fun machine depth all =>
    (FileSystem.noneNew_makeDirectories machine.files machine.cwd depth path).allFiles all

theorem keepsFiles_makeDirectory (mode : Nat) :
    Action.Keeps (AllGood good) (makeDirectory target mode) := by
  refine keeps_noneNew fun files cwd after made => ?_
  split at made
  · split at made
    · cases made
      exact .refl files
    · cases made
  · exact FileSystem.noneNew_makeDirectory made

theorem keepsFiles_makeSymlink (linkName : String) :
    Action.Keeps (AllGood good) (makeSymlink linkName target) := by
  have make : Action.Keeps (AllGood good)
      (Action.change target fun files cwd => files.makeSymlink cwd linkName target) :=
    keeps_noneNew fun _ _ _ made => FileSystem.noneNew_makeSymlink made
  have remove : Action.Keeps (AllGood good)
      (Action.change target fun files cwd => files.unlink cwd target) :=
    keeps_noneNew fun _ _ _ removed => FileSystem.noneNew_unlink removed
  have replace : Action.Keeps (AllGood good)
      (do
        let machine ← get
        if machine.files.isTaken machine.cwd target then
          Action.change target fun files cwd => files.unlink cwd target
        Action.change target fun files cwd => files.makeSymlink cwd linkName target) := by
    refine Action.meets_look fun machine => ?_
    split
    · exact remove.bind fun _ => make
    · exact make
  unfold makeSymlink
  split
  · exact (Action.meets_throw fun _ all => all).bind fun _ => replace
  · exact replace

/-- A file that is written has the bits of a new one, or those that it had. -/
theorem keepsFiles_writeFile (loose : IsLoose good) (bytes : Text.Bytes) :
    Action.Keeps (AllGood good)
      (Action.change target fun files cwd => files.writeFile cwd target fun _ => bytes) := by
  refine Action.meets_change fun machine files all written => ?_
  refine FileSystem.AllFiles.mono (FileSystem.allFiles_writeFile all written) ?_
  rintro spot number content (holds | ⟨_, new | ⟨old, same, holds⟩⟩)
  · exact holds
  · exact loose.new spot number content new
  · exact loose.rewritten spot number old content same holds

theorem keepsFiles_writeData (loose : IsLoose good) (archive : Archive) (member : Member) :
    Extraction.Meets (AllGood good) (writeData archive member target) (fun _ => AllGood good)
      (AllGood good) := by
  refine Extraction.meets_cursor fun cursor => ?_
  refine (Extraction.meets_lift (meets_liftFault (fun _ all => all) _)).bind fun cursor => ?_
  refine (Extraction.meets_set _).bind fun _ => ?_
  refine (Extraction.meets_lift (keepsFiles_writeFile loose _)).bind fun _ => ?_
  split
  · exact Extraction.meets_throw fun _ all => all
  · exact Extraction.meets_pure fun _ all => all

/-! ### Permission bits that are set -/

/-- Bits that are set are those of the file that the path leads to; if they cannot be set, there is no
such file. -/
theorem yields_setMode (mode : Nat) :
    Action.Yields (AllElse good target bits)
      (Action.change target fun files cwd => files.setMode cwd target mode)
      (fun _ => AllElse good target (· = mode)) (fun _ => AllGood good) := by
  have named {machine : Machine} (else_ : AllElse good target bits machine) :
      AllFiles (fun spot number content => good spot number content ∨
        machine.files.LeadsToFile machine.cwd target number) machine.files :=
    FileSystem.AllFiles.mono else_ fun _ _ _ => Or.imp_right fun named => named.2.2
  refine Action.yields_change (fun machine files else_ clean changed => ?_)
    (fun machine errno else_ refused => ?_) fun machine else_ unclean => ?_
  · exact FileSystem.AllFiles.mono (FileSystem.allFiles_setMode (named else_) changed)
      fun _ _ _ => Or.imp_right fun leads => ⟨leads.1, clean, leads.2⟩
  · exact FileSystem.allFiles_of_setMode_error (named else_) refused
  · refine else_.allGood fun _ _ _ names => ?_
    rw [names.1] at unclean
    cases unclean

section

variable {item : Item}

/-- If there is nothing at the path of an item, then no file either. -/
theorem AllElse.allGood_of_absent (else_ : AllElse good target bits machine)
    (absent : (if item.kind = .symlink then machine.files.isTaken machine.cwd target
      else machine.files.leadsSomewhere machine.cwd target) = false) : AllGood good machine := by
  refine else_.allGood fun number content held names => ?_
  split at absent
  · rw [names.2.isTaken] at absent
    cases absent
  · rw [names.2.leadsSomewhere held] at absent
    cases absent

/-- How an item is settled: its owner is looked at, it has to be there, and the rest is done. -/
theorem yields_settle {after : Machine → Prop} {failed : Failure → Machine → Prop}
    (owned : ∀ fault, item.owner.bind Owner.fault? = some fault →
      ∀ machine, AllElse good target bits machine → failed (.archive fault) machine)
    (absent : ∀ machine, AllGood good machine → failed (.archive .leftOut) machine)
    (finish : Action.Yields (AllElse good target bits) (settlePresent item target) (fun _ => after) failed) :
    Action.Yields (AllElse good target bits) (settle item target) (fun _ => after) failed := by
  have first : Action.Yields (AllElse good target bits) (failIf (item.owner.bind Owner.fault?))
      (fun _ => AllElse good target bits) failed := by
    cases fault : item.owner.bind Owner.fault? with
    | none => exact Action.yields_pure fun _ else_ => else_
    | some cause => exact Action.yields_throw (owned cause fault)
  refine first.bind fun _ => Action.yields_machine fun machine => ?_
  cases present : (if item.kind = .symlink then machine.files.isTaken machine.cwd target
    else machine.files.leadsSomewhere machine.cwd target) with
  | true => exact finish.weaken (fun _ holds => holds.2) (fun _ _ holds => holds) fun _ _ holds => holds
  | false =>
    refine Action.yields_throw_bind ?_
    rintro same ⟨rfl, else_⟩
    exact absent same (else_.allGood_of_absent present)

theorem not_isHarmless_of_owner {owner : Owner} {fault : Fault} (failed : owner.fault? = some fault) :
    ¬ IsHarmless (.archive fault) := by
  have part {part : OwnerPart} {number : Int} {fault : Fault} (failed : part.fault? number = some fault) :
      ¬ IsHarmless (.archive fault) := by
    unfold OwnerPart.fault? at failed
    split at failed
    · cases failed
    · split at failed <;> cases failed <;> exact id
  unfold Owner.fault? at failed
  cases user : OwnerPart.fault? .user owner.user with
  | none =>
    rw [user] at failed
    exact part failed
  | some cause =>
    rw [user] at failed
    cases failed
    exact part user

theorem not_isHarmless_of_time {time : Time} {fault : Fault} (failed : time.fault? = some fault) :
    ¬ IsHarmless (.archive fault) := by
  unfold Time.fault? at failed
  split at failed
  · split at failed <;> cases failed
    exact id
  · split at failed <;> cases failed
    exact id
  · cases failed
    exact id
  · cases failed
    exact id

/-- A member as it is in the archive gives its own bits to the file that the path leads to. -/
theorem yields_settle_ofMember {member : Member} (own : bits (permissionBits member.header.mode)) :
    Action.Yields (AllElse good target bits) (settle (Item.ofMember member) target)
      (fun _ => AllElse good target bits) (AfterFailure good target bits) := by
  have timed : Action.Yields (AllElse good target bits) (failIf member.header.time.fault?)
      (fun _ => AllElse good target bits) (AfterFailure good target bits) := by
    cases fault : member.header.time.fault? with
    | none => exact Action.yields_pure fun _ else_ => else_
    | some cause =>
      exact Action.yields_throw fun _ else_ =>
        ⟨else_, fun harmless => absurd harmless (not_isHarmless_of_time fault)⟩
  have change : Action.Yields (AllElse good target bits) (setPermissions target member.header.mode)
      (fun _ => AllElse good target bits) (AfterFailure good target bits) := by
    have set : Action.Yields (AllElse good target bits)
        (Action.change target fun files cwd => files.setMode cwd target (permissionBits member.header.mode))
        (fun _ => AllElse good target bits) (AfterFailure good target bits) :=
      (yields_setMode (permissionBits member.header.mode)).weaken (fun _ else_ => else_)
        (fun _ _ else_ => else_.mono fun mode same => same ▸ own)
        fun failure _ all => all.afterFailure failure
    unfold setPermissions
    split
    · exact Action.yields_throw_bind fun _ else_ => ⟨else_, False.elim⟩
    · exact set
  refine yields_settle (fun fault failed _ else_ => ⟨else_, fun harmless => ?_⟩)
    (fun _ all => all.afterFailure _) ?_
  · have misfit : member.header.owner.fault? = some fault := failed
    exact absurd harmless (not_isHarmless_of_owner misfit)
  · unfold settlePresent
    split
    · exact change.bind fun _ => timed
    · exact Action.yields_pure fun _ else_ => else_

end

/-! ### What a link stands for -/

/-- A member that a link stands for, at once or by another link. -/
inductive StandsFor (archive : Archive) : Item → Member → Prop
  | target {item : Item} {member : Member} :
    findTarget archive item = .ok member → StandsFor archive item member
  | onward {item : Item} {link member : Member} :
    findTarget archive item = .ok link → StandsFor archive (Item.ofMember link) member →
      StandsFor archive item member

section

variable {archive : Archive} {extract : Extractor} {item : Item}

theorem yields_extractTarget
    (each : ∀ member, findTarget archive item = .ok member →
      Extraction.Yields (fun _ => AllGood good) (extract (Item.ofMember member) target true)
        (fun _ _ => AllElse good target bits) (AfterFailure good target bits)) :
    Extraction.Yields (fun _ => AllGood good) (extractTarget archive extract item target)
      (fun _ _ => AllElse good target bits) (AfterFailure good target bits) := by
  have found : Action.Yields (AllGood good) (liftFault (findTarget archive item))
      (fun member machine => AllGood good machine ∧ findTarget archive item = .ok member)
      (AfterFailure good target bits) := by
    cases result : findTarget archive item with
    | ok member => exact Action.yields_pure fun _ all => ⟨all, rfl⟩
    | error fault => exact Action.yields_throw fun _ all => all.afterFailure _
  refine (Extraction.yields_lift fun _ => found).bind fun member => ?_
  refine Extraction.Yields.knowing (fun _ _ holds => holds.2) fun result => ?_
  exact (each member result).weaken (fun _ _ holds => holds.1) (fun _ _ _ holds => holds)
    fun _ _ holds => holds

theorem yields_replaceLink
    (each : ∀ member, findTarget archive item = .ok member →
      Extraction.Yields (fun _ => AllGood good) (extract (Item.ofMember member) target true)
        (fun _ _ => AllElse good target bits) (AfterFailure good target bits)) :
    Extraction.Yields (fun _ => AllGood good) (replaceLink archive extract item target)
      (fun _ _ => AllElse good target bits) (AfterFailure good target bits) := by
  refine (yields_extractTarget each).attempt.bind fun result => ?_
  cases result with
  | ok _ => exact Extraction.yields_pure fun _ _ else_ => else_
  | error failure =>
    cases failure with
    | archive fault =>
      cases fault with
      | missingTarget name =>
        exact Extraction.yields_throw fun _ _ ended => ⟨ended.1, fun _ => ended.2 trivial⟩
      | _ => exact Extraction.yields_throw fun _ _ ended => ended
    | _ => exact Extraction.yields_throw fun _ _ ended => ended

/-- A link in its turn may be replaced by what it stands for. -/
theorem yields_place_ofMember (loose : IsLoose good) {member : Member}
    (each : ∀ other, findTarget archive (Item.ofMember member) = .ok other →
      Extraction.Yields (fun _ => AllGood good) (extract (Item.ofMember other) target true)
        (fun _ _ => AllElse good target bits) (AfterFailure good target bits)) :
    Extraction.Yields (fun _ => AllGood good) (place archive extract (Item.ofMember member) target)
      (fun _ _ => AllElse good target bits) (AfterFailure good target bits) := by
  have keeping {extraction : Extraction Unit}
      (keeps : Extraction.Meets (AllGood good) extraction (fun _ => AllGood good) (AllGood good)) :
      Extraction.Yields (fun _ => AllGood good) extraction
        (fun _ _ => AllElse good target bits) (AfterFailure good target bits) :=
    keeps.yields.weaken (fun _ _ all => all) (fun _ _ _ all => all.allElse)
      fun failure _ all => all.afterFailure failure
  unfold place
  split
  · exact keeping (Extraction.meets_lift (keepsFiles_makeDirectory _))
  · have made : Extraction.Yields (fun _ => AllGood good)
        (liftM (makeSymlink (Item.ofMember member).linkName target))
        (fun _ _ => AllElse good target bits) (fun _ => AllGood good) :=
      (Extraction.meets_lift (keepsFiles_makeSymlink _)).yields.weaken (fun _ _ all => all)
        (fun _ _ _ all => all.allElse) fun _ _ all => all
    exact made.unlessRefused (fun _ _ => yields_replaceLink each) fun failure _ _ all =>
      all.afterFailure failure
  · exact yields_replaceLink each
  · exact keeping (Extraction.meets_lift (keeps_makeDevice target))
  · exact keeping (keepsFiles_writeData loose archive member)

/-! ### The parent of a path -/

/-- Makes the directory that a path stands in if it is missing. -/
def provideParent (target : String) : Action Unit := do
  let machine ← get
  if PathText.parent target ≠ "" ∧ !machine.files.leadsSomewhere machine.cwd (PathText.parent target) then
    Action.provideDirectory (PathText.parent target)

/-- What is done with an item once the parent of its path is there. -/
def placeSettled (archive : Archive) (extract : Extractor) (item : Item) (target : String)
    (settled : Bool) : Extraction Unit := do
  place archive extract item target
  if settled then settle item target

theorem lift_look (next : Machine → Action Unit) (onward : Extraction Unit) (cursor : Gzip.Cursor)
    (machine : Machine) :
    (liftM (get >>= next) >>= fun _ => onward : Extraction Unit) cursor machine =
      (liftM (next machine) >>= fun _ => onward : Extraction Unit) cursor machine := rfl

theorem getThe_bind {α : Type} (next : Machine → Extraction α) (cursor : Gzip.Cursor) (machine : Machine) :
    (getThe Machine >>= next) cursor machine = next machine cursor machine := rfl

theorem extractItem_succ (archive : Archive) (depth : Nat) (item : Item) (path : String) (settled : Bool) :
    extractItem archive (depth + 1) item path settled =
      liftM (provideParent (PathText.withoutFinalSlashes path)) >>= fun _ =>
        placeSettled archive (extractItem archive depth) item (PathText.withoutFinalSlashes path)
          settled := by
  rw [extractItem]
  funext cursor machine
  generalize PathText.withoutFinalSlashes path = target
  rw [provideParent, lift_look, getThe_bind]
  dsimp only
  by_cases missing : PathText.parent target ≠ "" ∧
    !machine.files.leadsSomewhere machine.cwd (PathText.parent target)
  · rw [if_pos missing, if_pos missing]
    rfl
  · rw [if_neg missing, if_neg missing]
    rfl

theorem keepsFiles_provideParent (target : String) :
    Action.Keeps (AllGood good) (provideParent target) := by
  refine Action.meets_look fun machine => ?_
  split
  · exact keeps_provideDirectory _
  · exact Action.meets_pure fun _ all => all

/-- What is extracted for a link to a path that is as it was. The induction is on how many links may stand
for links. -/
theorem yields_extractItem (loose : IsLoose good) {depth : Nat} {member : Member}
    (plain : PathText.withoutFinalSlashes target = target)
    (own : bits (permissionBits member.header.mode))
    (others : ∀ other, StandsFor archive (Item.ofMember member) other →
      bits (permissionBits other.header.mode)) :
    Extraction.Yields (fun _ => AllGood good)
      (extractItem archive depth (Item.ofMember member) target true)
      (fun _ _ => AllElse good target bits) (AfterFailure good target bits) := by
  induction depth generalizing member with
  | zero => exact Extraction.yields_throw fun _ _ all => all.afterFailure _
  | succ depth ih =>
    have provided : Extraction.Yields (fun _ => AllGood good) (liftM (provideParent target))
        (fun _ _ => AllGood good) (AfterFailure good target bits) :=
      (Extraction.meets_lift (keepsFiles_provideParent target)).yields.weaken (fun _ _ all => all)
        (fun _ _ _ all => all) fun failure _ all => all.afterFailure failure
    have placed : Extraction.Yields (fun _ => AllGood good)
        (place archive (extractItem archive depth) (Item.ofMember member) target)
        (fun _ _ => AllElse good target bits) (AfterFailure good target bits) :=
      yields_place_ofMember loose fun other found =>
        ih (others other (.target found)) fun further stands => others further (.onward found stands)
    rw [extractItem_succ, plain]
    exact provided.bind fun _ => placed.bind fun _ =>
      Extraction.yields_lift fun _ => yields_settle_ofMember own

end

end Archive

end Bookbinder
