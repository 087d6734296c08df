import Mathlib.Algebra.Ring.Nat
import Bookbinder.Proofs.Archive.Extraction
import Bookbinder.Proofs.Machine.Endings

/-!
The faults with which extracting an archive can end. Main statement: besides those that are told as the
reason why an archive cannot be extracted there are only a stream that is cut or damaged, numbers that do
not fit, hard links to nothing, and links that stand for one another without an end.
-/

set_option autoImplicit false

namespace Bookbinder.Archive

open Bookbinder.Compression (Gzip.Stream Gzip.Cursor Gzip.Ending)
open Action (Gives FailsOnly PassesOn)

/-! ### What can be wrong with an archive whose headers could be read -/

/-- What a reader of a stream says about its end. Where a stream is damaged, the damage that shows may be
another one. -/
inductive TellsEnd : Gzip.Ending → Gzip.Ending → Prop where
  | same (ending : Gzip.Ending) : TellsEnd ending ending
  | damage (shown found : Compression.Damage) : TellsEnd (.damaged shown) (.damaged found)

/-- Links that stand for members, which are links again, so many times. -/
def Winds (archive : Archive) : Nat → Item → Prop
  | 0, _ => True
  | count + 1, item => (item.kind = .symlink ∨ item.kind = .hardLink) ∧
      ∃ member, findTarget archive item = .ok member ∧ Winds archive count (Item.ofMember member)

/-- The places in the archive and in the file that are gone to for the data of a member. -/
def Member.places (member : Member) : List Int :=
  member.dataStart :: member.header.size :: (member.header.runs.getD []).map Run.offset

/-- A number in a header that does not fit where it is needed. -/
inductive Misfits (header : Header) : Fault → Prop where
  | owner {fault : Fault} : header.owner.fault? = some fault → Misfits header fault
  | time {fault : Fault} : header.time.fault? = some fault → Misfits header fault
  | permissions : header.mode < -modeLimit ∨ modeLimit ≤ header.mode →
      Misfits header (.overflow .permissions)

/-- What can end the program while an archive is extracted. -/
inductive Slips (archive : Archive) : Fault → Prop where
  | stream {ending : Gzip.Ending} : TellsEnd ending archive.stream.ending → Slips archive (.stream ending)
  | place {member : Member} {place : Int} : member ∈ archive.members → place ∈ member.places →
      place < -Listing.positionLimit ∨ Listing.positionLimit ≤ place → Slips archive (.misvalue .position)
  | misfits {member : Member} {fault : Fault} : member ∈ archive.members → Misfits member.header fault →
      Slips archive fault
  | target {member : Member} {name : String} : member ∈ archive.members →
      member.header.kind = .hardLink →
      findTarget archive (Item.ofMember member) = .error (.missingTarget name) →
      Slips archive (.missingTarget name)
  | links {item : Item} : item.member ∈ archive.members →
      Winds archive (archive.members.length + 2) item → Slips archive .endlessLinks

/-- How extracting can fail, where links that wind so do. -/
inductive Ends (archive : Archive) (winds : Prop) : Failure → Prop where
  | refused (errno : Errno) (subject : Subject) : Ends archive winds (.refused errno subject)
  | nul : Ends archive winds .embeddedNul
  | told {fault : Fault} : fault.isReported = true → Ends archive winds (.archive fault)
  | slips {fault : Fault} : Slips archive fault → Ends archive winds (.archive fault)
  | winds : winds → Ends archive winds (.archive .endlessLinks)

variable {archive : Archive} {winds : Prop}

theorem Ends.mono {wider : Prop} (wide : winds → wider) {failure : Failure}
    (ends : Ends archive winds failure) : Ends archive wider failure := by
  cases ends with
  | refused errno subject => exact .refused errno subject
  | nul => exact .nul
  | told reported => exact .told reported
  | slips slips => exact .slips slips
  | winds holds => exact .winds (wide holds)

theorem passesOn_ends : PassesOn (Ends archive winds) := ⟨.refused, .nul⟩

/-! ### Reading in the stream -/

theorem tellsEnd_of_read {stream : Gzip.Stream} {cursor : Gzip.Cursor} {count : Nat} {ending : Gzip.Ending}
    (failed : stream.read cursor count = .error ending) : TellsEnd ending stream.ending := by
  unfold Compression.Gzip.Stream.read at failed
  split at failed
  · next damage is =>
    rw [is]
    dsimp only at failed
    split at failed
    · cases failed
    · cases failed
      exact .damage _ _
  · cases sliced : stream.slice cursor.position count with
    | ok bytes =>
      rw [sliced] at failed
      cases failed
    | error other =>
      rw [sliced] at failed
      cases failed
      unfold Compression.Gzip.Stream.slice at sliced
      dsimp only at sliced
      split at sliced
      · cases sliced
      · cases sliced
        exact .same _

theorem tellsEnd_of_seek {stream : Gzip.Stream} {cursor : Gzip.Cursor} {target : Nat} {ending : Gzip.Ending}
    (failed : stream.seek cursor target = .error ending) : TellsEnd ending stream.ending := by
  unfold Compression.Gzip.Stream.seek at failed
  split at failed
  · next damage is =>
    rw [is]
    split at failed
    · cases failed
    · cases failed
      exact .damage _ _
  · cases failed
  · split at failed
    · cases failed
    · cases failed
      exact .same _

theorem ends_wholePiece {cursor : Gzip.Cursor} {size : Nat} {fault : Fault}
    (failed : wholePiece archive.stream cursor size = .error fault) :
    Ends archive winds (.archive fault) := by
  unfold wholePiece at failed
  split at failed
  · next ending read =>
    cases failed
    exact .slips (.stream (tellsEnd_of_read read))
  · split at failed
    · cases failed
      exact .told rfl
    · cases failed

def CopiesWithin (archive : Archive) (winds : Prop) (copied : Copied) : Prop :=
  ∀ failure, copied.failure = some failure → Ends archive winds failure

theorem copiesWithin_copyPiece (cursor : Gzip.Cursor) (size : Nat) :
    CopiesWithin archive winds (copyPiece archive.stream cursor size) := by
  intro failure failed
  unfold copyPiece at failed
  split at failed
  · next fault short =>
    cases failed
    exact ends_wholePiece short
  · cases failed

theorem copiesWithin_copy (length : Int) (cursor : Gzip.Cursor) :
    CopiesWithin archive winds (copy archive.stream length cursor) := by
  unfold copy
  generalize (length % copySize).toNat = last
  generalize (length / copySize).toNat = count
  induction count generalizing cursor with
  | zero =>
    rw [copyPieces]
    split
    · nofun
    · exact copiesWithin_copyPiece cursor last
  | succ count ih =>
    intro failure failed
    rw [copyPieces] at failed
    split at failed
    · next fault short =>
      cases failed
      exact ends_wholePiece short
    · next bytes after _ => exact ih after failure failed

theorem ends_placeFailure {member : Member} (within : member ∈ archive.members) {place : Int}
    (gone : place ∈ member.places) {failure : Failure} (failed : placeFailure? place = some failure) :
    Ends archive winds failure := by
  unfold placeFailure? at failed
  split at failed
  · next outside =>
    cases failed
    exact .slips (.place within gone outside)
  · split at failed
    · cases failed
      exact .refused _ _
    · cases failed

theorem copiesWithin_copyRuns {member : Member} (within : member ∈ archive.members) {runs : List Run}
    (places : ∀ run ∈ runs, run.offset ∈ member.places) (copied : Copied)
    (started : copied.failure = none) :
    CopiesWithin archive winds (copyRuns archive.stream member.header.size runs copied) := by
  -- on the runs that are left: the failure of one of them is the failure of all
  induction runs generalizing copied with
  | nil =>
    intro failure failed
    rw [copyRuns] at failed
    split at failed
    · next other refused =>
      cases failed
      exact ends_placeFailure within (by simp [Member.places]) refused
    · rw [started] at failed
      cases failed
  | cons run runs ih =>
    intro failure failed
    rw [copyRuns] at failed
    split at failed
    · next other refused =>
      cases failed
      exact ends_placeFailure within (places run List.mem_cons_self) refused
    · have piece : CopiesWithin archive winds (copy archive.stream run.length copied.cursor) :=
        copiesWithin_copy run.length copied.cursor
      dsimp only at failed
      generalize copy archive.stream run.length copied.cursor = copy at failed piece
      split at failed
      · exact piece failure failed
      · next whole =>
        exact ih (fun other member => places other (List.mem_cons_of_mem _ member))
          ⟨writeAt copied.bytes run.offset.toNat copy.bytes, copy.cursor, copy.failure⟩ whole failure failed

theorem copiesWithin_copyData {member : Member} (within : member ∈ archive.members) (cursor : Gzip.Cursor) :
    CopiesWithin archive winds (copyData archive.stream member.header cursor) := by
  unfold copyData
  cases listed : member.header.runs with
  | none => exact copiesWithin_copy _ cursor
  | some runs =>
    refine copiesWithin_copyRuns within (fun run there => ?_) ⟨[], cursor, none⟩ rfl
    simp only [Member.places, listed, Option.getD_some, List.mem_cons, List.mem_map]
    exact .inr (.inr ⟨run, there, rfl⟩)

/-! ### Extracting -/

namespace Extraction

variable {α β : Type} {good : α → Prop} {allowed : Failure → Prop}

/-- How extracting can end, wherever in the stream it starts. -/
structure Gives (good : α → Prop) (allowed : Failure → Prop) (extraction : Extraction α) : Prop where
  ends : ∀ cursor, Action.Gives (fun result => good result.1) allowed (extraction cursor)

abbrev FailsOnly (allowed : Failure → Prop) (extraction : Extraction α) : Prop :=
  Gives (fun _ => True) allowed extraction

theorem gives_pure {value : α} (holds : good value) : Gives good allowed (pure value) :=
  ⟨fun _ => Action.gives_pure holds⟩

theorem gives_throw {failure : Failure} (may : allowed failure) :
    Gives good allowed (throw failure : Extraction α) :=
  ⟨fun _ => Action.gives_throw may⟩

theorem gives_lift {action : Action α} (gives : Action.Gives good allowed action) :
    Gives good allowed (liftM action) :=
  ⟨fun _ => gives.bind fun _ holds => Action.gives_pure holds⟩

theorem Gives.bind {extraction : Extraction α} {next : α → Extraction β} {final : β → Prop}
    (first : Gives good allowed extraction)
    (onward : ∀ value, good value → Gives final allowed (next value)) :
    Gives final allowed (extraction >>= next) :=
  ⟨fun cursor => (first.ends cursor).bind fun result holds => (onward result.1 holds).ends result.2⟩

theorem Gives.weaken {extraction : Extraction α} (gives : Gives good allowed extraction)
    {weaker : α → Prop} {wider : Failure → Prop} (values : ∀ value, good value → weaker value)
    (failures : ∀ failure, allowed failure → wider failure) : Gives weaker wider extraction :=
  ⟨fun cursor => (gives.ends cursor).weaken (fun result => values result.1) failures⟩

theorem Gives.attempt {extraction : Extraction α} (gives : Gives good allowed extraction)
    {other : Failure → Prop} :
    Gives
      (fun result =>
        match result with
        | .ok value => good value
        | .error failure => allowed failure) other (attempt extraction) := by
  refine ⟨fun cursor => (gives.ends cursor).attempt.bind fun result holds => ?_⟩
  cases result with
  | ok value => exact Action.gives_pure holds
  | error failure => exact Action.gives_pure holds

theorem gives_machine {next : Machine → Extraction α}
    (onward : ∀ machine, Gives good allowed (next machine)) :
    Gives good allowed (getThe Machine >>= next) :=
  ⟨fun cursor => ⟨fun machine => ((onward machine).ends cursor).ends machine⟩⟩

theorem gives_cursor {next : Gzip.Cursor → Extraction α}
    (onward : ∀ cursor, Gives good allowed (next cursor)) : Gives good allowed (get >>= next) :=
  ⟨fun cursor => (onward cursor).ends cursor⟩

theorem gives_set (cursor : Gzip.Cursor) : FailsOnly allowed (set cursor : Extraction Unit) :=
  ⟨fun _ => Action.gives_pure trivial⟩

theorem failsOnly_unlessRefused {extraction fallback : Extraction Unit}
    (first : FailsOnly allowed extraction) (second : FailsOnly allowed fallback) :
    FailsOnly allowed (unlessRefused extraction fallback) := by
  refine first.attempt.bind fun result holds => ?_
  cases result with
  | ok _ => exact gives_pure trivial
  | error failure =>
    cases failure with
    | refused errno subject => exact second
    | _ => exact gives_throw holds

end Extraction

/-- What is known of an item before it is extracted: its numbers are those of a member, or they fit. -/
structure IsOf (archive : Archive) (item : Item) : Prop where
  member : item.member ∈ archive.members
  owner : ∀ owner, item.owner = some owner → owner = item.member.header.owner
  mode : ∀ mode, item.mode = some mode →
    mode = item.member.header.mode ∨ ¬ (mode < -modeLimit ∨ modeLimit ≤ mode)

theorem isOf_ofMember {member : Member} (within : member ∈ archive.members) :
    IsOf archive (Item.ofMember member) where
  member := within
  owner := by
    rintro owner given
    cases given
    rfl
  mode := by
    rintro mode given
    cases given
    exact .inl rfl

theorem gives_liftFault {α : Type} {allowed : Failure → Prop} {result : Except Fault α}
    (may : ∀ fault, result = .error fault → allowed (.archive fault)) :
    Gives (fun value => result = .ok value) allowed (liftFault result) := by
  cases result with
  | ok value => exact Action.gives_pure rfl
  | error fault => exact Action.gives_throw (may fault rfl)

theorem failsOnly_failIf {allowed : Failure → Prop} {fault : Option Fault}
    (may : ∀ cause, fault = some cause → allowed (.archive cause)) : FailsOnly allowed (failIf fault) := by
  cases fault with
  | none => exact Action.gives_pure trivial
  | some cause => exact Action.gives_throw (may cause rfl)

theorem failsOnly_seek (cursor : Gzip.Cursor) {member : Member} (within : member ∈ archive.members) :
    FailsOnly (Ends archive winds)
      (liftFault (Listing.seek archive.stream cursor member.dataStart)) := by
  refine (gives_liftFault fun fault failed => ?_).weaken (fun _ _ => trivial) fun _ may => may
  unfold Listing.seek at failed
  split at failed
  · next outside =>
    cases failed
    exact .slips (.place within (by simp [Member.places]) outside)
  · split at failed
    · cases failed
    · next ending sought =>
      cases failed
      exact .slips (.stream (tellsEnd_of_seek sought))

theorem failsOnly_writeData {member : Member} (within : member ∈ archive.members) (target : String) :
    Extraction.FailsOnly (Ends archive winds) (writeData archive member target) := by
  refine Extraction.gives_cursor fun cursor => ?_
  refine (Extraction.gives_lift (failsOnly_seek cursor within)).bind fun place _ => ?_
  refine (Extraction.gives_set _).bind fun _ _ => ?_
  refine (Extraction.gives_lift (Action.failsOnly_change passesOn_ends target _)).bind fun _ _ => ?_
  split
  · next failure failed => exact Extraction.gives_throw (copiesWithin_copyData within place failure failed)
  · exact Extraction.gives_pure trivial

theorem failsOnly_makeSymlink (linkName target : String) :
    FailsOnly (Ends archive winds) (makeSymlink linkName target) := by
  have make : FailsOnly (Ends archive winds)
      (Action.change target fun files cwd => files.makeSymlink cwd linkName target) :=
    Action.failsOnly_change passesOn_ends target _
  have replace : FailsOnly (Ends archive winds)
      (do
        let machine ← get
        if machine.files.isTaken machine.cwd target then
          Action.change target fun files cwd => files.unlink cwd target
        Action.change target fun files cwd => files.makeSymlink cwd linkName target) := by
    refine Action.gives_look fun machine => ?_
    split
    · exact (Action.failsOnly_change passesOn_ends target _).bind fun _ _ => make
    · exact make
  unfold makeSymlink
  split
  · exact Action.gives_throw_bind .nul _
  · exact replace

theorem failsOnly_setPermissions {item : Item} (known : IsOf archive item) {mode : Int}
    (given : item.mode = some mode) (target : String) :
    FailsOnly (Ends archive winds) (setPermissions target mode) := by
  have change : FailsOnly (Ends archive winds)
      (Action.change target fun files cwd => files.setMode cwd target (permissionBits mode)) :=
    Action.failsOnly_change passesOn_ends target _
  unfold setPermissions
  split
  · next outside =>
    rcases known.mode mode given with rfl | fits
    · exact Action.gives_throw_bind (.slips (.misfits known.member (.permissions outside))) _
    · exact absurd outside fits
  · exact change

theorem failsOnly_settle {item : Item} (known : IsOf archive item) (target : String) :
    FailsOnly (Ends archive winds) (settle item target) := by
  have timed : FailsOnly (Ends archive winds) (failIf item.member.header.time.fault?) :=
    failsOnly_failIf fun cause failed => .slips (.misfits known.member (.time failed))
  have finish : FailsOnly (Ends archive winds) (settlePresent item target) := by
    unfold settlePresent
    split
    · split
      · next mode given => exact (failsOnly_setPermissions known given target).bind fun _ _ => timed
      · exact timed
    · exact Action.gives_pure trivial
  have owned : FailsOnly (Ends archive winds) (failIf (item.owner.bind Owner.fault?)) := by
    refine failsOnly_failIf fun cause failed => ?_
    obtain ⟨owner, given, fault⟩ := Option.bind_eq_some_iff.1 failed
    rw [known.owner owner given] at fault
    exact .slips (.misfits known.member (.owner fault))
  refine owned.bind fun _ _ => ?_
  refine Action.gives_look fun machine => ?_
  generalize (if item.kind = .symlink then machine.files.isTaken machine.cwd target
    else machine.files.leadsSomewhere machine.cwd target) = present
  cases present with
  | true => exact finish
  | false => exact Action.gives_throw_bind (.told rfl) _

section

variable {extract : Extractor} {item : Item} {target : String}

/-- That a target is missing is taken up by those who ask for it. -/
def EndsAt (archive : Archive) (winds : Prop) (item : Item) (failure : Failure) : Prop :=
  Ends archive winds failure ∨ ∃ name, failure = .archive (.missingTarget name) ∧
    findTarget archive item = .error (.missingTarget name)

theorem findTarget_error {fault : Fault} (failed : findTarget archive item = .error fault) :
    fault = .missingTarget (targetName item) := by
  unfold findTarget at failed
  dsimp only at failed
  split at failed
  · cases failed
  · cases failed
    rfl

theorem failsOnly_extractTarget
    (each : ∀ member, findTarget archive item = .ok member →
      Extraction.FailsOnly (Ends archive winds) (extract (Item.ofMember member) target true)) :
    Extraction.FailsOnly (EndsAt archive winds item) (extractTarget archive extract item target) := by
  have found : Gives (fun member => findTarget archive item = .ok member) (EndsAt archive winds item)
      (liftFault (findTarget archive item)) := by
    refine gives_liftFault fun fault failed => ?_
    cases findTarget_error failed
    exact .inr ⟨_, rfl, failed⟩
  refine (Extraction.gives_lift found).bind fun member same => ?_
  exact (each member same).weaken (fun _ _ => trivial) fun _ ends => .inl ends

/-- Without a target, a link that cannot be made is left out. -/
theorem failsOnly_replaceLink
    (each : ∀ member, findTarget archive item = .ok member →
      Extraction.FailsOnly (Ends archive winds) (extract (Item.ofMember member) target true)) :
    Extraction.FailsOnly (Ends archive winds) (replaceLink archive extract item target) := by
  refine (failsOnly_extractTarget each).attempt.bind fun result ended => ?_
  cases result with
  | ok _ => exact Extraction.gives_pure trivial
  | error failure =>
    rcases ended with ends | ⟨name, rfl, _⟩
    · split
      · next same => cases same
      · next same =>
        cases same
        exact Extraction.gives_throw (.told rfl)
      · next other _ same =>
        cases same
        exact Extraction.gives_throw ends
    · exact Extraction.gives_throw (.told rfl)

theorem failsOnly_makeHardLink (known : IsOf archive item) (hard : item.kind = .hardLink)
    (each : ∀ member, findTarget archive item = .ok member →
      Extraction.FailsOnly (Ends archive winds) (extract (Item.ofMember member) target true)) :
    Extraction.FailsOnly (Ends archive winds) (makeHardLink archive extract item target) := by
  have replaced := failsOnly_replaceLink each
  have again : Extraction.FailsOnly (Ends archive winds) (extractTarget archive extract item target) := by
    refine (failsOnly_extractTarget each).weaken (fun _ _ => trivial) ?_
    rintro failure (ends | ⟨name, rfl, missing⟩)
    · exact ends
    -- a hard link asks for its target outright, so this failure is not taken up
    · rw [findTarget_hardLink hard] at missing
      exact .slips (.target known.member hard missing)
  unfold makeHardLink
  split
  · exact replaced
  · refine Extraction.gives_machine fun machine => ?_
    refine Extraction.failsOnly_unlessRefused ?_ replaced
    split
    · exact Extraction.gives_lift (Action.failsOnly_change passesOn_ends target _)
    · exact again

theorem failsOnly_makeDevice (target : String) : FailsOnly (Ends archive winds) (makeDevice target) :=
  Action.gives_look fun _ => Action.gives_throw (.refused _ _)

theorem failsOnly_place (known : IsOf archive item)
    (each : item.kind = .symlink ∨ item.kind = .hardLink → ∀ member, findTarget archive item = .ok member →
      Extraction.FailsOnly (Ends archive winds) (extract (Item.ofMember member) target true)) :
    Extraction.FailsOnly (Ends archive winds) (place archive extract item target) := by
  unfold place
  split
  · exact Extraction.gives_lift (Action.failsOnly_change passesOn_ends target _)
  · next link =>
    exact Extraction.failsOnly_unlessRefused (Extraction.gives_lift (failsOnly_makeSymlink _ _))
      (failsOnly_replaceLink (each (.inl link)))
  · next hard => exact failsOnly_makeHardLink known hard (each (.inr hard))
  · exact Extraction.gives_lift (failsOnly_makeDevice target)
  · exact failsOnly_writeData known.member target

theorem failsOnly_extractItem (known : IsOf archive item) (depth : Nat) (path : String) (settled : Bool) :
    Extraction.FailsOnly (Ends archive (Winds archive depth item))
      (extractItem archive depth item path settled) := by
  -- one step further, the links wind once more
  induction depth generalizing item path settled with
  | zero => exact Extraction.gives_throw (.winds trivial)
  | succ depth ih =>
    have placed : Extraction.FailsOnly (Ends archive (Winds archive (depth + 1) item))
        (place archive (extractItem archive depth) item (PathText.withoutFinalSlashes path)) := by
      refine failsOnly_place known fun link member found => ?_
      exact (ih (isOf_ofMember (mem_of_findTarget found)) _ true).weaken (fun _ _ => trivial) fun _ ends =>
        ends.mono fun winds => ⟨link, member, found, winds⟩
    have last : Extraction.FailsOnly (Ends archive (Winds archive (depth + 1) item))
        (do
          place archive (extractItem archive depth) item (PathText.withoutFinalSlashes path)
          if settled then settle item (PathText.withoutFinalSlashes path)) := by
      refine placed.bind fun _ _ => ?_
      split
      · exact Extraction.gives_lift (failsOnly_settle known _)
      · exact Extraction.gives_pure trivial
    have provided : FailsOnly (Ends archive (Winds archive (depth + 1) item))
        (Action.provideDirectory (PathText.parent (PathText.withoutFinalSlashes path))) :=
      Action.failsOnly_provideDirectory passesOn_ends _
    rw [extractItem]
    refine Extraction.gives_machine fun machine => ?_
    by_cases missing : PathText.parent (PathText.withoutFinalSlashes path) ≠ "" ∧
      !machine.files.leadsSomewhere machine.cwd (PathText.parent (PathText.withoutFinalSlashes path))
    · rw [if_pos missing]
      exact (Extraction.gives_lift provided).bind fun _ _ => last
    · rw [if_neg missing]
      exact last

end

/-! ### Admission -/

theorem fileMode_lt (mode : Nat) : fileMode mode < 2 ^ 10 := by
  have limited : mode &&& permissionMask < 2 ^ 10 := Nat.and_lt_two_pow mode (by decide)
  unfold fileMode
  refine Nat.or_lt_two_pow ?_ (by decide)
  split
  · exact limited
  · exact Nat.and_lt_two_pow _ (by decide)

theorem failsOnly_requireInside (directory path : String) {fault : String → Fault}
    (told : ∀ place, (fault place).isReported = true) :
    FailsOnly (Ends archive winds) (requireInside directory path fault) := by
  refine (Action.failsOnly_realPath passesOn_ends path).bind fun place _ => ?_
  split
  · exact Action.gives_throw (.told (told place))
  · exact Action.gives_pure trivial

theorem failsOnly_requireLinkInside (directory name : String) (header : Header) :
    FailsOnly (Ends archive winds) (requireLinkInside directory name header) := by
  have inside : FailsOnly (Ends archive winds)
      (requireInside directory (linkPlace header.kind directory name header.linkName)
        (.linkOutside header.name)) := failsOnly_requireInside _ _ fun _ => rfl
  unfold requireLinkInside
  split
  · split
    · exact Action.gives_throw_bind (.told rfl) _
    · exact inside
  · exact Action.gives_pure trivial

theorem admittedMode_fits {header : Header} {mode : Int} (admitted : admittedMode header = .ok (some mode)) :
    ¬ (mode < -modeLimit ∨ modeLimit ≤ mode) := by
  unfold admittedMode at admitted
  split at admitted
  case h_1 | h_2 =>
    cases admitted
    have bound := fileMode_lt (permissionBits header.mode)
    simp only [modeLimit]
    omega
  all_goals cases admitted

theorem isReported_of_admittedMode {header : Header} {fault : Fault}
    (refused : admittedMode header = .error fault) : fault.isReported = true := by
  unfold admittedMode at refused
  split at refused
  all_goals cases refused
  rfl

theorem gives_permit (directory : String) {member : Member} (within : member ∈ archive.members) :
    Gives (fun item => item.member = member ∧ IsOf archive item) (Ends archive winds)
      (permit directory member) := by
  unfold permit
  refine (Action.failsOnly_realPath passesOn_ends directory).bind fun root _ => ?_
  refine (failsOnly_requireInside _ _ fun _ => rfl).bind fun _ _ => ?_
  refine (gives_liftFault fun fault refused => .told (isReported_of_admittedMode refused)).bind
    fun mode admitted => ?_
  refine (failsOnly_requireLinkInside _ _ _).bind fun _ _ => ?_
  refine Action.gives_pure ⟨rfl, within, nofun, ?_⟩
  rintro given same
  cases same
  exact .inr (admittedMode_fits admitted)

/-! ### Members, and the whole -/

theorem gives_extractMember (directory : String) {member : Member} (within : member ∈ archive.members) :
    Extraction.Gives (fun item => item.member ∈ archive.members) (Ends archive False)
      (extractMember archive directory member) := by
  refine (Extraction.gives_lift (gives_permit directory within)).bind fun item known => ?_
  obtain ⟨same, known⟩ := known
  refine ((failsOnly_extractItem known _ _ _).attempt).bind fun result ended => ?_
  split
  · exact Extraction.gives_pure known.member
  · exact Extraction.gives_pure known.member
  · next failure _ =>
    refine Extraction.gives_throw ?_
    cases ended with
    -- the depth was enough for every chain of links that comes to an end
    | winds endless => exact .slips (.links known.member endless)
    | refused errno subject => exact .refused errno subject
    | nul => exact .nul
    | told reported => exact .told reported
    | slips slips => exact .slips slips

theorem gives_extractMembers (directory : String) {members : List Member}
    (within : ∀ member ∈ members, member ∈ archive.members) :
    Extraction.Gives (fun items => ∀ item ∈ items, item.member ∈ archive.members) (Ends archive False)
      (extractMembers archive directory members) := by
  induction members with
  | nil =>
    rw [extractMembers]
    exact Extraction.gives_pure fun _ there => absurd there List.not_mem_nil
  | cons member members ih =>
    rw [extractMembers]
    refine (gives_extractMember directory (within member List.mem_cons_self)).bind fun item known => ?_
    refine (ih fun other there => within other (List.mem_cons_of_mem _ there)).bind fun items others => ?_
    refine Extraction.gives_pure fun other there => ?_
    rcases List.mem_cons.1 there with rfl | there
    · exact known
    · exact others other there

theorem failsOnly_settleDirectories (directory : String) {items : List Item}
    (known : ∀ item ∈ items, item.member ∈ archive.members) :
    FailsOnly (Ends archive winds) (settleDirectories directory items) := by
  refine Action.failsOnly_forM fun item there => Action.gives_look fun machine => ?_
  have member := known item ((List.mergeSort_perm _ _).mem_iff.1 there)
  split
  · exact failsOnly_failIf fun cause failed => .slips (.misfits member (.time failed))
  · exact Action.gives_pure trivial

/-- Extracting fails for reasons that are told, or because something is wrong with the archive. -/
theorem failsOnly_extract (archive : Archive) (directory : String) :
    FailsOnly (Ends archive False) (archive.extract directory) := by
  unfold extract
  have members : Extraction.Gives (fun items => ∀ item ∈ items, item.member ∈ archive.members)
      (Ends archive False) (extractMembers archive directory archive.members) :=
    gives_extractMembers directory fun _ there => there
  refine (members.ends archive.cursor).bind fun result known => ?_
  refine failsOnly_settleDirectories directory fun item there => known item ?_
  -- only directories are settled at the end, and these are items of members too
  exact (List.mem_filter.1 there).1

end Bookbinder.Archive
