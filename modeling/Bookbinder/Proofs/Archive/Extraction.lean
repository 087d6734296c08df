import Bookbinder.Archive.Admission
import Bookbinder.Archive.Extract
import Bookbinder.Proofs.FileSystem.Operations
import Bookbinder.Proofs.Machine.Outcomes

/-!
Members that are admitted, and what extracting one of them does to files. Main statements: the name of a
member leads into the directory, and so does the name of what a hard link stands for; as long as the names of a
path stay in a place, to extract an item to that path changes nothing outside, whatever the item stands for.
-/

set_option autoImplicit false

namespace Bookbinder.Archive

open FileSystem (spotText Contained Steady Admitted)

section

variable {before failed : Machine → Prop} (weaker : ∀ machine, before machine → failed machine)

include weaker

theorem meets_liftFault {α : Type} (result : Except Fault α) :
    Action.Meets before (liftFault result) (fun _ => before) failed := by
  cases result with
  | ok value => exact Action.meets_pure fun _ holds => holds
  | error fault => exact Action.meets_throw weaker

theorem meets_requireInside (directory path : String) (fault : String → Fault) :
    Action.Meets before (requireInside directory path fault)
      (fun _ machine => before machine ∧ ∃ place,
        machine.files.realPath machine.cwd path = .ok place ∧
          PathText.leadsInto directory place = true) failed := by
  refine ((Action.meets_realPath path).weaken (fun _ holds => holds) (fun _ _ holds => holds)
    weaker).bind fun place => ?_
  cases inside : PathText.leadsInto directory place with
  | true => exact Action.meets_pure fun machine holds => ⟨holds.1, place, holds.2, inside⟩
  | false => exact Action.meets_throw fun machine holds => weaker machine holds.1

/-- The place of a hard link was looked at. -/
theorem meets_requireLinkInside (directory name : String) (header : Header) :
    Action.Meets before (requireLinkInside directory name header)
      (fun _ machine => before machine ∧ (header.kind = .hardLink →
        PathText.isAnchored header.linkName = false ∧ ∃ place,
          machine.files.realPath machine.cwd (PathText.join directory header.linkName) = .ok place ∧
            PathText.leadsInto directory place = true)) failed := by
  unfold requireLinkInside
  by_cases link : header.kind = .symlink ∨ header.kind = .hardLink
  · rw [if_pos link]
    cases anchored : PathText.isAnchored header.linkName with
    | true => exact Action.meets_throw weaker
    | false =>
      refine (meets_requireInside weaker _ _ _).weaken (fun _ holds => holds) ?_ fun _ holds => holds
      rintro _ machine ⟨holds, place, found, inside⟩
      refine ⟨holds, fun hard => ⟨rfl, place, ?_, inside⟩⟩
      rwa [linkPlace, if_neg (by simp [hard])] at found
  · rw [if_neg link]
    exact Action.meets_pure fun machine holds => ⟨holds, fun hard => absurd (.inr hard) link⟩

end

/-- A member as it was admitted, and what is known of where its names lead. -/
structure IsAdmitted (files : FileSystem) (home : Spot) (directory : String) (member : Member)
    (item : Item) : Prop where
  same : item.member = member
  name : item.name = withoutFirstSlashes member.header.name
  inside : files.Admitted home (PathText.parts item.name)
  existing : item.existing =
    if item.kind = .hardLink then some (PathText.join directory item.linkName) else none
  unanchored : item.kind = .hardLink → PathText.isAnchored item.linkName = false
  linkInside : item.kind = .hardLink → files.Admitted home (PathText.parts item.linkName)

/-- A name that is not anchored leads into a place if its real path does. -/
theorem admitted_of_realPath {before files : FileSystem} {home : Spot} {name place : String}
    {cwd : WorkingDirectory} (contained : Contained before home files) (short : files.LinksAreShort)
    (root : home ≠ []) (plain : PathText.isAnchored name = false)
    (found : files.realPath cwd (PathText.join (spotText home) name) = .ok place)
    (into : PathText.leadsInto (spotText home) place = true) :
    files.Admitted home (PathText.parts name) := by
  intro count goal leads
  obtain ⟨serial, mode, present⟩ := FileSystem.entryAt?_of_isDirectory contained.standing
  have down := contained.tree.leadsDown present
  have clear := contained.tree.isClear contained.standing
  have there := FileSystem.realPath_join contained.tree short cwd root clear down plain leads
  rw [found] at there
  cases there
  exact (FileSystem.leadsInto_spotText_iff down (leads.leadsDown down)).1 into

theorem isAnchored_withoutFirstSlashes (name : String) :
    PathText.isAnchored (withoutFirstSlashes name) = false := by
  have first : (name.toList.dropWhile (· = '/')).head? ≠ some '/' := by
    intro slash
    have last := List.head?_dropWhile_not (· = '/') name.toList
    rw [slash] at last
    simp at last
  simpa [PathText.isAnchored, withoutFirstSlashes] using first

/-- To admit a member changes nothing. -/
theorem meets_permit {before : FileSystem} {cwd : WorkingDirectory} {home : Spot} {directory : String}
    (steady : Steady before cwd home directory) (root : home ≠ []) (member : Member)
    {kept : Machine → Prop}
    (holds : ∀ machine, kept machine →
      Contained before home machine.files ∧ machine.cwd = cwd ∧ machine.files.LinksAreShort) :
    Action.Meets kept (permit directory member)
      (fun item machine => kept machine ∧ IsAdmitted machine.files home directory member item) kept := by
  unfold permit
  refine (Action.meets_realPath directory).bind fun text => ?_
  have known : ∀ machine, kept machine ∧ machine.files.realPath machine.cwd directory = .ok text →
      text = spotText home := by
    rintro machine ⟨keeps, found⟩
    obtain ⟨contained, here, short⟩ := holds machine keeps
    rw [here, steady.real machine.files contained] at found
    cases found
    rfl
  refine Action.Meets.knowing known fun same => ?_
  subst same
  refine (meets_requireInside (fun _ holds => holds.1) _ _ _).bind fun _ => ?_
  refine (meets_liftFault (fun _ holds => holds.1.1) _).bind fun mode => ?_
  refine (meets_requireLinkInside (fun _ holds => holds.1.1) _ _ _).bind fun _ => ?_
  refine Action.meets_pure fun machine ⟨⟨⟨keeps, _⟩, place, found, inside⟩, link⟩ => ⟨keeps, ?_⟩
  obtain ⟨contained, here, short⟩ := holds machine keeps
  have plain := isAnchored_withoutFirstSlashes member.header.name
  exact {
    same := rfl
    name := rfl
    inside := admitted_of_realPath contained short root plain found inside
    existing := rfl
    unanchored := fun hard => (link hard).1
    linkInside := fun hard =>
      let ⟨unanchored, place, found, inside⟩ := link hard
      admitted_of_realPath contained short root unanchored found inside }

/-! ### What extracting an item does -/

open FileSystem (Ready SameLinks Extends)

namespace Extraction

variable {α β : Type} {before failed : Machine → Prop} {after : α → Machine → Prop}

/-- What holds of the machine after extracting, wherever in the stream it starts. -/
structure Meets (before : Machine → Prop) (extraction : Extraction α) (after : α → Machine → Prop)
    (failed : Machine → Prop) : Prop where
  ends : ∀ cursor, Action.Meets before (extraction cursor) (fun result => after result.1) failed

theorem meets_pure {value : α} (holds : ∀ machine, before machine → after value machine) :
    Meets before (pure value) after failed :=
  ⟨fun _ => Action.meets_pure holds⟩

theorem meets_throw {failure : Failure} (holds : ∀ machine, before machine → failed machine) :
    Meets before (throw failure : Extraction α) after failed :=
  ⟨fun _ => Action.meets_throw holds⟩

theorem meets_lift {action : Action α} (meets : Action.Meets before action after failed) :
    Meets before (liftM action) after failed :=
  ⟨fun _ => meets.bind fun _ => Action.meets_pure fun _ holds => holds⟩

theorem Meets.bind {extraction : Extraction α} {next : α → Extraction β} {final : β → Machine → Prop}
    (first : Meets before extraction after failed)
    (onward : ∀ value, Meets (after value) (next value) final failed) :
    Meets before (extraction >>= next) final failed :=
  ⟨fun cursor => (first.ends cursor).bind fun result => (onward result.1).ends result.2⟩

theorem Meets.weaken {extraction : Extraction α} (meets : Meets before extraction after failed)
    {stronger other : Machine → Prop} {weaker : α → Machine → Prop}
    (first : ∀ machine, stronger machine → before machine)
    (last : ∀ value machine, after value machine → weaker value machine)
    (failing : ∀ machine, failed machine → other machine) : Meets stronger extraction weaker other :=
  ⟨fun cursor => (meets.ends cursor).weaken first (fun result => last result.1) failing⟩

theorem Meets.knowing {extraction : Extraction α} {fact : Prop}
    (known : ∀ machine, before machine → fact) (meets : fact → Meets before extraction after failed) :
    Meets before extraction after failed :=
  ⟨fun cursor => Action.Meets.knowing known fun holds => (meets holds).ends cursor⟩

theorem Meets.attempt {extraction : Extraction α} (meets : Meets before extraction after failed)
    {other : Machine → Prop} :
    Meets before (attempt extraction)
      (fun result machine =>
        match result with
        | .ok value => after value machine
        | .error _ => failed machine) other := by
  refine ⟨fun cursor => (meets.ends cursor).attempt.bind fun result => ?_⟩
  cases result with
  | ok value => exact Action.meets_pure fun _ holds => holds
  | error failure => exact Action.meets_pure fun _ holds => holds

theorem meets_machine {next : Machine → Extraction α}
    (onward : ∀ machine,
      Meets (fun same => same = machine ∧ before same) (next machine) after failed) :
    Meets before (getThe Machine >>= next) after failed :=
  ⟨fun cursor => ⟨fun machine holds => ((onward machine).ends cursor).ends machine ⟨rfl, holds⟩⟩⟩

/-- Another way to extract is taken from where the first one stopped. -/
theorem Meets.unlessRefused {extraction fallback : Extraction Unit} {between final : Machine → Prop}
    (first : Meets before extraction (fun _ => final) between)
    (second : Meets between fallback (fun _ => final) failed)
    (weaker : ∀ machine, between machine → failed machine) :
    Meets before (unlessRefused extraction fallback) (fun _ => final) failed := by
  refine (first.attempt).bind fun result => ?_
  cases result with
  | ok _ => exact meets_pure fun _ holds => holds
  | error failure =>
    cases failure with
    | refused errno subject => exact second
    | _ => exact meets_throw weaker

theorem meets_look {next : Machine → Extraction α}
    (onward : ∀ machine, Meets before (next machine) after failed) :
    Meets before (getThe Machine >>= next) after failed :=
  ⟨fun cursor => ⟨fun machine holds => ((onward machine).ends cursor).ends machine holds⟩⟩

theorem meets_cursor {next : Compression.Gzip.Cursor → Extraction α}
    (onward : ∀ cursor, Meets before (next cursor) after failed) :
    Meets before (get >>= next) after failed :=
  ⟨fun cursor => (onward cursor).ends cursor⟩

theorem meets_set (cursor : Compression.Gzip.Cursor) :
    Meets before (set cursor : Extraction Unit) (fun _ => before) failed :=
  ⟨fun _ => Action.meets_pure fun _ holds => holds⟩

end Extraction

/-! ### What is made of one item -/

/-- The machine still stands where it stood, and nothing but a place has changed. -/
structure Contains (before : FileSystem) (cwd : WorkingDirectory) (home : Spot) (machine : Machine) :
    Prop where
  contained : Contained before home machine.files
  cwd : machine.cwd = cwd

/-- And some names stay in the place. -/
structure Holds (before : FileSystem) (cwd : WorkingDirectory) (home : Spot) (names : List String)
    (machine : Machine) : Prop where
  ready : Ready before home names machine.files
  cwd : machine.cwd = cwd

variable {before : FileSystem} {cwd : WorkingDirectory} {home : Spot} {directory target : String}
  {names : List String}

theorem Holds.contains {machine : Machine} (holds : Holds before cwd home names machine) :
    Contains before cwd home machine :=
  ⟨holds.ready.contained, holds.cwd⟩

theorem keeps_failIf (fault : Option Fault) {kept : Machine → Prop} : Action.Keeps kept (failIf fault) := by
  cases fault with
  | none => exact Action.meets_pure fun _ holds => holds
  | some fault => exact Action.meets_throw fun _ holds => holds

section

variable (steady : Steady before cwd home directory) (below : Extends directory names target)

include steady below

theorem keeps_writeData (archive : Archive) (member : Member) :
    Extraction.Meets (Holds before cwd home names) (writeData archive member target)
      (fun _ => Holds before cwd home names) (Holds before cwd home names) := by
  have write (bytes : Text.Bytes) : Action.Keeps (Holds before cwd home names)
      (Action.change target fun files cwd => files.writeFile cwd target fun _ => bytes) := by
    refine Action.meets_change fun machine files holds written => ?_
    rw [holds.cwd] at written
    exact ⟨holds.ready.writeFile steady below written, holds.cwd⟩
  refine Extraction.meets_cursor fun cursor => ?_
  refine (Extraction.meets_lift (meets_liftFault (fun _ holds => holds) _)).bind fun cursor => ?_
  refine (Extraction.meets_set _).bind fun _ => ?_
  refine (Extraction.meets_lift (write _)).bind fun _ => ?_
  split
  · exact Extraction.meets_throw fun _ holds => holds
  · exact Extraction.meets_pure fun _ holds => holds

theorem keeps_makeDirectory (mode : Nat) :
    Action.Keeps (Holds before cwd home names) (makeDirectory target mode) := by
  refine Action.meets_change fun machine files holds made => ?_
  rw [holds.cwd] at made
  split at made
  · split at made
    · cases made
      exact holds
    · cases made
  · exact ⟨(holds.ready.makeDirectory steady below (List.prefix_refl names) made).1, holds.cwd⟩

theorem keeps_setPermissions (mode : Int) :
    Action.Keeps (Holds before cwd home names) (setPermissions target mode) := by
  have change : Action.Keeps (Holds before cwd home names)
      (Action.change target fun files cwd => files.setMode cwd target (permissionBits mode)) := by
    refine Action.meets_change fun machine files holds changed => ?_
    rw [holds.cwd] at changed
    exact ⟨holds.ready.setMode steady below changed, holds.cwd⟩
  unfold setPermissions
  split
  · exact (Action.meets_throw fun _ holds => holds).bind fun _ => change
  · exact change

/-- If the link cannot be made, the names still stay in the place. -/
theorem meets_makeSymlink (linkName : String) :
    Action.Meets (Holds before cwd home names) (makeSymlink linkName target)
      (fun _ => Contains before cwd home) (Holds before cwd home names) := by
  have make : Action.Meets (Holds before cwd home names)
      (Action.change target fun files cwd => files.makeSymlink cwd linkName target)
      (fun _ => Contains before cwd home) (Holds before cwd home names) := by
    refine Action.meets_change fun machine files holds made => ?_
    rw [holds.cwd] at made
    exact ⟨holds.ready.makeSymlink steady below made, holds.cwd⟩
  have remove : Action.Keeps (Holds before cwd home names)
      (Action.change target fun files cwd => files.unlink cwd target) := by
    refine Action.meets_change fun machine files holds removed => ?_
    rw [holds.cwd] at removed
    exact ⟨holds.ready.unlink steady below removed, holds.cwd⟩
  have replace : Action.Meets (Holds before cwd home names)
      (do
        let machine ← get
        if machine.files.isTaken machine.cwd target then
          Action.change target fun files cwd => files.unlink cwd target
        Action.change target fun files cwd => files.makeSymlink cwd linkName target)
      (fun _ => Contains before cwd home) (Holds before cwd home names) := by
    refine Action.meets_look fun machine => ?_
    split
    · exact remove.bind fun _ => make
    · exact make
  unfold makeSymlink
  split
  · exact (Action.meets_throw fun _ holds => holds).bind fun _ => replace
  · exact replace

end

theorem keeps_makeDevice (target : String) {kept : Machine → Prop} :
    Action.Keeps kept (makeDevice target) := by
  refine Action.meets_look fun machine => ?_
  exact Action.meets_throw fun _ holds => holds

/-- What is left to do with an item that is there; of a link, no permission bits are set. -/
def settlePresent (item : Item) (target : String) : Action Unit := do
  if item.kind ≠ .symlink then
    if let some mode := item.mode then setPermissions target mode
    failIf item.member.header.time.fault?

theorem keeps_settle {item : Item} {kept : Machine → Prop}
    (change : item.kind ≠ .symlink → ∀ mode, Action.Keeps kept (setPermissions target mode)) :
    Action.Keeps kept (settle item target) := by
  have finish : Action.Keeps kept (settlePresent item target) := by
    unfold settlePresent
    split
    · next noLink =>
      split
      · exact (change noLink _).bind fun _ => keeps_failIf _
      · exact keeps_failIf _
    · exact Action.meets_pure fun _ holds => holds
  refine (keeps_failIf _).bind fun _ => ?_
  refine Action.meets_look fun machine => ?_
  generalize (if item.kind = .symlink then machine.files.isTaken machine.cwd target
    else machine.files.leadsSomewhere machine.cwd target) = present
  cases present with
  | true => exact finish
  | false => exact (Action.meets_throw fun _ holds => holds).bind fun _ => finish

/-! ### Links that stand for other members -/

theorem mem_of_findTarget {archive : Archive} {item : Item} {member : Member}
    (found : findTarget archive item = .ok member) : member ∈ archive.members := by
  unfold findTarget at found
  dsimp only at found
  split at found
  · next other first =>
    cases found
    have member := List.mem_reverse.1 (List.mem_of_find?_eq_some first)
    split at member
    · exact member
    · exact (List.takeWhile_sublist _).subset member
  · cases found

section

variable {kept : Machine → Prop} {archive : Archive} {extract : Extractor} {item : Item}
  {final : Machine → Prop}

theorem meets_extractTarget (weaker : ∀ machine, kept machine → final machine)
    (each : ∀ member, findTarget archive item = .ok member →
      Extraction.Meets kept (extract (Item.ofMember member) target true) (fun _ => final) final) :
    Extraction.Meets kept (extractTarget archive extract item target) (fun _ => final) final := by
  have found : Action.Meets kept (liftFault (findTarget archive item))
      (fun member machine => kept machine ∧ findTarget archive item = .ok member) final := by
    cases result : findTarget archive item with
    | ok member => exact Action.meets_pure fun _ holds => ⟨holds, rfl⟩
    | error fault => exact Action.meets_throw weaker
  refine (Extraction.meets_lift found).bind fun member => ?_
  refine Extraction.Meets.knowing (fun _ holds => holds.2) fun result => ?_
  exact (each member result).weaken (fun _ holds => holds.1) (fun _ _ holds => holds)
    fun _ holds => holds

theorem meets_replaceLink (weaker : ∀ machine, kept machine → final machine)
    (each : ∀ member, findTarget archive item = .ok member →
      Extraction.Meets kept (extract (Item.ofMember member) target true) (fun _ => final) final) :
    Extraction.Meets kept (replaceLink archive extract item target) (fun _ => final) final := by
  refine ((meets_extractTarget weaker each).attempt).bind fun result => ?_
  cases result with
  | ok _ => exact Extraction.meets_pure fun _ holds => holds
  | error failure =>
    cases failure with
    | archive fault => cases fault <;> exact Extraction.meets_throw fun _ holds => holds
    | _ => exact Extraction.meets_throw fun _ holds => holds

end

/-- What a hard link is a second name of, if that has been checked, is in the place and no link. -/
def Owns (home : Spot) (directory : String) (item : Item) (files : FileSystem) : Prop :=
  ∀ existing, item.existing = some existing → ∃ linkName, existing = directory ++ "/" ++ linkName ∧
    files.Admitted home (PathText.parts linkName) ∧ ¬ files.NamesLink home linkName

theorem Owns.of_sameLinks {files after : FileSystem} {item : Item} (owns : Owns home directory item files)
    (same : SameLinks files after) : Owns home directory item after := by
  intro existing checked
  obtain ⟨linkName, path, admitted, noLink⟩ := owns existing checked
  exact ⟨linkName, path, admitted.of_sameLinks same, fun names => noLink (names.of_sameLinks same)⟩

theorem owns_ofMember (member : Member) (files : FileSystem) :
    Owns home directory (Item.ofMember member) files :=
  nofun

/-- What is known before an item is extracted. -/
structure Awaits (before : FileSystem) (cwd : WorkingDirectory) (home : Spot) (directory : String)
    (names : List String) (item : Item) (machine : Machine) : Prop where
  holds : Holds before cwd home names machine
  owns : Owns home directory item machine.files

/-- What is known after that: if the item was a link, its names may lead anywhere. -/
structure Leaves (before : FileSystem) (cwd : WorkingDirectory) (home : Spot) (names : List String)
    (item : Item) (machine : Machine) : Prop where
  contains : Contains before cwd home machine
  holds : item.kind ≠ .symlink → Holds before cwd home names machine

theorem Holds.leaves {machine : Machine} (holds : Holds before cwd home names machine) (item : Item) :
    Leaves before cwd home names item machine :=
  ⟨holds.contains, fun _ => holds⟩

/-- No hard link stands for a symbolic link by the name of an earlier member. -/
def HardLinksAreSolid (archive : Archive) : Prop :=
  ∀ member ∈ archive.members, member.header.kind = .hardLink →
    ∀ found, findTarget archive (Item.ofMember member) = .ok found → found.header.kind ≠ .symlink

theorem HardLinksAreSolid.of_no_symlink {archive : Archive}
    (none : ∀ member ∈ archive.members, member.header.kind ≠ .symlink) : HardLinksAreSolid archive :=
  fun _ _ _ found target => none found (mem_of_findTarget target)

theorem findTarget_hardLink {archive : Archive} {item : Item} (hard : item.kind = .hardLink) :
    findTarget archive item = findTarget archive (Item.ofMember item.member) := by
  have notSymlink : item.kind ≠ .symlink := by rw [hard]; simp
  have same : (Item.ofMember item.member).kind ≠ .symlink := notSymlink
  have name : targetName item = targetName (Item.ofMember item.member) := by
    rw [targetName, targetName, if_neg notSymlink, if_neg same]
    rfl
  simp only [findTarget, name, if_neg notSymlink, if_neg same]
  rfl

section

variable {archive : Archive} {item : Item} {extract : Extractor}

/-- A hard link is made, or what it stands for is extracted in its place. -/
theorem meets_makeHardLink (steady : Steady before cwd home directory)
    (below : Extends directory names target)
    (each : ∀ member, findTarget archive item = .ok member →
      Extraction.Meets (Holds before cwd home names) (extract (Item.ofMember member) target true)
        (fun _ => Holds before cwd home names) (Holds before cwd home names)) :
    Extraction.Meets (Awaits before cwd home directory names item)
      (makeHardLink archive extract item target)
      (fun _ => Holds before cwd home names) (Holds before cwd home names) := by
  have replaced := meets_replaceLink (fun _ holds => holds) each
  unfold makeHardLink
  cases checked : item.existing with
  | none => exact replaced.weaken (fun _ awaits => awaits.holds) (fun _ _ holds => holds) fun _ holds => holds
  | some existing =>
    have linked : Action.Meets (Awaits before cwd home directory names item)
        (Action.change target fun files cwd => files.makeHardLink cwd existing target)
        (fun _ => Holds before cwd home names) (Holds before cwd home names) := by
      refine Action.Meets.weaken (Action.meets_change fun machine files awaits made => ?_)
        (fun _ awaits => awaits) (fun _ _ holds => holds) fun _ awaits => awaits.holds
      obtain ⟨linkName, rfl, admitted, noLink⟩ := awaits.owns existing checked
      rw [awaits.holds.cwd] at made
      exact ⟨awaits.holds.ready.makeHardLink steady below
        (FileSystem.own_of_locate awaits.holds.ready.contained steady admitted noLink) made,
        awaits.holds.cwd⟩
    refine Extraction.meets_look fun machine => ?_
    refine Extraction.Meets.unlessRefused ?_ replaced fun _ holds => holds
    split
    · exact Extraction.meets_lift linked
    · exact (meets_extractTarget (fun _ holds => holds) each).weaken (fun _ awaits => awaits.holds)
        (fun _ _ holds => holds) fun _ holds => holds

theorem meets_place (steady : Steady before cwd home directory)
    (below : Extends directory names target)
    (each : ∀ member, findTarget archive item = .ok member →
      Extraction.Meets (Holds before cwd home names) (extract (Item.ofMember member) target true)
        (fun _ => Leaves before cwd home names (Item.ofMember member))
        (Leaves before cwd home names (Item.ofMember member)))
    (solid : item.kind = .hardLink → ∀ member, findTarget archive item = .ok member →
      member.header.kind ≠ .symlink) :
    Extraction.Meets (Awaits before cwd home directory names item) (place archive extract item target)
      (fun _ => Leaves before cwd home names item) (Leaves before cwd home names item) := by
  have keeping {extraction : Extraction Unit}
      (keeps : Extraction.Meets (Holds before cwd home names) extraction
        (fun _ => Holds before cwd home names) (Holds before cwd home names)) :
      Extraction.Meets (Awaits before cwd home directory names item) extraction
        (fun _ => Leaves before cwd home names item) (Leaves before cwd home names item) :=
    keeps.weaken (fun _ awaits => awaits.holds) (fun _ _ holds => holds.leaves item)
      fun _ holds => holds.leaves item
  unfold place
  split
  · exact keeping (Extraction.meets_lift (keeps_makeDirectory steady below _))
  · next link =>
    have contains : ∀ machine, Contains before cwd home machine →
        Leaves before cwd home names item machine :=
      fun _ contains => ⟨contains, fun noLink => absurd link noLink⟩
    have replaced : Extraction.Meets (Holds before cwd home names) (replaceLink archive extract item target)
        (fun _ => Contains before cwd home) (Contains before cwd home) :=
      meets_replaceLink (fun _ holds => holds.contains) fun member found =>
        (each member found).weaken (fun _ holds => holds) (fun _ _ leaves => leaves.contains)
          fun _ leaves => leaves.contains
    have made := Extraction.Meets.unlessRefused
      (Extraction.meets_lift (meets_makeSymlink steady below item.linkName)) replaced
      fun _ holds => holds.contains
    exact made.weaken (fun _ awaits => awaits.holds) (fun _ => contains) contains
  · next hard =>
    refine (meets_makeHardLink steady below fun member found => ?_).weaken (fun _ awaits => awaits)
      (fun _ _ holds => holds.leaves item) fun _ holds => holds.leaves item
    have noLink : (Item.ofMember member).kind ≠ .symlink := solid hard member found
    exact (each member found).weaken (fun _ holds => holds) (fun _ _ leaves => leaves.holds noLink)
      fun _ leaves => leaves.holds noLink
  · exact keeping (Extraction.meets_lift (keeps_makeDevice target))
  · exact keeping (keeps_writeData steady below archive item.member)

/-- What is missing above a path is made in the place. -/
theorem meets_provideParent (steady : Steady before cwd home directory)
    (below : Extends directory names target) {machine : Machine}
    (missing : PathText.parent target ≠ "" ∧
      !machine.files.leadsSomewhere machine.cwd (PathText.parent target)) :
    Action.Meets (fun same => same = machine ∧ Awaits before cwd home directory names item same)
      (Action.provideDirectory (PathText.parent target))
      (fun _ => Awaits before cwd home directory names item)
      (Awaits before cwd home directory names item) := by
  refine Action.meets_provideDirectory (fun _ holds => holds.2) ?_
  rintro same depth ⟨rfl, awaits⟩
  obtain ⟨some, nowhere⟩ := missing
  have reached := steady.located same.files awaits.holds.ready.contained
  have here := awaits.holds.cwd
  rw [here] at nowhere
  have deeper : names ≠ [] := by
    rintro rfl
    rw [below.eq_of_nil] at some nowhere
    rcases FileSystem.leadsSomewhere_parent steady.plain (reached true) with none | somewhere
    · exact some none
    · simp [somewhere] at nowhere
  obtain ⟨shorter, _⟩ := below.split deeper steady.some steady.plain
  have higher : names.dropLast ≠ [] := by
    intro none
    rw [none] at shorter
    have somewhere := FileSystem.leadsSomewhere_of_locate (reached true)
      awaits.holds.ready.contained.standing
    rw [PathText.parent, shorter.eq_of_nil, somewhere] at nowhere
    cases nowhere
  have made := awaits.holds.ready.makeDirectories steady shorter higher (List.dropLast_prefix names) depth
  rw [← here] at made
  exact ⟨⟨made.1, here⟩, awaits.owns.of_sameLinks made.2⟩

/-- Extracting an item to a path in the place changes nothing outside. -/
theorem meets_extractItem (steady : Steady before cwd home directory)
    (solid : HardLinksAreSolid archive) (depth : Nat) {path : String} {settled : Bool}
    (member : item.member ∈ archive.members)
    (below : Extends directory names (PathText.withoutFinalSlashes path)) :
    Extraction.Meets (Awaits before cwd home directory names item)
      (extractItem archive depth item path settled)
      (fun _ => Leaves before cwd home names item) (Leaves before cwd home names item) := by
  induction depth generalizing item path settled with
  | zero => exact Extraction.meets_throw fun _ awaits => awaits.holds.leaves item
  | succ depth ih =>
    have again := below
    rw [← FileSystem.withoutFinalSlashes_of_not_endsInSlash (below.not_endsInSlash steady.plain)] at again
    have placed : Extraction.Meets (Awaits before cwd home directory names item)
        (place archive (extractItem archive depth) item (PathText.withoutFinalSlashes path))
        (fun _ => Leaves before cwd home names item) (Leaves before cwd home names item) := by
      refine meets_place steady below (fun other found => ?_) fun hard other found => ?_
      · have inner : (Item.ofMember other).member ∈ archive.members := mem_of_findTarget found
        exact (ih inner again).weaken (fun _ holds => ⟨holds, owns_ofMember other _⟩)
          (fun _ _ leaves => leaves) fun _ leaves => leaves
      · rw [findTarget_hardLink hard] at found
        exact solid item.member member hard other found
    have change (noLink : item.kind ≠ .symlink) (mode : Int) :
        Action.Keeps (Leaves before cwd home names item)
          (setPermissions (PathText.withoutFinalSlashes path) mode) :=
      (keeps_setPermissions steady below mode).weaken (fun _ leaves => leaves.holds noLink)
        (fun _ _ holds => holds.leaves item) fun _ holds => holds.leaves item
    have last : Extraction.Meets (Awaits before cwd home directory names item)
        (do
          place archive (extractItem archive depth) item (PathText.withoutFinalSlashes path)
          if settled then settle item (PathText.withoutFinalSlashes path))
        (fun _ => Leaves before cwd home names item) (Leaves before cwd home names item) := by
      refine placed.bind fun _ => ?_
      split
      · exact Extraction.meets_lift (keeps_settle change)
      · exact Extraction.meets_pure fun _ leaves => leaves
    rw [extractItem]
    refine Extraction.meets_machine fun machine => ?_
    by_cases missing : PathText.parent (PathText.withoutFinalSlashes path) ≠ "" ∧
      !machine.files.leadsSomewhere machine.cwd (PathText.parent (PathText.withoutFinalSlashes path))
    · have provided : Action.Meets
          (fun same => same = machine ∧ Awaits before cwd home directory names item same)
          (Action.provideDirectory (PathText.parent (PathText.withoutFinalSlashes path)))
          (fun _ => Awaits before cwd home directory names item)
          (Leaves before cwd home names item) :=
        (meets_provideParent steady below missing).weaken (fun _ holds => holds)
          (fun _ _ awaits => awaits) fun _ awaits => awaits.holds.leaves item
      rw [if_pos missing]
      exact (Extraction.meets_lift provided).bind fun _ => last
    · rw [if_neg missing]
      exact last.weaken (fun _ holds => holds.2) (fun _ _ leaves => leaves) fun _ leaves => leaves

end

end Bookbinder.Archive
