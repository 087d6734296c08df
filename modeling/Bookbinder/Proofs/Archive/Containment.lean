import Bookbinder.Proofs.Archive.Extraction

/-!
What extracting an archive does to files. Main statement: unless one of its members steps up or stands for
a symbolic link that it is no name of, nothing outside the directory changes.
-/

set_option autoImplicit false

namespace Bookbinder

open FileSystem (Contained Steady Extends)

/-- The machine at the turn of the member that comes after so many. -/
def Archive.atTurn (archive : Archive) (directory : String) (machine : Machine) (count : Nat) : Machine :=
  (Action.perform
    (Archive.extractMembers archive directory (archive.members.take count) archive.cursor) machine).2

namespace Archive

/-- When the turn of a member comes, links can be looked up, and a hard link is not to be made to a
symbolic link. -/
structure IsFit (home : Spot) (member : Member) (machine : Machine) : Prop where
  short : machine.files.LinksAreShort
  noLink : member.header.kind = .hardLink → ¬ machine.files.NamesLink home member.header.linkName

/-- And nothing outside has changed. -/
structure IsDue (before : FileSystem) (cwd : WorkingDirectory) (home : Spot) (member : Member)
    (machine : Machine) : Prop extends IsFit home member machine where
  contains : Contains before cwd home machine

variable {before : FileSystem} {cwd : WorkingDirectory} {home : Spot} {directory : String}
  {archive : Archive}

theorem parts_withoutFirstSlashes (name : String) :
    (PathText.parts (withoutFirstSlashes name)).filter (· != "") =
      (PathText.parts name).filter (· != "") := by
  generalize chars : name.toList = row
  induction row generalizing name with
  | nil =>
    rw [withoutFirstSlashes, chars]
    simp [PathText.parts, chars]
  | cons c rest ih =>
    by_cases slash : c = '/'
    · have onward := ih (String.ofList rest) String.toList_ofList
      rw [withoutFirstSlashes, chars, List.dropWhile_cons_of_pos (by simpa using slash)]
      rw [withoutFirstSlashes, String.toList_ofList] at onward
      rw [onward]
      simp [PathText.parts, chars, slash, Text.splitOn]
    · have same : withoutFirstSlashes name = name := by
        rw [withoutFirstSlashes, chars, List.dropWhile_cons_of_neg (by simpa using slash), ← chars,
          String.ofList_toList]
      rw [same]

theorem isPart_of_mem_parts {path name : String} (member : name ∈ (PathText.parts path).filter (· != "")) :
    FileSystem.IsPart name := by
  have inside : name ∈ FileSystem.components path := List.mem_append_left _ member
  exact FileSystem.isPart_of_mem_components inside

theorem join_eq {name : String} (steady : Steady before cwd home directory)
    (plain : PathText.isAnchored name = false) :
    PathText.join directory name = directory ++ "/" ++ name := by
  simp [PathText.join, plain, steady.some, steady.plain]

/-- What was admitted may be extracted. -/
theorem awaits_of_isAdmitted (steady : Steady before cwd home directory) (root : home ≠ [])
    (aside : before.LinksStayOutside home) {member : Member} {item : Item} {machine : Machine}
    (down : ".." ∉ PathText.parts member.header.name) (due : IsDue before cwd home member machine)
    (admitted : IsAdmitted machine.files home directory member item) :
    Awaits before cwd home directory ((PathText.parts item.name).filter (· != "")) item machine := by
  have contained := due.contains.contained
  have noStepUp : ".." ∉ (PathText.parts item.name).filter (· != "") := by
    rw [admitted.name, parts_withoutFirstSlashes]
    exact fun within => down (List.mem_filter.1 within).1
  have inside : machine.files.Admitted home ((PathText.parts item.name).filter (· != "")) :=
    fun count goal leads => admitted.inside count goal leads.of_filter
  have confined := FileSystem.Confined.of_admitted inside contained.tree contained.standing root
    (aside.of_contained contained) noStepUp fun name within => isPart_of_mem_parts within
  refine ⟨⟨⟨contained, confined, noStepUp, fun name within => isPart_of_mem_parts within⟩,
    due.contains.cwd⟩, fun existing checked => ?_⟩
  rw [admitted.existing] at checked
  split at checked
  · next hard =>
    cases checked
    refine ⟨item.linkName, join_eq steady (admitted.unanchored hard), admitted.linkInside hard, ?_⟩
    rw [Item.linkName, admitted.same]
    refine due.noLink ?_
    rw [← admitted.same]
    exact hard
  · cases checked

/-- Extracting a member changes nothing outside. -/
theorem meets_extractMember (steady : Steady before cwd home directory) (root : home ≠ [])
    (aside : before.LinksStayOutside home) (solid : HardLinksAreSolid archive) {member : Member}
    (inside : member ∈ archive.members) (down : ".." ∉ PathText.parts member.header.name) :
    Extraction.Meets (IsDue before cwd home member) (extractMember archive directory member)
      (fun _ => Contains before cwd home) (Contains before cwd home) := by
  have admitted : Action.Meets (IsDue before cwd home member) (permit directory member)
      (fun item machine => IsDue before cwd home member machine ∧
        IsAdmitted machine.files home directory member item) (Contains before cwd home) :=
    (meets_permit steady root member fun _ due =>
      ⟨due.contains.contained, due.contains.cwd, due.short⟩).weaken (fun _ due => due)
      (fun _ _ holds => holds) fun _ due => due.contains
  refine (Extraction.meets_lift admitted).bind fun item => ?_
  refine Extraction.Meets.knowing
    (fun machine holds => And.intro holds.2.same holds.2.name) fun ⟨same, name⟩ => ?_
  have below := FileSystem.extends_withoutFinalSlashes steady.plain item.name
  have unanchored : PathText.isAnchored item.name = false := by
    rw [name]
    exact isAnchored_withoutFirstSlashes _
  rw [← join_eq steady unanchored] at below
  have within : item.member ∈ archive.members := by rwa [same]
  have extracted (settled : Bool) : Extraction.Meets
      (fun machine => IsDue before cwd home member machine ∧
        IsAdmitted machine.files home directory member item)
      (extractItem archive (archive.members.length + 2) item (PathText.join directory item.name) settled)
      (fun _ => Contains before cwd home) (Contains before cwd home) :=
    (meets_extractItem steady solid _ within below).weaken
      (fun _ holds => awaits_of_isAdmitted steady root aside down holds.1 holds.2)
      (fun _ _ leaves => leaves.contains) fun _ leaves => leaves.contains
  refine (extracted _).attempt.bind fun result => ?_
  cases result with
  | ok _ => exact Extraction.meets_pure fun _ holds => holds
  | error failure =>
    cases failure with
    | archive fault => cases fault <;>
      first
      | exact Extraction.meets_pure fun _ holds => holds
      | exact Extraction.meets_throw fun _ holds => holds
    | _ => exact Extraction.meets_throw fun _ holds => holds

/-! ### All members, one after the other -/

theorem perform_extractMembers_cons (archive : Archive) (directory : String) (member : Member)
    (rest : List Member) (cursor : Compression.Gzip.Cursor) (machine : Machine) :
    (Action.perform (extractMembers archive directory (member :: rest) cursor) machine).2 =
      match Action.perform (extractMember archive directory member cursor) machine with
      | (.ok (_, further), after) => (Action.perform (extractMembers archive directory rest further) after).2
      | (.error _, after) => after := by
  have opened : extractMembers archive directory (member :: rest) cursor =
      (extractMember archive directory member cursor) >>= fun result =>
        extractMembers archive directory rest result.2 >>= fun others =>
          pure (result.1 :: others.1, others.2) := rfl
  rw [opened, Action.perform_bind]
  generalize Action.perform (extractMember archive directory member cursor) machine = outcome
  rcases outcome with ⟨result, after⟩
  cases result with
  | error failure => rfl
  | ok value =>
    simp only [Action.perform_bind]
    generalize Action.perform (extractMembers archive directory rest value.2) after = others
    rcases others with ⟨result, final⟩
    cases result <;> rfl

/-- The induction is on the members; what is due at each turn is asked of the run up to it. -/
theorem contains_extractMembers (steady : Steady before cwd home directory) (root : home ≠ [])
    (aside : before.LinksStayOutside home) (solid : HardLinksAreSolid archive) {members : List Member}
    (inside : members ⊆ archive.members)
    (down : ∀ member ∈ archive.members, ".." ∉ PathText.parts member.header.name)
    {cursor : Compression.Gzip.Cursor} {machine : Machine}
    (contains : Contains before cwd home machine)
    (fit : ∀ count member, members[count]? = some member →
      IsFit home member (Action.perform
        (extractMembers archive directory (members.take count) cursor) machine).2) :
    Contains before cwd home (Action.perform (extractMembers archive directory members cursor) machine).2 := by
  induction members generalizing cursor machine with
  | nil => exact contains
  | cons member rest ih =>
    have first := fit 0 member rfl
    have within := inside (List.mem_cons_self)
    have extracted := ((meets_extractMember steady root aside solid within (down member within)).ends
      cursor).ends machine ⟨first, contains⟩
    rw [perform_extractMembers_cons]
    have later : ∀ count next, rest[count]? = some next →
        IsFit home next (Action.perform
          (extractMembers archive directory (member :: rest.take count) cursor) machine).2 :=
      fun count next there => fit (count + 1) next there
    simp only [perform_extractMembers_cons] at later
    generalize Action.perform (extractMember archive directory member cursor) machine = outcome
      at extracted later ⊢
    rcases outcome with ⟨result, after⟩
    cases result with
    | error failure => exact extracted
    | ok value =>
      exact ih (fun other there => inside (List.mem_cons_of_mem _ there)) extracted later

theorem keeps_settleDirectories (directory : String) (items : List Item) {kept : Machine → Prop} :
    Action.Keeps kept (settleDirectories directory items) := by
  unfold settleDirectories
  generalize items.mergeSort _ = row
  induction row with
  | nil => exact Action.meets_pure fun _ holds => holds
  | cons item rest ih =>
    refine Action.Meets.bind ?_ fun _ => ih
    refine Action.meets_look fun machine => ?_
    split
    · exact keeps_failIf _
    · exact Action.meets_pure fun _ holds => holds

/-- No member steps up or is a second name of a symbolic link, and all links can be looked up. -/
structure IsMild (archive : Archive) (home : Spot) (directory : String) (machine : Machine) : Prop where
  down : ∀ member ∈ archive.members, ".." ∉ PathText.parts member.header.name
  solid : HardLinksAreSolid archive
  fit : ∀ count member, archive.members[count]? = some member →
    IsFit home member (archive.atTurn directory machine count)

/-- Nothing happens to the machine after the last turn. -/
theorem perform_extract (archive : Archive) (directory : String) (machine : Machine) :
    (Action.perform (archive.extract directory) machine).2 =
      archive.atTurn directory machine archive.members.length := by
  have opened : archive.extract directory =
      extractMembers archive directory archive.members archive.cursor >>= fun result =>
        settleDirectories directory (result.1.filter fun item => item.kind = .directory) := rfl
  rw [atTurn, List.take_length, opened, Action.perform_bind]
  generalize Action.perform (extractMembers archive directory archive.members archive.cursor) machine =
    outcome
  rcases outcome with ⟨result, after⟩
  cases result with
  | error failure => rfl
  | ok value =>
    have settled : Action.Keeps (· = after) (settleDirectories directory _) :=
      keeps_settleDirectories directory (value.1.filter fun item => item.kind = .directory)
    exact settled.always rfl

theorem contains_extract (steady : Steady before cwd home directory) (root : home ≠ [])
    (aside : before.LinksStayOutside home) {machine : Machine}
    (mild : archive.IsMild home directory machine) (contains : Contains before cwd home machine) :
    Contains before cwd home (Action.perform (archive.extract directory) machine).2 := by
  rw [perform_extract, atTurn, List.take_length]
  exact contains_extractMembers steady root aside mild.solid (List.Subset.refl _) mild.down contains mild.fit

end Archive

end Bookbinder
