import Bookbinder.Proofs.Archive.Permissions
import Bookbinder.Proofs.Archive.Reel
import Bookbinder.Proofs.FileSystem.Growth

/-!
Files of an archive as they are extracted. Main statement: each is where its names lead from the directory, with
what it holds and its permission bits limited, and nothing else changes but for the directories on the way.
-/

set_option autoImplicit false

namespace Bookbinder

open FileSystem (under LeadsTo IsSound Fits Brings)

theorem holdsNul_under {base : String} (clean : holdsNul base = false) {names : List String}
    (plain : ∀ name ∈ names, holdsNul name = false) : holdsNul (under base names) = false := by
  have joined : holdsNul ("/".intercalate names) = false := by
    induction names with
    | nil => rfl
    | cons name rest ih =>
      have first := plain name List.mem_cons_self
      cases rest with
      | nil => simpa using first
      | cons next more =>
        have others := ih fun other member => plain other (List.mem_cons_of_mem _ member)
        rw [String.intercalate_cons_cons, holdsNul_append, holdsNul_append, first, others]
        rfl
  rw [under]
  split
  · exact clean
  · exact holdsNul_join clean joined

/-- A directory into which archives can be extracted: it is there, or its last names are yet to be made. Its real
path is where its path leads, also when files have grown. -/
structure FileSystem.IsSite (files : FileSystem) (cwd : WorkingDirectory) (base : String) (home : Spot)
    (lead : List String) : Prop extends LeadsTo files cwd base home where
  valid : IsSpot lead
  clean : holdsNul base = false ∧ ∀ name ∈ home ++ lead, holdsNul name = false
  real : ∀ after, FileSystem.Grows files after → after.IsTree →
    after.realPath cwd (under base lead) = .ok (FileSystem.spotText (home ++ lead))

namespace FileSystem

variable {files : FileSystem} {cwd : WorkingDirectory} {base : String} {home : Spot} {lead : List String}

/-- Every absolute path that leads to a directory is that of a site, whatever links are on its way. -/
theorem isSite_of_anchored (is : IsBase base) (anchored : base.toList.head? = some '/')
    (short : files.LinksAreShort) (located : files.locate cwd true base = .ok (.occupied home))
    (standing : files.isDirectory home = true) (valid : IsSpot lead) (clear : files.IsClear (home ++ lead))
    (clean : holdsNul base = false ∧ ∀ name ∈ home ++ lead, holdsNul name = false) :
    files.IsSite cwd base home lead where
  toIsBase := is
  standing := standing
  located _ grows := grows.locate (.inl anchored) located
  valid := valid
  clean := clean
  real _ grows tree := grows.realPath_under tree short is anchored located (descends_of_isSpot valid) clear

/-- So is every path from the current directory that has no steps up and no link on its way. -/
theorem isSite_of_level (is : IsBase base) (unanchored : PathText.isAnchored base = false)
    (alive : files.isAlive cwd = true) (tree : files.IsTree) (level : ∀ part ∈ PathText.parts base, IsLevel part)
    (located : files.locate cwd true base = .ok (.occupied (cwd.spot ++ downs (PathText.parts base))))
    (standing : files.isDirectory (cwd.spot ++ downs (PathText.parts base)) = true) (valid : IsSpot lead)
    (clear : files.IsClear (cwd.spot ++ downs (PathText.parts base) ++ lead))
    (clean : holdsNul base = false ∧ ∀ name ∈ cwd.spot ++ downs (PathText.parts base) ++ lead, holdsNul name = false) :
    files.IsSite cwd base (cwd.spot ++ downs (PathText.parts base)) lead where
  toIsBase := is
  standing := standing
  located _ grows := grows.locate (.inr alive) located
  valid := valid
  clean := clean
  real after grows _ := by
    have down := descends_of_isSpot valid
    obtain ⟨serial, mode, present⟩ := entryAt?_of_isDirectory standing
    have downHome := tree.leadsDown present
    have downCwd : Descends cwd.spot := downHome.of_prefix (List.prefix_append _ _)
    have still := clear.of_sameLinks grows.sameLinks
    have ends : PathText.endsInSlash base = false := by
      cases ends : PathText.endsInSlash base with
      | false => rfl
      | true => rcases is.root ends with rfl | rfl <;> cases unanchored
    have path : PathText.isAnchored (under base lead) = false := by
      rw [PathText.isAnchored, head?_under is down]
      exact unanchored
    have parts : PathText.parts (under base lead) = PathText.parts base ++ lead := by
      by_cases none : lead = []
      · rw [none, under, if_pos rfl, List.append_nil]
      · rw [under, if_neg none, PathText.join, isAnchored_intercalate none down, if_neg (by simp),
          if_neg (by simp [is.some, ends]), parts_append_slash, parts_intercalate none down]
    have names : downs (PathText.parts base ++ lead) = downs (PathText.parts base) ++ lead := by
      rw [downs, List.filter_append]
      congr 1
      exact List.filter_eq_self.2 fun name member => by simp [(down name member).some, (down name member).notDot]
    have levels : ∀ part ∈ PathText.parts (under base lead), IsLevel part := by
      intro part member
      rw [parts] at member
      exact (List.mem_append.1 member).elim (level part) fun later => .inr (.inr (down part later))
    have whole := realPath_relative (grows.isAlive alive) downCwd path levels
    rw [parts, names, ← List.append_assoc] at whole
    exact whole still

end FileSystem

theorem FileSystem.IsSite.grows {files after : FileSystem} {cwd : WorkingDirectory} {base : String} {home : Spot}
    {lead : List String} (site : files.IsSite cwd base home lead) (grows : FileSystem.Grows files after) :
    after.IsSite cwd base home lead where
  toLeadsTo := site.toLeadsTo.grows grows
  valid := site.valid
  clean := site.clean
  real _ further := site.real _ (grows.trans further)

namespace Archive

open Compression (Gzip.Cursor)

namespace Extraction

variable {α β : Type}

theorem perform_bind_of_ok {extraction : Extraction α} {next : α → Extraction β} {cursor further : Gzip.Cursor}
    {machine after : Machine} {value : α}
    (done : Action.perform (extraction cursor) machine = (.ok (value, further), after)) :
    Action.perform ((extraction >>= next) cursor) machine = Action.perform (next value further) after := by
  have opened : (extraction >>= next) cursor = extraction cursor >>= fun result => next result.1 result.2 := rfl
  rw [opened, Action.perform_bind_of_ok done]

theorem perform_lift_of_ok {action : Action α} {machine after : Machine} {value : α}
    (done : Action.perform action machine = (.ok value, after)) (cursor : Gzip.Cursor) :
    Action.perform ((liftM action : Extraction α) cursor) machine = (.ok (value, cursor), after) :=
  (Action.perform_bind_of_ok done).trans rfl

theorem perform_attempt_of_ok {extraction : Extraction α} {cursor further : Gzip.Cursor} {machine after : Machine}
    {value : α} (done : Action.perform (extraction cursor) machine = (.ok (value, further), after)) :
    Action.perform (attempt extraction cursor) machine = (.ok (.ok value, further), after) := by
  have attempted := Action.perform_attempt (extraction cursor) machine
  rw [done] at attempted
  rw [attempt, Action.perform_bind_of_ok attempted]
  rfl

end Extraction

/-- What is left of a file: all that it holds, and the permission bits that are admitted. -/
def Packed.content (file : Packed) : Content := ⟨file.bytes, fileMode (permissionBits file.mode)⟩

/-- A member as it is admitted that is a file. -/
def Packed.item (file : Packed) (member : Member) : Item where
  member := member
  name := file.name
  mode := some (fileMode (permissionBits file.mode))
  owner := none
  existing := none

/-- A file whose path is short enough, with names that can stand in a spot. -/
structure Packed.Suits (file : Packed) (base : String) (lead : List String) : Prop where
  some : file.names ≠ []
  valid : IsSpot file.names
  clean : ∀ name ∈ file.names, holdsNul name = false
  short : (under base (lead ++ file.names)).utf8ByteSize < FileSystem.pathLimit

section

variable {archive : Archive} {file : Packed} {member : Member} {machine : Machine} {base : String} {home : Spot}
  {lead : List String} {cursor : Gzip.Cursor}

theorem Packed.Suits.spot (suits : file.Suits base lead) (valid : IsSpot lead) : IsSpot (lead ++ file.names) := by
  intro name member
  rcases List.mem_append.1 member with early | late
  · exact valid name early
  · exact suits.valid name late

/-- The real path of a file is inside the directory. -/
theorem perform_requireInside (site : machine.files.IsSite machine.cwd base home lead) (tree : machine.files.IsTree)
    (suits : file.Suits base lead) (clear : machine.files.IsClear (home ++ lead ++ file.names)) (fault : String → Fault) :
    Action.perform (requireInside (FileSystem.spotText (home ++ lead))
      (PathText.join (FileSystem.spotText (home ++ lead)) file.name) fault) machine = (.ok (), machine) := by
  obtain ⟨serial, mode, present⟩ := FileSystem.entryAt?_of_isDirectory site.standing
  have downHome := tree.leadsDown present
  have downLead := FileSystem.descends_of_isSpot site.valid
  have downFile := FileSystem.descends_of_isSpot suits.valid
  have downSpot : FileSystem.Descends (home ++ lead) := by
    intro name member
    exact (List.mem_append.1 member).elim (downHome name) (downLead name)
  have down : FileSystem.Descends (home ++ lead ++ file.names) := by
    intro name member
    exact (List.mem_append.1 member).elim (downSpot name) (downFile name)
  have path : PathText.join (FileSystem.spotText (home ++ lead)) file.name =
      FileSystem.spotText (home ++ lead ++ file.names) := by
    rw [← FileSystem.under_slash downSpot, Packed.name, FileSystem.join_under FileSystem.isBase_slash suits.some down,
      FileSystem.under_slash down]
  have clean : holdsNul (FileSystem.spotText (home ++ lead ++ file.names)) = false := by
    rw [← FileSystem.under_slash down]
    refine holdsNul_under (by decide) fun name member => ?_
    exact (List.mem_append.1 member).elim (site.clean.2 name) (suits.clean name)
  have real := FileSystem.realPath_spotText tree machine.cwd (by simp [suits.some]) clear down
  rw [path, requireInside, Action.perform_bind_of_ok (Action.perform_realPath clean real),
    (FileSystem.leadsInto_spotText_iff downSpot down).2 (List.prefix_append _ _)]
  rfl

theorem withoutFirstSlashes_of_not_isAnchored {name : String} (plain : PathText.isAnchored name = false) :
    withoutFirstSlashes name = name := by
  rw [← String.toList_inj, withoutFirstSlashes, String.toList_ofList]
  cases chars : name.toList with
  | nil => rfl
  | cons c rest =>
    have first : c ≠ '/' := by simpa [PathText.isAnchored, chars] using plain
    exact List.dropWhile_cons_of_neg (by simpa using first)

theorem perform_permit (site : machine.files.IsSite machine.cwd base home lead) (tree : machine.files.IsTree)
    (suits : file.Suits base lead) {dataStart : Nat}
    (told : member.IsAs file.mode ⟨Option.some file.name, Option.some file.bytes.length⟩ dataStart)
    (clear : machine.files.IsClear (home ++ lead ++ file.names)) :
    Action.perform (permit (under base lead) member) machine = (.ok (file.item member), machine) := by
  have named := told.name _ rfl
  have cleanRoot : holdsNul (under base lead) = false :=
    holdsNul_under site.clean.1 fun name member => site.clean.2 name (List.mem_append_right _ member)
  have real := site.real _ (.refl _) tree
  have unanchored := FileSystem.isAnchored_intercalate suits.some (FileSystem.descends_of_isSpot suits.valid)
  have name : withoutFirstSlashes member.header.name = file.name := by
    rw [named]
    exact withoutFirstSlashes_of_not_isAnchored unanchored
  have mode : admittedMode member.header = .ok (some (fileMode (permissionBits file.mode))) := by
    rw [admittedMode, told.kind, told.mode]
  have noLink : requireLinkInside (FileSystem.spotText (home ++ lead)) file.name member.header = pure () := by
    rw [requireLinkInside, told.kind]
    rfl
  rw [permit, Action.perform_bind_of_ok (Action.perform_realPath cleanRoot real)]
  simp only [name]
  rw [Action.perform_bind_of_ok (perform_requireInside site tree suits clear _), mode, noLink, told.kind]
  rfl

theorem perform_provideParent (leads : machine.files.LeadsTo machine.cwd base home) (tree : machine.files.IsTree)
    {above : List String} {name : String} (spot : IsSpot (above ++ [name]))
    (short : (under base (above ++ [name])).utf8ByteSize < FileSystem.pathLimit)
    (clean : holdsNul (under base above) = false) (free : machine.files.IsOpen home above) :
    ∃ between, Action.perform (provideParent (under base (above ++ [name]))) machine =
        (.ok (), { machine with files := between }) ∧ machine.files.Raises (home ++ above) between := by
  have down := FileSystem.descends_of_isSpot spot
  have parent : PathText.parent (under base (above ++ [name])) = under base above := by
    rw [PathText.parent, FileSystem.split_under leads.toIsBase down]
  have spotAbove : IsSpot above := fun part member => spot part (List.mem_append_left _ member)
  have downAbove := FileSystem.descends_of_isSpot spotAbove
  have shortAbove := Nat.lt_of_le_of_lt (FileSystem.size_under_le leads.toIsBase down) short
  have somewhere := leads.leadsSomewhere tree spotAbove shortAbove free
  have opened : Action.perform (provideParent (under base (above ++ [name]))) machine =
      Action.perform (if !machine.files.isDirectory (home ++ above) then
        Action.provideDirectory (under base above) else pure ()) machine := by
    rw [provideParent, Action.perform_bind_of_ok (Action.perform_get machine), parent, somewhere]
    simp only [ne_eq, FileSystem.under_ne_empty leads.toIsBase downAbove, not_false_eq_true, true_and]
  rw [opened]
  cases standing : machine.files.isDirectory (home ++ above) with
  | true => exact ⟨machine.files, rfl, .refl tree standing⟩
  | false =>
    have enough : above.length ≤ (under base above).length + 1 :=
      Nat.le_succ_of_le (FileSystem.length_le_under leads.toIsBase downAbove)
    obtain ⟨between, made, raises⟩ := leads.makeDirectories tree spotAbove shortAbove free standing enough
    exact ⟨between, Action.perform_provideDirectory clean made, raises⟩

/-- The data of a file are written to its path. -/
theorem perform_writeData (keeps : member.Keeps archive.stream file) (finished : archive.stream.ending = .finished)
    {target : String} (clean : holdsNul target = false) {written : FileSystem}
    (writes : machine.files.writeFile machine.cwd target (fun _ => file.bytes) = .ok written) :
    ∃ further, Action.perform (writeData archive member target cursor) machine =
      (.ok ((), further), { machine with files := written }) := by
  obtain ⟨start, further, sought, copied⟩ := keeps.copied finished cursor
  have changed : Action.perform (Action.change target fun files cwd => files.writeFile cwd target fun _ =>
      (copyData archive.stream member.header start).bytes) machine = (.ok (), { machine with files := written }) :=
    Action.perform_change clean (by rw [copied]; exact writes)
  rw [copied] at changed
  have fetched : Action.perform ((liftM (liftFault (.ok start)) : Extraction Gzip.Cursor) cursor) machine =
      (.ok (start, cursor), machine) := rfl
  refine ⟨further, ?_⟩
  rw [writeData, Extraction.perform_bind_of_ok rfl, sought, Extraction.perform_bind_of_ok fetched]
  simp only [copied]
  rw [Extraction.perform_bind_of_ok rfl, Extraction.perform_bind_of_ok (Extraction.perform_lift_of_ok changed _)]
  rfl

/-- What was written is given its permission bits. -/
theorem perform_settle (told : member.header.time.fault? = none) (kind : member.header.kind = .file) {target : String}
    (clean : holdsNul target = false) (there : machine.files.leadsSomewhere machine.cwd target = true)
    {after : FileSystem}
    (given : machine.files.setMode machine.cwd target (fileMode (permissionBits file.mode)) = .ok after) :
    Action.perform (settle (file.item member) target) machine = (.ok (), { machine with files := after }) := by
  have isFile : (file.item member).kind = .file := kind
  have small := fileMode_lt (permissionBits file.mode)
  have fits : ¬ ((fileMode (permissionBits file.mode) : Int) < -modeLimit ∨
      modeLimit ≤ (fileMode (permissionBits file.mode) : Int)) := by
    simp only [modeLimit]
    omega
  have set : Action.perform (setPermissions target (fileMode (permissionBits file.mode))) machine =
      (.ok (), { machine with files := after }) := by
    rw [setPermissions, if_neg fits, permissionBits_fileMode]
    exact Action.perform_change clean given
  have owned : Action.perform (failIf ((file.item member).owner.bind Owner.fault?)) machine = (.ok (), machine) := rfl
  have timed : (file.item member).member.header.time.fault? = none := told
  rw [settle, Action.perform_bind_of_ok owned, Action.perform_bind_of_ok (Action.perform_get machine), isFile]
  simp only [there, timed]
  exact (Action.perform_bind_of_ok set).trans rfl

/-- A file is extracted to its path, with the directories that are missing on the way to it. -/
theorem perform_extractItem (site : machine.files.IsSite machine.cwd base home lead) (sound : machine.files.IsSound)
    (suits : file.Suits base lead) (keeps : member.Keeps archive.stream file)
    (finished : archive.stream.ending = .finished) (fits : machine.files.Fits [home ++ lead ++ file.names])
    (depth : Nat) :
    ∃ further after, Action.perform (extractItem archive (depth + 1) (file.item member)
        (PathText.join (under base lead) file.name) true cursor) machine =
          (.ok ((), further), { machine with files := after }) ∧
      Brings [(home ++ lead ++ file.names, file.content)] machine.files after := by
  have spot := suits.spot site.valid
  have down := FileSystem.descends_of_isSpot spot
  have joined : PathText.join (under base lead) file.name = under base (lead ++ file.names) :=
    FileSystem.join_under site.toIsBase suits.some down
  have short := suits.short
  have plain (name : String) (member : name ∈ lead ++ file.names) : holdsNul name = false :=
    (List.mem_append.1 member).elim (fun early => site.clean.2 name (List.mem_append_right _ early)) (suits.clean name)
  rw [joined]
  rw [List.append_assoc] at fits ⊢
  have long : lead ++ file.names ≠ [] := by simp [suits.some]
  generalize lead ++ file.names = names at spot down short plain fits long ⊢
  obtain ⟨above, name, rfl⟩ : ∃ above name, names = above ++ [name] :=
    ⟨_, _, (List.dropLast_append_getLast long).symm⟩
  have trimmed := FileSystem.withoutFinalSlashes_of_not_endsInSlash (FileSystem.endsInSlash_under site.toIsBase long down)
  have cleanAbove := holdsNul_under site.clean.1 fun part member => plain part (List.mem_append_left _ member)
  have clean := holdsNul_under site.clean.1 plain
  have free : machine.files.IsOpen home above := by
    intro place within
    refine fits.above _ List.mem_cons_self _ ((List.prefix_append_right_inj home).2 (within.trans ⟨[name], rfl⟩)) ?_
    intro same
    have length := within.length_le
    rw [List.append_cancel_left same, List.length_append, List.length_singleton] at length
    omega
  obtain ⟨between, provided, raises⟩ := perform_provideParent site.toLeadsTo sound.tree spot short cleanAbove free
  rw [← List.append_assoc] at fits
  have still : between.entryAt? (home ++ above ++ [name]) = machine.files.entryAt? (home ++ above ++ [name]) := by
    refine (raises.made _).resolve_right fun made => ?_
    have length := made.1.length_le
    rw [List.length_append, List.length_singleton] at length
    omega
  have room : between.entryAt? (home ++ above ++ [name]) = none ∨
      ∃ number, between.entryAt? (home ++ above ++ [name]) = some (.file number) := by
    rw [still]
    exact fits.free _ List.mem_cons_self
  obtain ⟨written, after, writes, there, given, stores⟩ := (site.toLeadsTo.grows raises.grows).store
    (sound.of_raises raises) spot short raises.standing room file.bytes (fileMode (permissionBits file.mode))
  have wrote : ∃ further, Action.perform (writeData archive member (under base (above ++ [name])) cursor)
      { machine with files := between } = (.ok ((), further), { machine with files := written }) :=
    perform_writeData keeps finished clean writes
  obtain ⟨further, wrote⟩ := wrote
  have settled : Action.perform (settle (file.item member) (under base (above ++ [name])))
      { machine with files := written } = (.ok (), { machine with files := after }) :=
    @perform_settle file member { machine with files := written } keeps.told.time keeps.told.kind _ clean there _ given
  have placed : place archive (extractItem archive depth) (file.item member) (under base (above ++ [name])) =
      writeData archive member (under base (above ++ [name])) := by
    have kind : (file.item member).kind = .file := keeps.told.kind
    rw [place, kind]
    rfl
  refine ⟨further, after, ?_, ?_⟩
  · rw [extractItem_succ, trimmed, Extraction.perform_bind_of_ok (Extraction.perform_lift_of_ok provided cursor),
      placeSettled, placed, Extraction.perform_bind_of_ok wrote, if_pos rfl]
    exact Extraction.perform_lift_of_ok settled further
  · rw [← List.append_assoc]
    exact FileSystem.brings_single sound (fits.alone _ List.mem_cons_self) raises stores

/-- A member that is a file is extracted if there is room for it. -/
theorem perform_extractMember (site : machine.files.IsSite machine.cwd base home lead) (sound : machine.files.IsSound)
    (suits : file.Suits base lead) (keeps : member.Keeps archive.stream file)
    (finished : archive.stream.ending = .finished) (fits : machine.files.Fits [home ++ lead ++ file.names]) :
    ∃ further after, Action.perform (extractMember archive (under base lead) member cursor) machine =
        (.ok (file.item member, further), { machine with files := after }) ∧
      Brings [(home ++ lead ++ file.names, file.content)] machine.files after := by
  have clear : machine.files.IsClear (home ++ lead ++ file.names) := by
    intro place within target link
    rw [FileSystem.signAt?_eq_link_iff] at link
    by_cases same : place = home ++ lead ++ file.names
    · rw [same] at link
      rcases fits.free _ List.mem_cons_self with absent | ⟨number, present⟩
      · rw [link] at absent
        cases absent
      · rw [link] at present
        cases present
    · rcases fits.above _ List.mem_cons_self place within same with absent | directory
      · rw [link] at absent
        cases absent
      · obtain ⟨serial, mode, present⟩ := FileSystem.entryAt?_of_isDirectory directory
        rw [link] at present
        cases present
  obtain ⟨further, after, extracted, brings⟩ :=
    @perform_extractItem archive file member machine base home lead cursor site sound suits keeps finished fits
      (archive.members.length + 1)
  refine ⟨further, after, ?_, brings⟩
  have permitted := perform_permit site sound.tree suits keeps.told clear
  have settled : decide ((file.item member).kind ≠ .directory) = true := by
    have kind : (file.item member).kind = .file := keeps.told.kind
    rw [kind]
    rfl
  rw [extractMember, Extraction.perform_bind_of_ok (Extraction.perform_lift_of_ok permitted cursor)]
  simp only [settled]
  have attempted : Action.perform (Extraction.attempt (extractItem archive (archive.members.length + 2) (file.item member)
      (PathText.join (under base lead) (file.item member).name) true) cursor) machine =
        (.ok (.ok (), further), { machine with files := after }) := Extraction.perform_attempt_of_ok extracted
  rw [Extraction.perform_bind_of_ok attempted]
  rfl

/-- The files are extracted one after the other. The induction is on them: what was extracted leaves room for
those that are apart from it. -/
theorem perform_extractMembers {files : List Packed} {members : List Member}
    (keeps : List.Forall₂ (Member.Keeps archive.stream) files members)
    (site : machine.files.IsSite machine.cwd base home lead) (sound : machine.files.IsSound)
    (suits : ∀ file ∈ files, file.Suits base lead) (finished : archive.stream.ending = .finished)
    (fits : machine.files.Fits (files.map fun file => home ++ lead ++ file.names)) :
    ∃ items further after, Action.perform (extractMembers archive (under base lead) members cursor) machine =
        (.ok (items, further), { machine with files := after }) ∧ (∀ item ∈ items, item.kind = .file) ∧
      Brings (files.map fun file => (home ++ lead ++ file.names, file.content)) machine.files after := by
  induction keeps generalizing machine cursor with
  | nil =>
    refine ⟨[], cursor, machine.files, ?_, fun _ member => absurd member List.not_mem_nil, .nil sound⟩
    rw [extractMembers]
    exact Action.perform_pure ([], cursor) machine
  | @cons file member files members first rest ih =>
    rw [List.map_cons] at fits
    obtain ⟨alone, others, apart⟩ := fits.of_cons
    obtain ⟨further, between, extracted, brings⟩ := @perform_extractMember archive file member machine base home lead cursor
      site sound (suits file List.mem_cons_self) first finished alone
    have room : between.Fits (files.map fun file => home ++ lead ++ file.names) :=
      brings.fits sound others fun pair single spot among => by
        cases List.mem_singleton.1 single
        exact apart spot among
    obtain ⟨items, last, after, onward, kinds, more⟩ :=
      @ih { machine with files := between } further (site.grows brings.grows) brings.sound
        (fun file among => suits file (List.mem_cons_of_mem _ among)) room
    refine ⟨file.item member :: items, last, after, ?_, ?_, ?_⟩
    · rw [extractMembers, Extraction.perform_bind_of_ok extracted, Extraction.perform_bind_of_ok onward]
      rfl
    · intro item among
      rcases List.mem_cons.1 among with rfl | later
      · exact first.told.kind
      · exact kinds item later
    · refine brings.append more fun pair single other among => ?_
      cases List.mem_singleton.1 single
      obtain ⟨next, member, rfl⟩ := List.mem_map.1 among
      exact (apart _ (List.mem_map.2 ⟨next, member, rfl⟩)).1

/-- All files of an archive are extracted, and no directory is left whose time is to be set. -/
theorem perform_extract_files {files : List Packed}
    (keeps : List.Forall₂ (Member.Keeps archive.stream) files archive.members)
    (site : machine.files.IsSite machine.cwd base home lead) (sound : machine.files.IsSound)
    (suits : ∀ file ∈ files, file.Suits base lead) (finished : archive.stream.ending = .finished)
    (fits : machine.files.Fits (files.map fun file => home ++ lead ++ file.names)) :
    ∃ after, Action.perform (archive.extract (under base lead)) machine = (.ok (), { machine with files := after }) ∧
      Brings (files.map fun file => (home ++ lead ++ file.names, file.content)) machine.files after := by
  obtain ⟨items, further, after, extracted, kinds, brings⟩ :=
    @perform_extractMembers archive machine base home lead archive.cursor files archive.members keeps site sound suits
      finished fits
  refine ⟨after, ?_, brings⟩
  have none : items.filter (fun item => item.kind = .directory) = [] := by
    rw [List.filter_eq_nil_iff]
    intro item member
    rw [kinds item member]
    decide
  rw [extract, StateT.run, Action.perform_bind_of_ok extracted]
  simp only [none]
  rw [settleDirectories, List.mergeSort_nil]
  rfl

end

end Archive

end Bookbinder
