import Bookbinder.Proofs.FileSystem.Below
import Bookbinder.Proofs.FileSystem.Containment
import Bookbinder.Proofs.FileSystem.Resolution
import Bookbinder.Proofs.FileSystem.Writing

/-!
Operations on paths below a directory. Main statement: as long as the names of a path stay in the
directory, no operation on the path changes anything outside, and its names still stay there.
-/

set_option autoImplicit false

namespace Bookbinder.FileSystem

/-- A path that leads to a place, whatever the place comes to hold. -/
structure LeadsHome (before : FileSystem) (cwd : WorkingDirectory) (home : Spot) (path : String) :
    Prop where
  located : ∀ files, Contained before home files → ∀ follow,
    files.locate cwd follow path = .ok (.occupied home)
  real : ∀ files, Contained before home files → files.realPath cwd path = .ok (spotText home)

/-- The path of a directory that no link is on the way to leads there in any case. -/
theorem leadsHome_ofSpot (before : FileSystem) (cwd : WorkingDirectory) {home : Spot} (down : Descends home)
    (root : home ≠ []) (short : (spotText home).utf8ByteSize < pathLimit) :
    LeadsHome before cwd home (Path.ofSpot home).text := by
  rw [Path.text_ofSpot fun name member => (down name member).isName]
  constructor
  · intro files contained follow
    obtain ⟨serial, mode, present⟩ := entryAt?_of_isDirectory contained.standing
    have above (place : Spot) (before : place <+: home) : files.isDirectory place = true := by
      by_cases same : place = home
      · rw [same]
        exact contained.standing
      · exact contained.tree.isDirectory_of_prefix present before same
    have arrived := walk_of_directories follow [] (contained.tree.isSpot present) above
    rw [locate_spotText cwd follow down root short, walkOn_of_arrived mostLinks arrived, List.nil_append]
  · intro files contained
    exact realPath_spotText contained.tree cwd root (contained.tree.isClear contained.standing) down

/-- Such a path, and it is not that of the root. -/
structure Steady (before : FileSystem) (cwd : WorkingDirectory) (home : Spot) (path : String) : Prop
    extends LeadsHome before cwd home path where
  some : path ≠ ""
  plain : PathText.endsInSlash path = false

/-- Nothing but a place has changed, and names without steps up stay in that place. -/
structure Ready (before : FileSystem) (home : Spot) (names : List String) (files : FileSystem) : Prop where
  contained : Contained before home files
  confined : files.Confined home names
  down : ".." ∉ names
  parts : ∀ name ∈ names, IsPart name

/-- No link was made or taken away. -/
def SameLinks (files after : FileSystem) : Prop :=
  ∀ spot target, after.signAt? spot = some (.link target) ↔ files.signAt? spot = some (.link target)

theorem SameLinks.refl (files : FileSystem) : SameLinks files files := fun _ _ => Iff.rfl

theorem SameLinks.trans {files middle after : FileSystem} (first : SameLinks files middle)
    (second : SameLinks middle after) : SameLinks files after :=
  fun spot target => (second spot target).trans (first spot target)

theorem Gains.sameLinks {files after : FileSystem} {spot : Spot} {entry : Entry}
    (gains : Gains files after spot entry) (plain : ∀ target, entry ≠ .symlink target) :
    SameLinks files after := by
  intro other target
  rw [signAt?_eq_link_iff, signAt?_eq_link_iff, gains.entryAt?]
  split
  · next here =>
    rw [← here, gains.vacant]
    simp [plain target]
  · rfl

theorem gains_putEntry {files : FileSystem} {spot : Spot} (vacant : files.entryAt? spot = none)
    (entry : Entry) : Gains files (files.putEntry spot entry) spot entry :=
  ⟨vacant, fun other => entryAt?_putEntry files spot other entry⟩

theorem splitDirectory_of_tail {path : String} (tail : (PathText.split path).2 ≠ "") :
    splitDirectory path = PathText.split path := by
  unfold splitDirectory
  split
  · next head same =>
    rw [same] at tail
    exact absurd rfl tail
  · rfl

theorem locate_of_makeSymlink {files after : FileSystem} {cwd : WorkingDirectory} {target path : String}
    (made : files.makeSymlink cwd target path = .ok after) :
    ∃ above name, files.locate cwd false path = .ok (.vacant above name) ∧
      after = files.putEntry (above ++ [name]) (.symlink target) := by
  by_cases empty : target = ""
  · simp only [makeSymlink, empty, if_true] at made
    cases made
  by_cases long : target.utf8ByteSize ≥ pathLimit
  · simp only [makeSymlink, empty, long, if_true, if_false] at made
    cases made
  simp only [makeSymlink, empty, long, if_false] at made
  cases located : files.locate cwd false path with
  | error errno => simp only [located] at made; cases made
  | ok location =>
    simp only [located] at made
    cases location with
    | vacant above name =>
      cases made
      exact ⟨above, name, rfl, rfl⟩
    | _ => cases made

/-! ### What a second name may be given to -/

/-- A path, seen from a directory with links before its last name followed, is that of a link. -/
def NamesLink (files : FileSystem) (directory : Spot) (path : String) : Prop :=
  ∃ first name target middle count, components path = first ++ [name] ∧
    Leads files anywhere count directory first middle ∧
    files.signAt? (middle ++ [name]) = some (.link target)

theorem NamesLink.of_sameLinks {files after : FileSystem} {directory : Spot} {path : String}
    (same : SameLinks files after) (names : after.NamesLink directory path) :
    files.NamesLink directory path := by
  obtain ⟨first, name, target, middle, count, components, leads, link⟩ := names
  exact ⟨first, name, target, middle, count, components,
    leads.mono (fun _ _ => trivial) fun spot target _ => (same spot target).symm,
    (same _ target).1 link⟩

theorem Admitted.of_sameLinks {files after : FileSystem} {home : Spot} {names : List String}
    (same : SameLinks files after) (admitted : files.Admitted home names) :
    after.Admitted home names :=
  fun count goal leads => admitted count goal
    (leads.mono (fun _ _ => trivial) fun spot target _ => (same spot target).symm)

/-- What a path names that leads into a place and is not that of a link. -/
theorem own_of_locate {before files : FileSystem} {cwd : WorkingDirectory} {home spot : Spot}
    {directory path : String} (contained : Contained before home files)
    (steady : Steady before cwd home directory)
    (admitted : files.Admitted home (PathText.parts path)) (noLink : ¬ files.NamesLink home path)
    (located : files.locate cwd false (directory ++ "/" ++ path) = .ok (.occupied spot)) :
    home <+: spot ∧ ∀ target, files.signAt? spot ≠ some (.link target) := by
  obtain ⟨budget, walked⟩ := locate_below steady.some steady.plain
    (steady.located files contained true) located
  rcases leads_of_walkOn_nofollow (fun name member => isPart_of_mem_below member) walked with
    ⟨count, leads⟩ | ⟨first, name, target, middle, count, names, down, leads, rfl, link⟩
  · have clear := contained.tree.isClear contained.standing
    exact ⟨admitted count spot (leads_of_below leads), (leads.isClear clear) spot (List.prefix_refl spot)⟩
  · refine absurd ⟨first, name, target, middle, count, ?_, leads, link⟩ noLink
    by_cases empty : path = ""
    · have single : first ++ [name] = [] ++ ["."] := by rw [← names, empty]; decide
      obtain ⟨_, same⟩ := List.append_inj' single rfl
      exact absurd (List.cons.inj same).1 down.notDot
    · rw [← names, below_eq_components empty]

namespace Ready

variable {before files after : FileSystem} {cwd : WorkingDirectory} {home : Spot} {directory : String}
  {names part : List String} {path : String}

/-- A path below the directory leads where its names lead from there. -/
theorem located (ready : Ready before home names files) (steady : Steady before cwd home directory)
    (below : Extends directory part path) {follow : Bool} {location : Location}
    (located : files.locate cwd follow path = .ok location) :
    ∃ budget, files.walkOn follow budget home part = .ok location :=
  below.locate steady.some steady.plain (steady.located files ready.contained) located

theorem vacancy (ready : Ready before home names files) (first : part <+: names) {follow : Bool}
    {budget : Nat} {above : Spot} {name : String}
    (walked : files.walkOn follow budget home part = .ok (.vacant above name)) :
    files.Vacancy above name :=
  walkOn_vacant (fun name member => ready.parts name (first.subset member)) walked

/-- Something that is no link is made where the first of the names lead. -/
theorem of_gains (ready : Ready before home names files) {above : Spot} {name : String}
    {entry : Entry} (gains : Gains files after (above ++ [name]) entry)
    (plain : ∀ target, entry ≠ .symlink target) {follow : Bool} {budget : Nat} (first : part <+: names)
    (walked : files.walkOn follow budget home part = .ok (.vacant above name))
    (contents : ∀ number, number < files.next → after.content? number = files.content? number)
    (next : files.next ≤ after.next)
    (own : ∀ number, entry = .file number → number = files.next ∨
      ∃ spot, home <+: spot ∧ files.entryAt? spot = some (.file number)) :
    Ready before home names after where
  contained := ready.contained.of_gains gains (ready.vacancy first walked)
    (ready.confined.vacant first walked) contents next own
  confined :=
    ready.confined.of_gains ready.contained.tree gains plain ready.down first walked
  down := ready.down
  parts := ready.parts

theorem makeDirectory (ready : Ready before home names files)
    (steady : Steady before cwd home directory) (below : Extends directory part path)
    (first : part <+: names) {mode : Nat} (made : files.makeDirectory cwd path mode = .ok after) :
    Ready before home names after ∧ SameLinks files after := by
  rw [FileSystem.makeDirectory, below.directoryPath_eq steady.some steady.plain] at made
  cases located : files.locate cwd false path with
  | error errno => rw [located] at made; cases made
  | ok location =>
    rw [located] at made
    cases location with
    | occupied => cases made
    | gone => cases made
    | vacant above name =>
      cases made
      obtain ⟨budget, walked⟩ := ready.located steady below located
      have gains : Gains files (files.addDirectory (above ++ [name]) mode) (above ++ [name])
          (.directory files.next mode) :=
        ⟨(ready.vacancy first walked).absent, fun other => entryAt?_putEntry files _ other _⟩
      exact ⟨ready.of_gains gains (by simp) first walked (fun _ _ => rfl) (Nat.le_succ files.next)
        (by simp), gains.sameLinks (by simp)⟩

theorem provideLast (ready : Ready before home names files)
    (steady : Steady before cwd home directory) (below : Extends directory part path)
    (first : part <+: names) :
    Ready before home names (files.provideLast cwd path).1 ∧
      SameLinks files (files.provideLast cwd path).1 := by
  unfold FileSystem.provideLast
  split
  · next made => exact ready.makeDirectory steady below first made
  · split <;> exact ⟨ready, .refl files⟩

/-- Directories that are missing on the way are made in the place. -/
theorem makeDirectories (ready : Ready before home names files)
    (steady : Steady before cwd home directory) (below : Extends directory part path)
    (deeper : part ≠ []) (first : part <+: names) (depth : Nat) :
    Ready before home names (files.makeDirectories cwd depth path).1 ∧
      SameLinks files (files.makeDirectories cwd depth path).1 := by
  induction depth generalizing part path with
  | zero => exact ⟨ready, .refl files⟩
  | succ depth ih =>
    obtain ⟨shorter, tail⟩ := below.split deeper steady.some steady.plain
    have last {after : FileSystem} (between : Ready before home names after ∧ SameLinks files after) :
        Ready before home names (after.provideLast cwd path).1 ∧
          SameLinks files (after.provideLast cwd path).1 := by
      obtain ⟨made, same⟩ := between.1.provideLast steady below first
      exact ⟨made, between.2.trans same⟩
    rw [FileSystem.makeDirectories, splitDirectory_of_tail tail]
    cases halves : PathText.split path with
    | mk head tail =>
      rw [halves] at shorter
      simp only at shorter ⊢
      split
      · exact last ⟨ready, .refl files⟩
      · next missing =>
        have higher : part.dropLast ≠ [] := by
          intro none
          rw [none] at shorter
          refine missing (.inr (.inr ?_))
          rw [shorter.eq_of_nil]
          exact leadsSomewhere_of_locate (steady.located files ready.contained true)
            ready.contained.standing
        have above := ih shorter higher ((List.dropLast_prefix part).trans first)
        split
        · next result =>
          rw [result] at above
          split
          · exact above
          · split
            · exact above
            · exact last above
        · next result =>
          rw [result] at above
          split
          · exact above
          · exact last above

/-- A change of what can be seen of one thing in the place leaves all signs as they are. -/
theorem congr (ready : Ready before home names files) (contained : Contained before home after)
    (same : ∀ spot, after.signAt? spot = files.signAt? spot) : Ready before home names after where
  contained := contained
  confined := ready.confined.congr same
  down := ready.down
  parts := ready.parts

theorem writeFile (ready : Ready before home names files) (steady : Steady before cwd home directory)
    (below : Extends directory names path) {change : Text.Bytes → Text.Bytes}
    (written : files.writeFile cwd path change = .ok after) : Ready before home names after := by
  rw [FileSystem.writeFile] at written
  cases located : files.locate cwd true path with
  | error errno => rw [located] at written; cases written
  | ok location =>
    rw [located] at written
    obtain ⟨budget, walked⟩ := ready.located steady below located
    cases location with
    | gone => cases written
    | vacant above name =>
      cases written
      have first := List.prefix_refl names
      have gains := gains_addFile files (above ++ [name]) ⟨change [], fileMode⟩
        (ready.vacancy first walked).absent
      refine ready.of_gains gains (by simp) first walked (fun number old => ?_)
        (Nat.le_succ files.next) (fun number same => .inl ?_)
      · have kept := content?_putContent files files.next number ⟨change [], fileMode⟩
        rwa [if_neg (Nat.ne_of_gt old)] at kept
      · cases same
        rfl
    | occupied spot =>
      have inside := ready.confined.occupied walked
      simp only [bind, Except.bind] at written
      split at written
      · next number present =>
        split at written
        · next content held =>
          cases written
          exact ready.congr (ready.contained.putContent inside present _) fun _ => rfl
        · cases written
      · cases written
      · cases written
        exact ready

theorem setMode (ready : Ready before home names files) (steady : Steady before cwd home directory)
    (below : Extends directory names path) {mode : Nat}
    (changed : files.setMode cwd path mode = .ok after) : Ready before home names after := by
  rw [FileSystem.setMode] at changed
  cases located : files.locate cwd true path with
  | error errno => rw [located] at changed; cases changed
  | ok location =>
    rw [located] at changed
    obtain ⟨budget, walked⟩ := ready.located steady below located
    cases location with
    | gone => cases changed; exact ready
    | vacant above name => cases changed
    | occupied spot =>
      have inside := ready.confined.occupied walked
      simp only [bind, Except.bind] at changed
      split at changed
      · next number present =>
        split at changed
        · next content held =>
          cases changed
          exact ready.congr (ready.contained.putContent inside present _) fun _ => rfl
        · cases changed
      · next serial old present =>
        cases changed
        exact ready.congr (ready.contained.putMode inside present mode) (signAt?_putMode present mode)
      · cases changed
        exact ready

theorem unlink (ready : Ready before home names files) (steady : Steady before cwd home directory)
    (below : Extends directory names path) (removed : files.unlink cwd path = .ok after) :
    Ready before home names after := by
  rw [FileSystem.unlink] at removed
  cases located : files.locate cwd false path with
  | error errno => rw [located] at removed; cases removed
  | ok location =>
    rw [located] at removed
    obtain ⟨budget, walked⟩ := ready.located steady below located
    cases location with
    | gone => cases removed
    | vacant above name => cases removed
    | occupied spot =>
      have inside := ready.confined.occupied walked
      simp only [bind, Except.bind] at removed
      split at removed
      · cases removed
      · next notDirectory =>
        cases removed
        have loses : Loses files (files.removeEntry spot) spot := ⟨entryAt?_removeEntry files spot⟩
        exact ⟨ready.contained.removeEntry inside (by simpa using notDirectory),
          ready.confined.of_loses loses inside, ready.down, ready.parts⟩

/-- After a link was made the names may lead anywhere, but nothing outside has changed. -/
theorem makeSymlink (ready : Ready before home names files) (steady : Steady before cwd home directory)
    (below : Extends directory names path) {target : String}
    (made : files.makeSymlink cwd target path = .ok after) : Contained before home after := by
  obtain ⟨above, name, located, rfl⟩ := locate_of_makeSymlink made
  obtain ⟨budget, walked⟩ := ready.located steady below located
  have first := List.prefix_refl names
  have vacancy := ready.vacancy first walked
  exact ready.contained.of_gains (gains_putEntry vacancy.absent (.symlink target)) vacancy
    (ready.confined.vacant first walked) (fun _ _ => rfl) (Nat.le_refl files.next) (by simp)

/-- A second name in the place for something that is in the place and no link. -/
theorem makeHardLink (ready : Ready before home names files) (steady : Steady before cwd home directory)
    (below : Extends directory names path) {existing : String}
    (own : ∀ {spot : Spot}, files.locate cwd false existing = .ok (.occupied spot) →
      home <+: spot ∧ ∀ target, files.signAt? spot ≠ some (.link target))
    (made : files.makeHardLink cwd existing path = .ok after) : Ready before home names after := by
  rw [FileSystem.makeHardLink] at made
  cases found : files.locate cwd false existing with
  | error errno => rw [found] at made; cases made
  | ok origin =>
    rw [found] at made
    cases origin with
    | gone => cases made
    | vacant => cases made
    | occupied spot =>
      obtain ⟨inside, noLink⟩ := own found
      cases located : files.locate cwd false path with
      | error errno => rw [located] at made; cases made
      | ok location =>
        rw [located] at made
        cases location with
        | occupied => cases made
        | gone => cases made
        | vacant above name =>
          obtain ⟨budget, walked⟩ := ready.located steady below located
          have first := List.prefix_refl names
          have absent := (ready.vacancy first walked).absent
          simp only [bind, Except.bind] at made
          split at made
          · cases made
          · next entry _ present =>
            cases made
            refine ready.of_gains (gains_putEntry absent entry) ?_ first walked (fun _ _ => rfl)
              (Nat.le_refl files.next) fun number same => .inr ⟨spot, inside, ?_⟩
            · rintro target rfl
              exact noLink target ((signAt?_eq_link_iff files spot target).2 present)
            · rw [present, same]
          · cases made

end Ready

end Bookbinder.FileSystem
