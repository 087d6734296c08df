import Bookbinder.FileSystem.Changes
import Bookbinder.Proofs.FileSystem.Below
import Bookbinder.Proofs.FileSystem.Operations

/-!
Files to which others are brought, each with the directories that are missing on the way to it. Main statements:
what is brought afterwards leaves what was brought before, and to bring all once more changes nothing.
-/

set_option autoImplicit false

namespace Bookbinder.FileSystem

/-- Nothing was taken away or replaced, and no link is new. -/
structure Grows (before after : FileSystem) : Prop where
  kept : ∀ {spot : Spot} {entry : Entry}, before.entryAt? spot = some entry → after.entryAt? spot = some entry
  links : ∀ {spot : Spot} {target : String}, after.entryAt? spot = some (.symlink target) →
    before.entryAt? spot = some (.symlink target)

namespace Grows

variable {before between after : FileSystem}

theorem refl (files : FileSystem) : Grows files files := ⟨id, id⟩

theorem trans (first : Grows before between) (second : Grows between after) : Grows before after :=
  ⟨fun present => second.kept (first.kept present), fun link => first.links (second.links link)⟩

theorem of_entries (same : ∀ spot, after.entryAt? spot = before.entryAt? spot) : Grows before after :=
  ⟨fun present => (same _).trans present, fun link => (same _).symm.trans link⟩

theorem of_gains {spot : Spot} {entry : Entry} (gains : Gains before after spot entry)
    (plain : ∀ target, entry ≠ .symlink target) : Grows before after where
  kept := gains.entryAt?_of_some
  links {place target} link := by
    rw [gains.entryAt?] at link
    split at link
    · exact absurd (Option.some.inj link) (plain target)
    · exact link

theorem isDirectory (grows : Grows before after) {spot : Spot} (standing : before.isDirectory spot = true) :
    after.isDirectory spot = true := by
  obtain ⟨serial, mode, present⟩ := entryAt?_of_isDirectory standing
  simp [FileSystem.isDirectory, grows.kept present]

theorem sameLinks (grows : Grows before after) : SameLinks before after := by
  intro spot target
  rw [signAt?_eq_link_iff, signAt?_eq_link_iff]
  exact ⟨grows.links, grows.kept⟩

/-- A walk past links and directories is a walk past the same ones. -/
theorem walk (grows : Grows before after) (follow : Bool) (start : Spot) (names : List String) :
    (∀ spot, before.walk follow start names = .arrived (.occupied spot) →
      after.walk follow start names = .arrived (.occupied spot)) ∧
    (∀ target directory rest, before.walk follow start names = .link target directory rest →
      after.walk follow start names = .link target directory rest) := by
  fun_induction FileSystem.walk before follow start names with
  | case3 start rest directory ih =>
    have still := grows.isDirectory (by simpa using directory)
    simpa [FileSystem.walk, still] using ih
  | case4 start rest directory notDot ih =>
    have still := grows.isDirectory (by simpa using directory)
    simpa [FileSystem.walk, still] using ih
  | case8 start name rest directory notDot notUp short target present last =>
    have still := grows.isDirectory (by simpa using directory)
    simp [FileSystem.walk, still, notDot, notUp, short, grows.kept present, last]
  | case9 start name rest directory notDot notUp short target present last =>
    have still := grows.isDirectory (by simpa using directory)
    simp [FileSystem.walk, still, notDot, notUp, short, grows.kept present, last]
  | case10 start name rest directory notDot notUp short held leaf present ih =>
    have still := grows.isDirectory (by simpa using directory)
    cases held with
    | symlink target => exact absurd rfl (leaf target)
    | _ => simpa [FileSystem.walk, still, notDot, notUp, short, grows.kept present] using ih
  | _ => simp [FileSystem.walk]

theorem walkOn (grows : Grows before after) {follow : Bool} {budget : Nat} {start spot : Spot} {names : List String}
    (walked : before.walkOn follow budget start names = .ok (.occupied spot)) :
    after.walkOn follow budget start names = .ok (.occupied spot) := by
  fun_induction FileSystem.walkOn before follow budget start names with
  | case1 budget start names place first =>
    cases walked
    exact walkOn_of_arrived budget ((grows.walk follow start names).1 _ first)
  | case2 => cases walked
  | case3 => cases walked
  | case4 start names target directory rest first budget from_ ih =>
    rw [FileSystem.walkOn, (grows.walk follow start names).2 _ _ _ first]
    exact ih walked

theorem isAlive (grows : Grows before after) {cwd : WorkingDirectory}
    (alive : before.isAlive cwd = true) : after.isAlive cwd = true := by
  rw [FileSystem.isAlive] at alive ⊢
  cases present : before.entryAt? cwd.spot with
  | none => simp [present] at alive
  | some entry =>
    rw [present] at alive
    rw [grows.kept present]
    exact alive

/-- What a path leads to stays what it leads to, if it is absolute or the current directory is there. -/
theorem locate (grows : Grows before after) {cwd : WorkingDirectory} {follow : Bool} {path : String} {spot : Spot}
    (known : path.toList.head? = some '/' ∨ before.isAlive cwd = true)
    (located : before.locate cwd follow path = .ok (.occupied spot)) :
    after.locate cwd follow path = .ok (.occupied spot) := by
  rw [FileSystem.locate] at located ⊢
  split at located
  · cases located
  · next some =>
    rw [if_neg some]
    split at located
    · cases located
    · next short =>
      rw [if_neg short]
      by_cases anchored : path.toList.head? = Option.some '/'
      · simp only [anchored, if_true] at located ⊢
        exact grows.walkOn located
      · have alive := known.resolve_left anchored
        simp only [anchored, if_false, alive, grows.isAlive alive, if_true] at located ⊢
        exact grows.walkOn located

end Grows

/-! ### Real paths of places below a directory -/

theorem IsClear.of_sameLinks {files after : FileSystem} {spot : Spot} (clear : files.IsClear spot)
    (same : SameLinks files after) : after.IsClear spot :=
  fun place above target link => clear place above target ((same place target).1 link)

theorem head?_under {base : String} (is : IsBase base) {names : List String} (down : Descends names) :
    (under base names).toList.head? = base.toList.head? := by
  by_cases none : names = []
  · rw [under, if_pos none]
  rw [toList_under is none down, stem]
  cases ends : PathText.endsInSlash base with
  | true => rcases is.root ends with rfl | rfl <;> rfl
  | false =>
    cases chars : base.toList with
    | nil => exact absurd (String.toList_inj.1 chars) is.some
    | cons c rest => rfl

theorem walkOn_of_locate {files : FileSystem} {cwd : WorkingDirectory} {follow : Bool} {path : String}
    {location : Location} (anchored : path.toList.head? = some '/')
    (located : files.locate cwd follow path = .ok location) :
    files.walkOn follow mostLinks [] (components path) = .ok location := by
  rw [locate] at located
  split at located
  · cases located
  · split at located
    · cases located
    · exact located

/-- The real path of names below a directory is where they lead, if nothing is taken away. -/
theorem Grows.realPath_under {before after : FileSystem} (grows : Grows before after) (tree : after.IsTree)
    (short : before.LinksAreShort) {cwd : WorkingDirectory} {base : String} {home : Spot} (is : IsBase base)
    (anchored : base.toList.head? = some '/') (located : before.locate cwd true base = .ok (.occupied home))
    {names : List String} (down : Descends names) (clear : before.IsClear (home ++ names)) :
    after.realPath cwd (under base names) = .ok (spotText (home ++ names)) := by
  have there := grows.locate (.inl anchored) located
  obtain ⟨count, leads⟩ := leads_of_walkOn (fun _ => isPart_of_mem_components) (walkOn_of_locate anchored there)
  -- no link is new, so the names below the directory lead past none
  have still := clear.of_sameLinks grows.sameLinks
  have onward : Leads after anywhere 0 home names (home ++ names) :=
    (still.leads down rfl).mono (fun _ _ => trivial) fun _ _ _ => Iff.rfl
  have whole : ∃ count, Leads after anywhere count [] (components (under base names)) (home ++ names) := by
    by_cases none : names = []
    · subst none
      rw [under, if_pos rfl, List.append_nil]
      exact ⟨count, leads⟩
    rw [components_under is none down]
    cases ends : PathText.endsInSlash base with
    | true =>
      rw [is.locate ends there] at onward ⊢
      exact ⟨0, onward⟩
    | false => exact ⟨count + 0, leads.append onward⟩
  obtain ⟨count, leads⟩ := whole
  exact realPath_of_leads tree (fun spot target _ link => short spot target ((grows.sameLinks spot target).1 link)) cwd
    (still.of_prefix List.nil_prefix) (by rw [head?_under is down, anchored]) leads.of_components

/-! ### Paths from the current directory -/

/-- A part of a path that is no step up. -/
def IsLevel (part : String) : Prop := part = "" ∨ part = "." ∨ LeadsDown part

/-- The names that the parts of a path lead down. -/
def downs (parts : List String) : List String := parts.filter fun part => part != "" && part != "."

theorem descends_downs {parts : List String} (level : ∀ part ∈ parts, IsLevel part) : Descends (downs parts) := by
  intro name member
  obtain ⟨inside, kept⟩ := List.mem_filter.1 member
  rcases level name inside with rfl | rfl | down
  · cases kept
  · cases kept
  · exact down

theorem components_intercalate {names : List String} (some : names ≠ []) (down : Descends names) :
    components ("/".intercalate names) = names := by
  have whole : components (spotText names) = names :=
    (components_spotText (isName_of_leadsDown down)).trans (if_neg some)
  obtain ⟨c, chars, starts, notSlash⟩ := Path.joinWith_ne_slash some (isName_of_leadsDown down)
  rw [components, toList_spotText, starts] at whole
  rw [components, toList_intercalate, starts]
  simpa [Text.splitOn] using whole

theorem parts_intercalate {names : List String} (some : names ≠ []) (down : Descends names) :
    PathText.parts ("/".intercalate names) = names := by
  have whole := parts_spotText some down
  rw [PathText.parts, toList_spotText, Text.splitOn, if_pos rfl, List.map_cons] at whole
  rw [PathText.parts, toList_intercalate]
  exact (List.cons.inj whole).2

theorem join_intercalate {names : List String} (down : Descends names) {name : String} (next : LeadsDown name) :
    PathText.join ("/".intercalate names) name = "/".intercalate (names ++ [name]) := by
  by_cases none : names = []
  · subst none
    simp [PathText.join, not_isAnchored_of_leadsDown next]
  have last : PathText.endsInSlash ("/".intercalate names) = false := by
    have whole := endsInSlash_spotText none down
    obtain ⟨c, chars, starts, notSlash⟩ := Path.joinWith_ne_slash none (isName_of_leadsDown down)
    rw [PathText.endsInSlash, toList_spotText, starts] at whole
    rw [PathText.endsInSlash, toList_intercalate, starts]
    simpa using whole
  have some : "/".intercalate names ≠ "" := by
    intro empty
    obtain ⟨c, chars, starts, notSlash⟩ := Path.joinWith_ne_slash none (isName_of_leadsDown down)
    rw [← toList_intercalate, empty] at starts
    cases starts
  rw [PathText.join, not_isAnchored_of_leadsDown next, if_neg (by simp), if_neg (by simp [some, last]),
    ← String.toList_inj, toList_intercalate, List.map_append, List.map_singleton,
    joinWith_concat (by simpa using none), String.toList_append, String.toList_append, toList_intercalate,
    List.append_assoc]
  rfl

/-- Where no link stands, none is found by the names that lead there. -/
theorem linkTarget?_relative {files : FileSystem} {cwd : WorkingDirectory} (alive : files.isAlive cwd = true)
    {names : List String} {name : String} (down : Descends (names ++ [name]))
    (clear : files.IsClear (cwd.spot ++ (names ++ [name]))) :
    files.linkTarget? cwd ("/".intercalate (names ++ [name])) = none := by
  have unanchored : ("/".intercalate (names ++ [name])).toList.head? ≠ some '/' := by
    simpa [PathText.isAnchored] using isAnchored_intercalate (by simp) down
  rw [linkTarget?]
  split
  · next place located =>
    rw [locate] at located
    split at located
    · cases located
    split at located
    · cases located
    simp only [components_intercalate (by simp) down] at located
    rw [← List.append_assoc] at clear
    have there := place_of_walkOn_concat (clear.of_prefix (List.prefix_append _ _))
      (down.of_prefix (List.prefix_append _ _)) (down name (by simp)) located
    split
    · next target present => exact absurd ((signAt?_eq_link_iff files _ _).2 present) (there ▸ clear _ (List.prefix_refl _) target)
    · rfl
  · rfl

theorem resolve_relative {files : FileSystem} {cwd : WorkingDirectory} (alive : files.isAlive cwd = true)
    {names parts : List String} (down : Descends names) (level : ∀ part ∈ parts, IsLevel part)
    (clear : files.IsClear (cwd.spot ++ (names ++ downs parts))) (depth : Nat) (met : Met) :
    files.resolve cwd depth ("/".intercalate names) parts met =
      ⟨"/".intercalate (names ++ downs parts), true, met⟩ := by
  -- the induction is on the parts that are left: each that leads down is put to the names before it
  induction parts generalizing names with
  | nil =>
    rw [resolve_nil, downs, List.filter_nil, List.append_nil]
  | cons part rest ih =>
    have later : ∀ part ∈ rest, IsLevel part := fun other member => level other (List.mem_cons_of_mem _ member)
    have stays (still : part = "" ∨ part = ".") : downs (part :: rest) = downs rest := by
      rcases still with rfl | rfl <;> rfl
    rcases level part List.mem_cons_self with empty | dot | next
    · rw [stays (.inl empty)] at clear ⊢
      rw [resolve_stay files cwd depth _ (.inl empty)]
      exact ih down later clear
    · rw [stays (.inr dot)] at clear ⊢
      rw [resolve_stay files cwd depth _ (.inr dot)]
      exact ih down later clear
    · have goes : downs (part :: rest) = part :: downs rest :=
        List.filter_cons_of_pos (by simp [next.some, next.notDot])
      rw [goes, List.append_cons] at clear ⊢
      have noLink := linkTarget?_relative alive (down.concat next)
        (clear.of_prefix ((List.prefix_append_right_inj _).2 (List.prefix_append _ _)))
      rw [← join_intercalate down next] at noLink
      rw [resolve_plain next noLink, join_intercalate down next]
      exact ih (down.concat next) later clear

theorem normalise_join_empty {spot : Spot} (down : Descends spot) :
    PathText.normalise (PathText.join (spotText spot) "") = spotText spot := by
  by_cases root : spot = []
  · subst root
    decide
  have anchor (rest : List Char) : Path.anchorOf ((spotText spot).toList ++ rest) = .root := by
    obtain ⟨c, chars, starts, different⟩ := Path.joinWith_ne_slash root (isName_of_leadsDown down)
    rw [toList_spotText, starts]
    unfold Path.anchorOf
    split <;> simp_all
  have slashed : PathText.join (spotText spot) "" = spotText spot ++ "/" ++ "" := by
    rw [PathText.join, endsInSlash_spotText root down, if_neg (by decide), if_neg (by simp [spotText_ne_empty])]
  have same := normalise_spotText down
  rw [slashed]
  rw [PathText.normalise] at same ⊢
  have parts : PathText.parts (spotText spot ++ "/" ++ "") = PathText.parts (spotText spot) ++ [""] :=
    parts_append_slash (spotText spot) ""
  have chars : (spotText spot ++ "/" ++ "").toList = (spotText spot).toList ++ ['/'] := by simp
  have first := anchor []
  rw [List.append_nil] at first
  rw [first] at same
  rw [chars, anchor, parts, List.foldl_append]
  exact same

/-- The real path of a path from the current directory, if it has no steps up and no link is on its way. -/
theorem realPath_relative {files : FileSystem} {cwd : WorkingDirectory} (alive : files.isAlive cwd = true)
    (downCwd : Descends cwd.spot) {path : String} (unanchored : PathText.isAnchored path = false)
    (level : ∀ part ∈ PathText.parts path, IsLevel part)
    (clear : files.IsClear (cwd.spot ++ downs (PathText.parts path))) :
    files.realPath cwd path = .ok (spotText (cwd.spot ++ downs (PathText.parts path))) := by
  have down := descends_downs level
  have resolved : files.resolve cwd files.linkDepth "" (PathText.parts path) [] =
      ⟨"/".intercalate (downs (PathText.parts path)), true, []⟩ :=
    @resolve_relative files cwd alive [] _ nofun level clear files.linkDepth []
  generalize downs (PathText.parts path) = names at down clear resolved
  have start : linkStart "" path = ("", PathText.parts path) := by
    rw [linkStart, unanchored]
    rfl
  have plain : PathText.isAnchored ("/".intercalate names) = false := by
    by_cases none : names = []
    · subst none
      rfl
    · exact isAnchored_intercalate none down
  have normal : PathText.normalise (PathText.join (spotText cwd.spot) ("/".intercalate names)) =
      spotText (cwd.spot ++ names) := by
    have all : Descends (cwd.spot ++ names) := fun name member =>
      (List.mem_append.1 member).elim (downCwd name) (down name)
    by_cases none : names = []
    · subst none
      rw [List.append_nil]
      exact normalise_join_empty downCwd
    · rw [← under_slash downCwd, join_under isBase_slash none all, under_slash all, normalise_spotText all]
  rw [realPath, start]
  simp only [resolved, plain, alive, if_true, normal, Bool.false_eq_true, if_false]

/-! ### Ways down from a directory -/

/-- On the way along names there are directories only, as far as there is anything. -/
def IsOpen (files : FileSystem) (home : Spot) (names : List String) : Prop :=
  ∀ place, place <+: names → files.entryAt? (home ++ place) = none ∨ files.isDirectory (home ++ place) = true

section

variable {files : FileSystem} {home : Spot} {names above rest : List String} {name : String}

theorem IsOpen.of_prefix (free : files.IsOpen home names) (within : above <+: names) : files.IsOpen home above :=
  fun place before => free place (before.trans within)

theorem IsTree.isDirectory_above (tree : files.IsTree) (standing : files.isDirectory (home ++ names) = true)
    {place : List String} (within : place <+: names) : files.isDirectory (home ++ place) = true := by
  obtain ⟨serial, mode, present⟩ := entryAt?_of_isDirectory standing
  by_cases same : place = names
  · rw [same]
    exact standing
  · exact tree.isDirectory_of_prefix present ((List.prefix_append_right_inj home).2 within) (by simpa using same)

theorem IsTree.walk_directories (tree : files.IsTree) (spot : IsSpot names)
    (standing : files.isDirectory (home ++ names) = true) (follow : Bool) :
    files.walk follow home names = .arrived (.occupied (home ++ names)) :=
  walk_of_directories follow home spot fun _ within => tree.isDirectory_above standing within

/-- Where a walk comes to from the last directory on its way. -/
theorem IsTree.walk_below (tree : files.IsTree) (spot : IsSpot (above ++ name :: rest))
    (standing : files.isDirectory (home ++ above) = true)
    (plain : ∀ target, files.entryAt? (home ++ above ++ [name]) ≠ some (.symlink target)) (follow : Bool) :
    files.walk follow home (above ++ name :: rest) =
      if files.entryAt? (home ++ above ++ [name]) = none then
        if rest = [] then .arrived (.vacant (home ++ above) name) else .refused .noEntry
      else files.walk follow (home ++ above ++ [name]) rest := by
  obtain ⟨valid, notUp, short⟩ := spot name (by simp)
  have down := LeadsDown.of_isName valid notUp
  rw [walk_append files follow home above (List.cons_ne_nil name rest),
    tree.walk_directories (fun part member => spot part (List.mem_append_left _ member)) standing]
  simp only
  rw [walk_down follow rest standing down.notDot notUp short, signAt?]
  cases present : files.entryAt? (home ++ above ++ [name]) with
  | none => simp
  | some entry =>
    cases entry with
    | symlink target => exact absurd present (plain target)
    | _ => simp [Sign.ofEntry]

/-- If a directory is missing, there is a first one that is. -/
theorem exists_missing (standing : files.isDirectory home = true) (free : files.IsOpen home names)
    (missing : files.isDirectory (home ++ names) = false) :
    ∃ above name rest, names = above ++ name :: rest ∧ files.isDirectory (home ++ above) = true ∧
      files.entryAt? (home ++ above ++ [name]) = none := by
  generalize reversed : names.reverse = row
  induction row generalizing names with
  | nil =>
    rw [List.reverse_eq_nil_iff.1 reversed, List.append_nil, standing] at missing
    cases missing
  | cons name row ih =>
    have whole : names = row.reverse ++ [name] := by
      rw [← List.reverse_cons, ← reversed, List.reverse_reverse]
    have within : row.reverse <+: names := ⟨[name], whole.symm⟩
    cases directory : files.isDirectory (home ++ row.reverse) with
    | true =>
      refine ⟨row.reverse, name, [], whole, directory, ?_⟩
      rw [List.append_assoc, ← whole]
      refine (free names (List.prefix_refl names)).resolve_right fun there => ?_
      rw [missing] at there
      cases there
    | false =>
      obtain ⟨above, first, rest, cut, found⟩ := ih (free.of_prefix within) directory (List.reverse_reverse row)
      refine ⟨above, first, rest ++ [name], ?_, found⟩
      rw [whole, cut, List.append_assoc]
      rfl

end

/-! ### Missing directories -/

theorem descends_of_isSpot {names : Spot} (spot : IsSpot names) : Descends names :=
  fun name member => .of_isName (spot name member).1 (spot name member).2.1

/-- The path of a directory leads to it, also when files have grown. -/
structure LeadsTo (files : FileSystem) (cwd : WorkingDirectory) (base : String) (home : Spot) : Prop
    extends IsBase base where
  standing : files.isDirectory home = true
  located : ∀ after, Grows files after → after.locate cwd true base = .ok (.occupied home)

theorem LeadsTo.grows {files after : FileSystem} {cwd : WorkingDirectory} {base : String} {home : Spot}
    (leads : files.LeadsTo cwd base home) (grows : Grows files after) : after.LeadsTo cwd base home where
  toIsBase := leads.toIsBase
  standing := grows.isDirectory leads.standing
  located _ further := leads.located _ (grows.trans further)

/-- Directories that were missing on the way along names are there, and nothing else has changed. -/
structure Raises (files : FileSystem) (spot : Spot) (after : FileSystem) : Prop where
  grows : Grows files after
  tree : after.IsTree
  standing : after.isDirectory spot = true
  contents : after.contents = files.contents
  next : files.next ≤ after.next
  made : ∀ place, after.entryAt? place = files.entryAt? place ∨
    (place <+: spot ∧ ∃ serial, after.entryAt? place = some (.directory serial directoryMode))

theorem Raises.refl {files : FileSystem} {spot : Spot} (tree : files.IsTree) (standing : files.isDirectory spot = true) :
    files.Raises spot files :=
  ⟨.refl files, tree, standing, rfl, Nat.le_refl _, fun _ => .inl rfl⟩

theorem raises_addDirectory {files : FileSystem} (tree : files.IsTree) {above : Spot} {name : String}
    (vacancy : files.Vacancy above name) :
    files.Raises (above ++ [name]) (files.addDirectory (above ++ [name]) directoryMode) := by
  have gains : Gains files (files.addDirectory (above ++ [name]) directoryMode) (above ++ [name])
      (.directory files.next directoryMode) :=
    ⟨vacancy.absent, (gains_putEntry vacancy.absent (.directory files.next directoryMode)).entryAt?⟩
  have here := gains.entryAt? (above ++ [name])
  rw [if_pos rfl] at here
  refine ⟨.of_gains gains nofun, tree.of_gains gains vacancy, by simp [isDirectory, here], rfl, Nat.le_succ _, ?_⟩
  intro place
  by_cases same : above ++ [name] = place
  · rw [← same]
    exact .inr ⟨List.prefix_refl _, _, here⟩
  · have other := gains.entryAt? place
    rw [if_neg same] at other
    exact .inl other

theorem Raises.trans {files between after : FileSystem} {spot further : Spot} (first : files.Raises spot between)
    (second : between.Raises further after) (within : spot <+: further) : files.Raises further after where
  grows := first.grows.trans second.grows
  tree := second.tree
  standing := second.standing
  contents := second.contents.trans first.contents
  next := Nat.le_trans first.next second.next
  made place := by
    rcases second.made place with same | made
    · rcases first.made place with still | ⟨above, serial, there⟩
      · exact .inl (same.trans still)
      · exact .inr ⟨above.trans within, serial, same.trans there⟩
    · exact .inr made

section

variable {files : FileSystem} {cwd : WorkingDirectory} {base : String} {home : Spot} {names : List String}

/-- The path of names leads somewhere only if a directory is there. -/
theorem LeadsTo.leadsSomewhere (leads : files.LeadsTo cwd base home) (tree : files.IsTree) (spot : IsSpot names)
    (short : (under base names).utf8ByteSize < pathLimit) (free : files.IsOpen home names) :
    files.leadsSomewhere cwd (under base names) = files.isDirectory (home ++ names) := by
  by_cases none : names = []
  · subst none
    rw [List.append_nil, leads.standing, under, if_pos rfl]
    exact leadsSomewhere_of_locate (leads.located files (.refl files)) leads.standing
  obtain ⟨left, walks⟩ := locate_under leads.toIsBase (leads.located files (.refl files))
  have located := walks true names none (descends_of_isSpot spot) short
  cases standing : files.isDirectory (home ++ names) with
  | true =>
    rw [walkOn_of_arrived left (tree.walk_directories spot standing true)] at located
    exact leadsSomewhere_of_locate located standing
  | false =>
    obtain ⟨above, name, rest, rfl, directory, absent⟩ := exists_missing leads.standing free standing
    have plain (target : String) : files.entryAt? (home ++ above ++ [name]) ≠ some (.symlink target) := by
      simp only [absent, ne_eq, reduceCtorEq, not_false_eq_true]
    have walked := tree.walk_below spot directory plain true
    rw [if_pos absent] at walked
    by_cases last : rest = []
    · rw [if_pos last] at walked
      rw [walkOn_of_arrived left walked] at located
      simp [FileSystem.leadsSomewhere, status_of_vacant located, Except.isOk, Except.toBool]
    · rw [if_neg last] at walked
      rw [walkOn_of_refused left walked] at located
      simp [FileSystem.leadsSomewhere, status, located, bind, Except.bind, Except.isOk, Except.toBool]

theorem LeadsTo.locate_vacant (leads : files.LeadsTo cwd base home) (tree : files.IsTree) {above : List String}
    {name : String} (spot : IsSpot (above ++ [name])) (short : (under base (above ++ [name])).utf8ByteSize < pathLimit)
    (standing : files.isDirectory (home ++ above) = true) (absent : files.entryAt? (home ++ above ++ [name]) = none)
    (follow : Bool) :
    files.locate cwd follow (under base (above ++ [name])) = .ok (.vacant (home ++ above) name) := by
  obtain ⟨left, walks⟩ := locate_under leads.toIsBase (leads.located files (.refl files))
  have plain (target : String) : files.entryAt? (home ++ above ++ [name]) ≠ some (.symlink target) := by
    simp only [absent, ne_eq, reduceCtorEq, not_false_eq_true]
  have walked := tree.walk_below spot standing plain follow
  rw [if_pos absent, if_pos rfl] at walked
  rw [walks follow _ (by simp) (descends_of_isSpot spot) short, walkOn_of_arrived left walked]

theorem LeadsTo.provideLast (leads : files.LeadsTo cwd base home) (tree : files.IsTree) {above : List String}
    {name : String} (spot : IsSpot (above ++ [name])) (short : (under base (above ++ [name])).utf8ByteSize < pathLimit)
    (standing : files.isDirectory (home ++ above) = true) (absent : files.entryAt? (home ++ above ++ [name]) = none) :
    ∃ after, files.provideLast cwd (under base (above ++ [name])) = (after, .ok ()) ∧
      files.Raises (home ++ (above ++ [name])) after := by
  have down := descends_of_isSpot spot
  have same : directoryPath (under base (above ++ [name])) = under base (above ++ [name]) := by
    rw [directoryPath, withoutFinalSlashes_of_not_endsInSlash (endsInSlash_under leads.toIsBase (by simp) down)]
    exact if_neg (under_ne_empty leads.toIsBase down)
  obtain ⟨valid, notUp, fits⟩ := spot name (by simp)
  have raises := raises_addDirectory tree ⟨standing, absent, valid, notUp, fits⟩
  have made : files.makeDirectory cwd (under base (above ++ [name])) directoryMode =
      .ok (files.addDirectory (home ++ above ++ [name]) directoryMode) := by
    rw [makeDirectory, same, leads.locate_vacant tree spot short standing absent false]
    rfl
  rw [List.append_assoc] at made raises
  exact ⟨_, by rw [FileSystem.provideLast, made], raises⟩

/-- The induction is on the names, from the last one up to the first directory that is there. -/
theorem LeadsTo.makeDirectories (leads : files.LeadsTo cwd base home) (tree : files.IsTree) (spot : IsSpot names)
    (short : (under base names).utf8ByteSize < pathLimit) (free : files.IsOpen home names)
    (missing : files.isDirectory (home ++ names) = false) {depth : Nat} (enough : names.length ≤ depth) :
    ∃ after, files.makeDirectories cwd depth (under base names) = (after, .ok ()) ∧
      files.Raises (home ++ names) after := by
  generalize reversed : names.reverse = row
  induction row generalizing names depth with
  | nil =>
    rw [List.reverse_eq_nil_iff.1 reversed, List.append_nil, leads.standing] at missing
    cases missing
  | cons name row ih =>
    obtain ⟨above, rfl⟩ : ∃ above, names = above ++ [name] :=
      ⟨row.reverse, by rw [← List.reverse_cons, ← reversed, List.reverse_reverse]⟩
    have before : above.reverse = row := by simpa using reversed
    rw [List.length_append, List.length_singleton] at enough
    obtain ⟨depth, rfl⟩ : ∃ fewer, depth = fewer + 1 := ⟨depth - 1, by omega⟩
    have within : above <+: above ++ [name] := List.prefix_append _ _
    have spotAbove : IsSpot above := fun part member => spot part (List.mem_append_left _ member)
    have shortAbove := Nat.lt_of_le_of_lt (size_under_le leads.toIsBase (descends_of_isSpot spot)) short
    have next := descends_of_isSpot spot name (by simp)
    have halves := split_under leads.toIsBase (descends_of_isSpot spot)
    have cut : splitDirectory (under base (above ++ [name])) = (under base above, name) := by
      rw [splitDirectory_of_tail (by rw [halves]; exact next.some), halves]
    have absent : files.entryAt? (home ++ above ++ [name]) = none := by
      rw [List.append_assoc]
      refine (free _ (List.prefix_refl _)).resolve_right fun there => ?_
      rw [missing] at there
      cases there
    rw [FileSystem.makeDirectories, cut]
    simp only [under_ne_empty leads.toIsBase (descends_of_isSpot spotAbove), next.some, false_or,
      leads.leadsSomewhere tree spotAbove shortAbove (free.of_prefix within)]
    cases standing : files.isDirectory (home ++ above) with
    | true =>
      rw [if_pos rfl]
      exact leads.provideLast tree spot short standing absent
    | false =>
      obtain ⟨between, made, raises⟩ := ih spotAbove shortAbove (free.of_prefix within) standing (Nat.le_of_succ_le_succ enough) before
      have still : between.entryAt? (home ++ above ++ [name]) = none := by
        rcases raises.made (home ++ above ++ [name]) with same | ⟨deeper, _⟩
        · rw [same, absent]
        · have length := deeper.length_le
          rw [List.length_append, List.length_singleton] at length
          omega
      obtain ⟨after, provided, further⟩ :=
        (leads.grows raises.grows).provideLast raises.tree spot short raises.standing still
      refine ⟨after, ?_, raises.trans further ((List.prefix_append_right_inj home).2 within)⟩
      rw [if_neg (by simp), made]
      simp only [next.notDot, if_false]
      exact provided

end

/-! ### What is brought -/

/-- Every number of a regular file is one that was given out, and that of some content. -/
structure IsSound (files : FileSystem) : Prop where
  tree : files.IsTree
  numbered : ∀ {spot : Spot} {number : Nat}, files.entryAt? spot = some (.file number) →
    number < files.next ∧ ∃ content, files.content? number = some content

/-- A regular file at a spot has no other name. -/
def IsAlone (files : FileSystem) (spot : Spot) : Prop :=
  ∀ other number, files.entryAt? spot = some (.file number) → files.entryAt? other = some (.file number) →
    other = spot

/-- What a regular file needs: a number that was given out, and some content. -/
def numbers (files : FileSystem) : Entry → Bool
  | .file number => number < files.next && (files.content? number).isSome
  | _ => true

theorem IsSound.of_entries {files : FileSystem} (tree : files.IsTree)
    (numbered : files.entries.all (fun pair => files.numbers pair.2) = true) : files.IsSound where
  tree := tree
  numbered {spot number} present := by
    have both : files.numbers (.file number) = true := List.all_eq_true.1 numbered _ (mem_entries present)
    rw [numbers, Bool.and_eq_true, decide_eq_true_eq] at both
    exact ⟨both.1, Option.isSome_iff_exists.1 both.2⟩

theorem IsSound.of_raises {files after : FileSystem} {spot : Spot} (sound : files.IsSound)
    (raises : files.Raises spot after) : after.IsSound where
  tree := raises.tree
  numbered {place number} present := by
    rcases raises.made place with same | ⟨_, serial, made⟩
    · obtain ⟨small, content, held⟩ := sound.numbered (same.symm.trans present)
      exact ⟨Nat.lt_of_lt_of_le small raises.next, content, by rw [content?, raises.contents, ← held, content?]⟩
    · rw [made] at present
      cases present

/-! ### One file -/

/-- A regular file at a spot holds some content, and nothing else has changed. -/
structure Stores (files : FileSystem) (spot : Spot) (content : Content) (after : FileSystem) : Prop where
  grows : Grows files after
  sound : after.IsSound
  next : files.next ≤ after.next
  others : ∀ other, other ≠ spot → after.entryAt? other = files.entryAt? other
  stored : ∃ number, after.entryAt? spot = some (.file number) ∧ after.content? number = some content ∧
    (files.entryAt? spot = some (.file number) ∨ number = files.next) ∧
    ∀ different, different ≠ number → after.content? different = files.content? different

section

variable {files between after : FileSystem} {spot : Spot} {content old : Content}

theorem IsSound.stores (sound : files.IsSound) {number : Nat} (present : files.entryAt? spot = some (.file number))
    (held : files.content? number = some content) : files.Stores spot content files where
  grows := .refl files
  sound := sound
  next := Nat.le_refl _
  others _ _ := rfl
  stored := ⟨number, present, held, .inl present, fun _ _ => rfl⟩

theorem IsSound.stores_addFile (sound : files.IsSound) {above : Spot} {name : String}
    (vacancy : files.Vacancy above name) (content : Content) :
    files.Stores (above ++ [name]) content (files.addFile (above ++ [name]) content) := by
  have gains := gains_addFile files (above ++ [name]) content vacancy.absent
  have here := gains.entryAt? (above ++ [name])
  rw [if_pos rfl] at here
  have contents (number : Nat) : (files.addFile (above ++ [name]) content).content? number =
      if files.next = number then some content else files.content? number :=
    content?_putContent _ _ _ _
  have next : (files.addFile (above ++ [name]) content).next = files.next + 1 := rfl
  refine ⟨.of_gains gains nofun, ⟨sound.tree.of_gains gains vacancy, ?_⟩, Nat.le_succ _, ?_, files.next, here, ?_,
    .inr rfl, ?_⟩
  · intro place number present
    rw [gains.entryAt?] at present
    split at present
    · cases present
      exact ⟨Nat.lt_succ_self _, content, by rw [contents, if_pos rfl]⟩
    · obtain ⟨small, held, has⟩ := sound.numbered present
      exact ⟨Nat.lt_succ_of_lt small, held, by rw [contents, if_neg (by omega), has]⟩
  · intro other different
    rw [gains.entryAt?, if_neg (Ne.symm different)]
  · rw [contents, if_pos rfl]
  · intro number different
    rw [contents, if_neg (Ne.symm different)]

/-- What a file holds is replaced. -/
theorem Stores.putContent (stores : files.Stores spot old between) (content : Content) {number : Nat}
    (present : between.entryAt? spot = some (.file number)) :
    files.Stores spot content (between.putContent number content) := by
  obtain ⟨same, here, _, origin, kept⟩ := stores.stored
  rw [here] at present
  cases present
  refine ⟨stores.grows.trans (.of_entries fun _ => rfl), ⟨stores.sound.tree.congr fun _ => rfl, ?_⟩, stores.next,
    stores.others, number, here, ?_, origin, ?_⟩
  · intro place other there
    obtain ⟨small, held, has⟩ := stores.sound.numbered there
    rw [content?_putContent]
    split
    · exact ⟨small, content, rfl⟩
    · exact ⟨small, held, has⟩
  · rw [content?_putContent, if_pos rfl]
  · intro other different
    rw [content?_putContent, if_neg (Ne.symm different)]
    exact kept other different

theorem setMode_of_file {cwd : WorkingDirectory} {path : String} {number : Nat}
    (located : files.locate cwd true path = .ok (.occupied spot))
    (present : files.entryAt? spot = some (.file number)) (held : files.content? number = some content) (mode : Nat) :
    files.setMode cwd path mode = .ok (files.putContent number { content with mode := mode }) := by
  simp only [setMode, located, present, held, bind, Except.bind, pure, Except.pure]

theorem LeadsTo.locate_file {cwd : WorkingDirectory} {base : String} {home : Spot} {above : List String} {name : String}
    (leads : files.LeadsTo cwd base home) (tree : files.IsTree) (spot : IsSpot (above ++ [name]))
    (short : (under base (above ++ [name])).utf8ByteSize < pathLimit)
    {number : Nat} (present : files.entryAt? (home ++ above ++ [name]) = some (.file number)) :
    files.locate cwd true (under base (above ++ [name])) = .ok (.occupied (home ++ above ++ [name])) := by
  obtain ⟨left, walks⟩ := locate_under leads.toIsBase (leads.located files (.refl files))
  have plain (target : String) : files.entryAt? (home ++ above ++ [name]) ≠ some (.symlink target) := by
    simp only [present, ne_eq, Option.some.injEq, reduceCtorEq, not_false_eq_true]
  have walked := tree.walk_below spot (tree.parent present) plain true
  rw [if_neg (by rw [present]; exact Option.some_ne_none _)] at walked
  rw [walks true _ (by simp) (descends_of_isSpot spot) short]
  exact walkOn_of_arrived left walked

/-- A file is written in a directory, and then it is given its permission bits. -/
theorem LeadsTo.store {cwd : WorkingDirectory} {base : String} {home : Spot} {above : List String} {name : String}
    (leads : files.LeadsTo cwd base home) (sound : files.IsSound) (spot : IsSpot (above ++ [name]))
    (short : (under base (above ++ [name])).utf8ByteSize < pathLimit)
    (standing : files.isDirectory (home ++ above) = true)
    (free : files.entryAt? (home ++ above ++ [name]) = none ∨
      ∃ number, files.entryAt? (home ++ above ++ [name]) = some (.file number))
    (bytes : Text.Bytes) (mode : Nat) :
    ∃ written after, files.writeFile cwd (under base (above ++ [name])) (fun _ => bytes) = .ok written ∧
      written.leadsSomewhere cwd (under base (above ++ [name])) = true ∧
      written.setMode cwd (under base (above ++ [name])) mode = .ok after ∧
      files.Stores (home ++ above ++ [name]) ⟨bytes, mode⟩ after := by
  have wrote : ∃ written old, files.writeFile cwd (under base (above ++ [name])) (fun _ => bytes) = .ok written ∧
      files.Stores (home ++ above ++ [name]) ⟨bytes, old⟩ written := by
    rcases free with absent | ⟨number, present⟩
    · obtain ⟨valid, notUp, fits⟩ := spot name (by simp)
      have located := leads.locate_vacant sound.tree spot short standing absent true
      exact ⟨_, _, writeFile_of_vacant located _, sound.stores_addFile ⟨standing, absent, valid, notUp, fits⟩ _⟩
    · obtain ⟨_, content, held⟩ := sound.numbered present
      have located := leads.locate_file sound.tree spot short present
      exact ⟨_, _, writeFile_of_file located present held _, (sound.stores present held).putContent _ present⟩
  obtain ⟨written, old, writes, stores⟩ := wrote
  obtain ⟨number, present, held, _⟩ := stores.stored
  have located := (leads.grows stores.grows).locate_file stores.sound.tree spot short present
  refine ⟨written, _, writes, ?_, setMode_of_file located present held mode, stores.putContent _ present⟩
  simp [FileSystem.leadsSomewhere, status_of_file located present held, Except.isOk, Except.toBool]

end

/-! ### Several files -/

/-- Files are at their spots, in directories, and under no other name. Nothing has changed but what is at these
spots or was missing on the way to them. -/
structure Brings (load : List (Spot × Content)) (before after : FileSystem) : Prop where
  grows : Grows before after
  sound : after.IsSound
  next : before.next ≤ after.next
  held : ∀ pair ∈ load, after.viewAt? pair.1 = some (.file pair.2)
  alone : ∀ pair ∈ load, after.IsAlone pair.1
  above : ∀ pair ∈ load, ∀ place, place <+: pair.1 → place ≠ pair.1 → after.isDirectory place = true
  others : ∀ spot, (∀ pair ∈ load, ¬ spot <+: pair.1) →
    after.entryAt? spot = before.entryAt? spot ∧ after.viewAt? spot = before.viewAt? spot
  fresh : ∀ {spot : Spot} {number : Nat}, after.entryAt? spot = some (.file number) →
    before.entryAt? spot = some (.file number) ∨ before.next ≤ number

/-- Spots at which files can be put: nothing stands there but regular files, and nothing on the way but
directories. None of them is on the way to another. -/
structure Admits (files : FileSystem) (spots : List Spot) : Prop where
  above : ∀ spot ∈ spots, ∀ place, place <+: spot → place ≠ spot →
    files.entryAt? place = none ∨ files.isDirectory place = true
  free : ∀ spot ∈ spots, files.entryAt? spot = none ∨ ∃ number, files.entryAt? spot = some (.file number)
  apart : spots.Pairwise fun one other => ¬ one <+: other ∧ ¬ other <+: one

/-- The regular files at such spots have no other names, so that nothing else changes with them. -/
structure Fits (files : FileSystem) (spots : List Spot) : Prop extends Admits files spots where
  alone : ∀ spot ∈ spots, files.IsAlone spot

theorem Fits.of_cons {files : FileSystem} {spot : Spot} {spots : List Spot} (fits : files.Fits (spot :: spots)) :
    files.Fits [spot] ∧ files.Fits spots ∧ ∀ other ∈ spots, ¬ spot <+: other ∧ ¬ other <+: spot := by
  obtain ⟨first, others⟩ := List.pairwise_cons.1 fits.apart
  have here {other : Spot} (member : other ∈ [spot]) : other ∈ spot :: spots :=
    List.mem_singleton.1 member ▸ List.mem_cons_self
  have there {other : Spot} (member : other ∈ spots) : other ∈ spot :: spots := List.mem_cons_of_mem _ member
  exact ⟨⟨⟨fun _ member => fits.above _ (here member), fun _ member => fits.free _ (here member),
      List.pairwise_singleton _ _⟩, fun _ member => fits.alone _ (here member)⟩,
    ⟨⟨fun _ member => fits.above _ (there member), fun _ member => fits.free _ (there member), others⟩,
      fun _ member => fits.alone _ (there member)⟩, first⟩

theorem viewAt?_eq_file_iff (files : FileSystem) (spot : Spot) (content : Content) :
    files.viewAt? spot = some (.file content) ↔
      ∃ number, files.entryAt? spot = some (.file number) ∧ files.content? number = some content := by
  unfold viewAt?
  cases files.entryAt? spot with
  | none => simp
  | some entry => cases entry <;> simp

theorem viewAt?_congr {files after : FileSystem} {spot : Spot} (same : after.entryAt? spot = files.entryAt? spot)
    (contents : ∀ number, files.entryAt? spot = some (.file number) →
      after.content? number = files.content? number) : after.viewAt? spot = files.viewAt? spot := by
  unfold viewAt?
  rw [same]
  cases present : files.entryAt? spot with
  | none => rfl
  | some entry =>
    cases entry with
    | file number => simp only [contents number present]
    | _ => rfl

section

variable {before between after : FileSystem} {load more : List (Spot × Content)}

theorem Brings.nil (sound : before.IsSound) : Brings [] before before where
  grows := .refl before
  sound := sound
  next := Nat.le_refl _
  held := nofun
  alone := nofun
  above := nofun
  others _ _ := ⟨rfl, rfl⟩
  fresh := .inl

/-- One file, and the directories that are missing on the way to it. -/
theorem brings_single {above : Spot} {name : String} {content : Content} (sound : before.IsSound)
    (alone : before.IsAlone (above ++ [name])) (raises : before.Raises above between)
    (stores : between.Stores (above ++ [name]) content after) :
    Brings [(above ++ [name], content)] before after := by
  obtain ⟨number, present, held, origin, kept⟩ := stores.stored
  have notAbove : ¬ above ++ [name] <+: above := by
    intro within
    have length := within.length_le
    rw [List.length_append, List.length_singleton] at length
    omega
  -- The number is new, or it was that of the file before.
  have origin : before.entryAt? (above ++ [name]) = some (.file number) ∨ before.next ≤ number := by
    rcases origin with old | new
    · rcases raises.made (above ++ [name]) with same | ⟨within, _⟩
      · exact .inl (same.symm.trans old)
      · exact absurd within notAbove
    · exact .inr (new ▸ raises.next)
  have others (place : Spot) (different : place ≠ above ++ [name]) {entry : Entry}
      (plain : ∀ serial mode, entry ≠ .directory serial mode) (there : after.entryAt? place = some entry) :
      before.entryAt? place = some entry := by
    rw [stores.others place different] at there
    rcases raises.made place with same | ⟨_, serial, made⟩
    · exact same.symm.trans there
    · rw [made] at there
      exact absurd (Option.some.inj there).symm (plain _ _)
  have foreign {place : Spot} {other : Nat} (different : place ≠ above ++ [name])
      (there : before.entryAt? place = some (.file other)) : other ≠ number := by
    rintro rfl
    rcases origin with old | new
    · exact different (alone place other old there)
    · exact absurd (sound.numbered there).1 (Nat.not_lt_of_le new)
  refine ⟨raises.grows.trans stores.grows, stores.sound, Nat.le_trans raises.next stores.next, ?_, ?_, ?_, ?_, ?_⟩
  · intro pair member
    cases List.mem_singleton.1 member
    exact (viewAt?_eq_file_iff after _ content).2 ⟨number, present, held⟩
  · intro pair member place other here there
    cases List.mem_singleton.1 member
    rw [present] at here
    cases here
    refine Decidable.byContradiction fun different => ?_
    exact foreign different (others place different nofun there) rfl
  · intro pair member place within proper
    cases List.mem_singleton.1 member
    have directory := stores.grows.isDirectory raises.standing
    rcases List.prefix_concat_iff.1 within with same | higher
    · exact absurd same proper
    · exact stores.sound.tree.isDirectory_above (show after.isDirectory ([] ++ above) = true from directory) higher
  · intro place aside
    have outside := aside _ List.mem_cons_self
    have different : place ≠ above ++ [name] := fun same => outside (same ▸ List.prefix_refl _)
    have same : after.entryAt? place = before.entryAt? place := by
      rw [stores.others place different]
      refine (raises.made place).resolve_right fun made => ?_
      exact outside (made.1.trans (List.prefix_append _ _))
    refine ⟨same, viewAt?_congr same fun other there => ?_⟩
    rw [kept other (foreign different there), content?, content?, raises.contents]
  · intro place other there
    by_cases here : place = above ++ [name]
    · rw [here] at there ⊢
      rw [present] at there
      cases there
      exact origin
    · exact .inl (others place here nofun there)

/-- What is brought afterwards leaves what was brought before. -/
theorem Brings.append (first : Brings load before between) (second : Brings more between after)
    (apart : ∀ pair ∈ load, ∀ other ∈ more, ¬ pair.1 <+: other.1) : Brings (load ++ more) before after where
  grows := first.grows.trans second.grows
  sound := second.sound
  next := Nat.le_trans first.next second.next
  held pair member := by
    rcases List.mem_append.1 member with early | late
    · rw [(second.others pair.1 (apart pair early)).2]
      exact first.held pair early
    · exact second.held pair late
  alone pair member := by
    rcases List.mem_append.1 member with early | late
    · intro other number here there
      rw [(second.others pair.1 (apart pair early)).1] at here
      rcases second.fresh there with old | new
      · exact first.alone pair early other number here old
      · exact absurd (first.sound.numbered here).1 (Nat.not_lt_of_le new)
    · exact second.alone pair late
  above pair member place within proper := by
    rcases List.mem_append.1 member with early | late
    · exact second.grows.isDirectory (first.above pair early place within proper)
    · exact second.above pair late place within proper
  others spot aside := by
    have early := first.others spot fun pair member => aside pair (List.mem_append_left _ member)
    have late := second.others spot fun pair member => aside pair (List.mem_append_right _ member)
    exact ⟨late.1.trans early.1, late.2.trans early.2⟩
  fresh there := by
    rcases second.fresh there with old | new
    · exact first.fresh old
    · exact .inr (Nat.le_trans first.next new)

/-- Where other files were brought, there is still room for those that are apart from them. -/
theorem Brings.fits (brings : Brings load before after) {spots : List Spot} (sound : before.IsSound)
    (fits : before.Fits spots) (apart : ∀ pair ∈ load, ∀ spot ∈ spots, ¬ pair.1 <+: spot ∧ ¬ spot <+: pair.1) :
    after.Fits spots := by
  have same (spot : Spot) (member : spot ∈ spots) : after.entryAt? spot = before.entryAt? spot :=
    (brings.others spot fun pair among => (apart pair among spot member).2).1
  refine ⟨⟨fun spot member place within proper => ?_, fun spot member => ?_, fits.apart⟩, fun spot member => ?_⟩
  · by_cases way : ∃ pair ∈ load, place <+: pair.1
    · obtain ⟨pair, among, higher⟩ := way
      refine .inr (brings.above pair among place higher ?_)
      rintro rfl
      exact (apart pair among spot member).1 within
    · rw [(brings.others place fun pair among higher => way ⟨pair, among, higher⟩).1]
      exact (fits.above spot member place within proper).imp_right brings.grows.isDirectory
  · rw [same spot member]
    exact fits.free spot member
  · intro other number here there
    rw [same spot member] at here
    rcases brings.fresh there with old | new
    · exact fits.alone spot member other number here old
    · exact absurd (sound.numbered here).1 (Nat.not_lt_of_le new)

/-- What was brought can be brought again. -/
theorem Brings.fits_again (brings : Brings load before after) (fits : before.Fits (load.map Prod.fst)) :
    after.Fits (load.map Prod.fst) where
  above spot member place within proper := by
    obtain ⟨pair, among, rfl⟩ := List.mem_map.1 member
    exact .inr (brings.above pair among place within proper)
  free spot member := by
    obtain ⟨pair, among, rfl⟩ := List.mem_map.1 member
    obtain ⟨number, present, _⟩ := (viewAt?_eq_file_iff after pair.1 pair.2).1 (brings.held pair among)
    exact .inr ⟨number, present⟩
  alone spot member := by
    obtain ⟨pair, among, rfl⟩ := List.mem_map.1 member
    exact brings.alone pair among
  apart := fits.apart

/-- Nothing else has changed. -/
theorem Brings.frame (brings : Brings load before after) {spot : Spot}
    (standing : before.isDirectory spot = true ∨ ∀ pair ∈ load, ¬ spot <+: pair.1) :
    after.entryAt? spot = before.entryAt? spot ∧ after.viewAt? spot = before.viewAt? spot := by
  rcases standing with directory | outside
  · obtain ⟨serial, mode, present⟩ := entryAt?_of_isDirectory directory
    have same := (brings.grows.kept present).trans present.symm
    refine ⟨same, viewAt?_congr same fun number there => ?_⟩
    rw [present] at there
    cases there
  · exact brings.others spot outside

/-- To bring the same files once more changes nothing. -/
theorem Brings.again {final : FileSystem} (brings : Brings load before after) (again : Brings load after final)
    (spot : Spot) :
    final.entryAt? spot = after.entryAt? spot ∧ final.viewAt? spot = after.viewAt? spot := by
  by_cases here : ∃ pair ∈ load, spot = pair.1
  · obtain ⟨pair, member, rfl⟩ := here
    have first := brings.held pair member
    obtain ⟨number, present, _⟩ := (viewAt?_eq_file_iff after pair.1 pair.2).1 first
    exact ⟨(again.grows.kept present).trans present.symm, (again.held pair member).trans first.symm⟩
  · have aside (pair : Spot × Content) (member : pair ∈ load) : spot ≠ pair.1 :=
      fun same => here ⟨pair, member, same⟩
    refine again.frame ?_
    by_cases way : ∃ pair ∈ load, spot <+: pair.1
    · obtain ⟨pair, member, within⟩ := way
      exact .inl (brings.above pair member spot within (aside pair member))
    · exact .inr fun pair member within => way ⟨pair, member, within⟩

end

end Bookbinder.FileSystem
