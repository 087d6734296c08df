import Bookbinder.Proofs.FileSystem.SpotText

/-!
What the real path of a name is. Main statement: where a row of names leads, links followed, is what its
real path says, as long as the text of every link is short enough to be looked up.
-/

set_option autoImplicit false

namespace Bookbinder.FileSystem

/-- Every link can be looked up by the text of its spot. -/
def LinksAreShort (files : FileSystem) : Prop :=
  ∀ spot target, files.signAt? spot = some (.link target) → (spotText spot).utf8ByteSize < pathLimit

theorem LinksAreShort.of_entries {files : FileSystem}
    (short : ∀ pair ∈ files.entries, (spotText pair.1).utf8ByteSize < pathLimit) : files.LinksAreShort :=
  fun spot target link => short _ (mem_entries ((signAt?_eq_link_iff files spot target).1 link))

/-- No link turns a walk along names that are clear up to the last one. -/
theorem place_of_walkOn_concat {files : FileSystem} {budget : Nat} {start place : Spot} {names : List String}
    {name : String} (clear : files.IsClear (start ++ names)) (down : Descends names) (next : LeadsDown name)
    (walked : files.walkOn false budget start (names ++ [name]) = .ok (.occupied place)) :
    place = start ++ names ++ [name] := by
  rcases walkOn_append files budget start names with ⟨middle, left, first, _, onward⟩ | ⟨_, onward⟩
  · obtain ⟨count, leads⟩ :=
      leads_of_walkOn (fun part member => ⟨(down part member).some, (down part member).noSlash⟩) first
    have here : middle = start ++ names := (leads.unique (clear.leads down rfl)).2
    rw [onward false [name] (by simp), here] at walked
    exact walkOn_name next walked
  · obtain ⟨errno, refused⟩ := onward false [name] (by simp)
    rw [refused] at walked
    cases walked

theorem locate_spotText {files : FileSystem} (cwd : WorkingDirectory) (follow : Bool) {spot : Spot}
    (down : Descends spot) (some : spot ≠ []) (short : (spotText spot).utf8ByteSize < pathLimit) :
    files.locate cwd follow (spotText spot) = files.walkOn follow mostLinks [] spot := by
  have anchored : (spotText spot).toList.head? = Option.some '/' := by simp [toList_spotText]
  rw [locate, if_neg (spotText_ne_empty spot), if_neg (Nat.not_le_of_lt short), if_pos anchored,
    components_spotText (isName_of_leadsDown down), if_neg some]

/-- From the root to a name in a directory is from that directory to the name. -/
theorem IsTree.locate_child {files : FileSystem} (tree : files.IsTree) {spot : Spot} {name : String}
    (directory : files.isDirectory spot = true) (next : IsSpot [name])
    (short : (spotText (spot ++ [name])).utf8ByteSize < pathLimit) (cwd : WorkingDirectory) (follow : Bool) :
    files.locate cwd follow (spotText (spot ++ [name])) = files.walkOn follow mostLinks spot [name] := by
  obtain ⟨serial, mode, present⟩ := entryAt?_of_isDirectory directory
  have valid := tree.isSpot present
  obtain ⟨plain, notUp, _⟩ := next name (by simp)
  have down : Descends (spot ++ [name]) := (tree.leadsDown present).concat (.of_isName plain notUp)
  have arrives : files.walk true [] spot = .arrived (.occupied spot) := by
    refine walk_of_directories true [] valid fun place above => ?_
    rw [List.nil_append]
    by_cases same : place = spot
    · rw [same]
      exact directory
    · exact tree.isDirectory_of_prefix present above same
  have onward := walk_append files follow [] spot (List.cons_ne_nil name [])
  rw [arrives] at onward
  rw [locate_spotText cwd follow down (by simp) short, walkOn, walkOn, onward]

/-- A link is found by the text of its spot, and nothing else is taken for one. -/
theorem linkTarget?_spotText {files : FileSystem} (tree : files.IsTree) (cwd : WorkingDirectory)
    {spot : Spot} {name target : String} (clear : files.IsClear spot) (down : Descends spot)
    (next : LeadsDown name)
    (short : files.signAt? (spot ++ [name]) = some (.link target) →
      (spotText (spot ++ [name])).utf8ByteSize < pathLimit) :
    files.linkTarget? cwd (spotText (spot ++ [name])) = some target ↔
      files.signAt? (spot ++ [name]) = some (.link target) := by
  have all := down.concat next
  constructor
  · intro found
    unfold linkTarget? at found
    split at found
    · next place located =>
      split at found
      · next held present =>
        cases found
        by_cases fits : (spotText (spot ++ [name])).utf8ByteSize < pathLimit
        · rw [locate_spotText cwd false all (by simp) fits] at located
          have there := @place_of_walkOn_concat files _ [] place spot name clear down next located
          rw [List.nil_append] at there
          rw [← there]
          exact (signAt?_eq_link_iff files place _).2 present
        · rw [locate, if_neg (spotText_ne_empty _), if_pos (Nat.le_of_not_lt fits)] at located
          cases located
      · cases found
    · cases found
  · intro link
    have present := (signAt?_eq_link_iff files _ _).1 link
    have above : ∀ place, place <+: spot → files.isDirectory ([] ++ place) = true := by
      intro place before
      refine tree.isDirectory_of_prefix present (before.trans (List.prefix_append spot [name])) ?_
      rintro rfl
      have length := before.length_le
      rw [List.length_append, List.length_singleton] at length
      omega
    have valid : IsSpot spot := fun part member =>
      tree.isSpot present part (List.mem_append_left [name] member)
    have directory := above spot (List.prefix_refl spot)
    have arrived := walk_of_directories true [] valid above
    have last := tree.isSpot present name (by simp)
    have walked : files.walk false [] (spot ++ [name]) = .arrived (.occupied (spot ++ [name])) := by
      rw [walk_append files false [] spot (by simp), arrived]
      simp only [List.nil_append] at directory ⊢
      rw [walk_down false [] directory next.notDot next.notUp last.2.2, link]
      simp
    rw [linkTarget?, locate_spotText cwd false all (by simp) (short link),
      walkOn_of_arrived mostLinks walked]
    simp only [present]

/-! ### Real paths -/

namespace Leads

variable {files : FileSystem} {region : Spot → Prop} {count : Nat} {start goal : Spot}
  {names : List String}

theorem isClear (leads : Leads files region count start names goal) (clear : files.IsClear start) :
    files.IsClear goal := by
  induction leads with
  | done => exact clear
  | stay _ _ ih => exact ih clear
  | up _ ih => exact ih (clear.of_prefix (List.dropLast_prefix _))
  | plain _ _ noLink _ ih => exact ih (clear.snoc noLink)
  | link _ _ _ _ _ ihFollows ihOnward =>
    refine ihOnward (ihFollows ?_)
    unfold linkRoot
    split
    · exact clear.of_prefix List.nil_prefix
    · exact clear

theorem leadsDown (leads : Leads files region count start names goal)
    (down : Descends start) : Descends goal := by
  induction leads with
  | done => exact down
  | stay _ _ ih => exact ih down
  | up _ ih => exact ih (down.of_prefix (List.dropLast_prefix _))
  | plain next _ _ _ ih => exact ih (down.concat next)
  | link _ _ _ _ _ ihFollows ihOnward =>
    refine ihOnward (ihFollows ?_)
    unfold linkRoot
    split
    · exact down.of_prefix List.nil_prefix
    · exact down

end Leads

/-- Links that are being followed: no two are one, and each leads past so many links at least. -/
structure Pending (files : FileSystem) (count : Nat) (pending : List Spot) : Prop where
  nodup : pending.Nodup
  leads : ∀ spot ∈ pending, ∃ target inside goal, files.signAt? spot = some (.link target) ∧
    Leads files anywhere inside (linkRoot spot.dropLast target) (PathText.parts target) goal ∧
    count ≤ inside

theorem Pending.mono {files : FileSystem} {count fewer : Nat} {pending : List Spot}
    (open_ : files.Pending count pending) (fits : fewer ≤ count) : files.Pending fewer pending where
  nodup := open_.nodup
  leads spot member := by
    obtain ⟨target, inside, goal, link, leads, bound⟩ := open_.leads spot member
    exact ⟨target, inside, goal, link, leads, Nat.le_trans fits bound⟩

/-- One more link is followed, which leads past fewer links than those before it. -/
theorem Pending.cons {files : FileSystem} {count inside : Nat} {pending : List Spot} {start goal : Spot}
    {name target : String} (open_ : files.Pending count pending) (fewer : inside < count)
    (link : files.signAt? (start ++ [name]) = some (.link target))
    (leads : Leads files anywhere inside (linkRoot start target) (PathText.parts target) goal) :
    files.Pending inside ((start ++ [name]) :: pending) where
  nodup := by
    refine List.nodup_cons.2 ⟨fun again => ?_, open_.nodup⟩
    obtain ⟨target', inside', goal', link', leads', bound⟩ := open_.leads _ again
    rw [link] at link'
    cases link'
    rw [List.dropLast_concat] at leads'
    obtain ⟨same, _⟩ := leads.unique leads'
    omega
  leads spot member := by
    rcases List.mem_cons.1 member with rfl | before
    · refine ⟨target, inside, goal, link, ?_, Nat.le_refl inside⟩
      rw [List.dropLast_concat]
      exact leads
    · exact (open_.mono (Nat.le_of_lt fewer)).leads spot before

/-- There are not more links to be followed than there are entries. -/
theorem Pending.length_le {files : FileSystem} {count : Nat} {pending : List Spot}
    (open_ : files.Pending count pending) : pending.length ≤ files.entries.length := by
  have inside : pending ⊆ files.entries.map Prod.fst := by
    intro spot member
    obtain ⟨target, _, _, link, _⟩ := open_.leads spot member
    exact List.mem_map_of_mem (mem_entries ((signAt?_eq_link_iff files spot target).1 link))
  have bound := open_.nodup.length_le_of_subset inside
  rwa [List.length_map] at bound

/-- What is known of links that were met is true. -/
structure Met.Knows (met : Met) (files : FileSystem) (pending : List Spot) : Prop where
  known : ∀ {text known : String}, Pairs.get? met text = some (some known) →
    ∃ spot target count goal, files.signAt? spot = some (.link target) ∧
      Leads files anywhere count (linkRoot spot.dropLast target) (PathText.parts target) goal ∧
      text = spotText spot ∧ known = spotText goal
  followed : ∀ {text : String}, Pairs.get? met text = some none →
    ∃ spot ∈ pending, text = spotText spot

namespace Met.Knows

variable {met : Met} {files : FileSystem} {pending : List Spot}

/-- A link begins to be followed. -/
theorem begin_ (knows : met.Knows files pending) (spot : Spot) :
    Met.Knows (Pairs.put met (spotText spot) none) files (spot :: pending) where
  known {text known} found := by
    rw [Pairs.get?_put] at found
    split at found
    · cases found
    · exact knows.known found
  followed {text} found := by
    rw [Pairs.get?_put] at found
    split at found
    · next same => exact ⟨spot, List.mem_cons_self, same.symm⟩
    · obtain ⟨other, member, same⟩ := knows.followed found
      exact ⟨other, List.mem_cons_of_mem _ member, same⟩

/-- It has been followed to its end. -/
theorem finish {spot goal : Spot} {target : String} {count : Nat}
    (knows : met.Knows files (spot :: pending)) (link : files.signAt? spot = some (.link target))
    (leads : Leads files anywhere count (linkRoot spot.dropLast target) (PathText.parts target) goal) :
    Met.Knows (Pairs.put met (spotText spot) (some (spotText goal))) files pending where
  known {text known} found := by
    rw [Pairs.get?_put] at found
    split at found
    · next same =>
      cases found
      exact ⟨spot, target, count, goal, link, leads, same.symm, rfl⟩
    · exact knows.known found
  followed {text} found := by
    rw [Pairs.get?_put] at found
    split at found
    · cases found
    · next other =>
      obtain ⟨place, member, same⟩ := knows.followed found
      rcases List.mem_cons.1 member with rfl | before
      · exact absurd same.symm other
      · exact ⟨place, before, same⟩

end Met.Knows

/-! ### One part after the other -/

theorem resolve_nil (files : FileSystem) (cwd : WorkingDirectory) (depth : Nat) (path : String) (met : Met) :
    files.resolve cwd depth path [] met = ⟨path, true, met⟩ := by
  cases depth <;> rfl

theorem resolve_stay (files : FileSystem) (cwd : WorkingDirectory) (depth : Nat) (path : String) {part : String}
    (still : part = "" ∨ part = ".") (rest : List String) (met : Met) :
    files.resolve cwd depth path (part :: rest) met = files.resolve cwd depth path rest met := by
  cases depth <;> exact if_pos still

theorem resolve_up (files : FileSystem) (cwd : WorkingDirectory) (depth : Nat) (path : String)
    (rest : List String) (met : Met) :
    files.resolve cwd depth path (".." :: rest) met = files.resolve cwd depth (stepUp path) rest met := by
  cases depth <;> rfl

section

variable {files : FileSystem} {cwd : WorkingDirectory} {path part : String}

theorem resolve_plain (next : LeadsDown part)
    (plain : files.linkTarget? cwd (PathText.join path part) = none) (depth : Nat) (rest : List String)
    (met : Met) :
    files.resolve cwd depth path (part :: rest) met =
      files.resolve cwd depth (PathText.join path part) rest met := by
  have still : ¬ (part = "" ∨ part = ".") := fun still => still.elim next.some next.notDot
  cases depth <;> simp only [resolve, resolveParts, still, next.notUp, if_false, plain]

theorem resolve_known (next : LeadsDown part) {target known : String}
    (link : files.linkTarget? cwd (PathText.join path part) = some target) {met : Met}
    (held : Pairs.get? met (PathText.join path part) = some (some known)) (depth : Nat)
    (rest : List String) :
    files.resolve cwd depth path (part :: rest) met = files.resolve cwd depth known rest met := by
  have still : ¬ (part = "" ∨ part = ".") := fun still => still.elim next.some next.notDot
  cases depth <;> simp only [resolve, resolveParts, still, next.notUp, if_false, link, held]

/-- A link that is met for the first time is followed to its end. -/
theorem resolve_link (next : LeadsDown part) {target : String}
    (link : files.linkTarget? cwd (PathText.join path part) = some target) {met later : Met}
    (new : Pairs.get? met (PathText.join path part) = none) {depth : Nat} {known : String}
    (found : files.resolve cwd depth (linkStart path target).1 (linkStart path target).2
      (Pairs.put met (PathText.join path part) none) = ⟨known, true, later⟩) (rest : List String) :
    files.resolve cwd (depth + 1) path (part :: rest) met =
      files.resolve cwd (depth + 1) known rest (Pairs.put later (PathText.join path part) (some known)) := by
  have still : ¬ (part = "" ∨ part = ".") := fun still => still.elim next.some next.notDot
  simp only [resolve, resolveParts, still, next.notUp, if_false, link, new, found, if_true]

end

/-- A link is followed from the text of where its target starts. -/
theorem resolve_linkStart (files : FileSystem) (cwd : WorkingDirectory) (depth : Nat) (start : Spot)
    (target : String) (met : Met) :
    files.resolve cwd depth (linkStart (spotText start) target).1 (linkStart (spotText start) target).2
        met =
      files.resolve cwd depth (spotText (linkRoot start target)) (PathText.parts target) met := by
  by_cases anchored : target.toList.head? = some '/'
  · obtain ⟨rest, chars⟩ : ∃ rest, target.toList = '/' :: rest := by
      cases chars : target.toList with
      | nil => simp [chars] at anchored
      | cons c rest =>
        simp only [chars, List.head?_cons, Option.some.injEq] at anchored
        exact ⟨rest, by rw [anchored]⟩
    have parts : PathText.parts target = "" :: PathText.parts (String.ofList rest) := by
      simp [PathText.parts, chars, Text.splitOn]
    have start_ : linkStart (spotText start) target = ("/", PathText.parts (String.ofList rest)) := by
      simp [linkStart, PathText.isAnchored, chars]
    rw [start_, linkRoot, if_pos anchored, parts, resolve_stay files cwd depth _ (.inl rfl)]
    rfl
  · have start_ : linkStart (spotText start) target = (spotText start, PathText.parts target) := by
      simp [linkStart, PathText.isAnchored, anchored]
    rw [start_, linkRoot, if_neg anchored]

/-- Resolving the parts of a path comes to where they lead. -/
theorem resolve_of_leads {files : FileSystem} {region : Spot → Prop} (tree : files.IsTree)
    (short : ∀ spot target, region spot → files.signAt? spot = some (.link target) →
      (spotText spot).utf8ByteSize < pathLimit)
    (cwd : WorkingDirectory) {count : Nat} {start goal : Spot}
    {names : List String} (leads : Leads files region count start names goal)
    (clear : files.IsClear start) (down : Descends start) {depth : Nat} {pending : List Spot} {met : Met}
    (open_ : files.Pending count pending) (deep : files.entries.length ≤ depth + pending.length)
    (knows : met.Knows files pending) :
    ∃ after, files.resolve cwd depth (spotText start) names met = ⟨spotText goal, true, after⟩ ∧
      after.Knows files pending := by
  induction leads generalizing depth pending met with
  | done start =>
    rw [resolve_nil]
    exact ⟨met, rfl, knows⟩
  | stay still onward ih =>
    rw [resolve_stay files cwd depth _ still]
    exact ih clear down open_ deep knows
  | up onward ih =>
    rw [resolve_up, stepUp_spotText down]
    exact ih (clear.of_prefix (List.dropLast_prefix _)) (down.of_prefix (List.dropLast_prefix _)) open_
      deep knows
  | @plain count start goal name rest next within noLink onward ih =>
    have none_ : files.linkTarget? cwd (spotText (start ++ [name])) = none := by
      cases found : files.linkTarget? cwd (spotText (start ++ [name])) with
      | none => rfl
      | some target =>
        have same := linkTarget?_spotText tree cwd clear down next (short _ target within)
        exact absurd (same.1 found) (noLink target)
    rw [← join_spotText down next] at none_
    rw [resolve_plain next none_, join_spotText down next]
    exact ih (clear.snoc noLink) (down.concat next) open_ deep knows
  | @link inside after start middle goal name target rest next within link follows onward ihFollows
      ihOnward =>
    have found := (linkTarget?_spotText tree cwd clear down next (short _ target within)).2 link
    have inner : Leads files anywhere inside (linkRoot start target) (PathText.parts target) middle :=
      follows.mono (fun _ _ => trivial) fun _ _ _ => Iff.rfl
    have all := down.concat next
    rw [← join_spotText down next] at found
    have clearRoot : files.IsClear (linkRoot start target) := by
      unfold linkRoot
      split
      · exact clear.of_prefix List.nil_prefix
      · exact clear
    have downRoot : Descends (linkRoot start target) := by
      unfold linkRoot
      split
      · exact down.of_prefix List.nil_prefix
      · exact down
    have clearMiddle := follows.isClear clearRoot
    have downMiddle := follows.leadsDown downRoot
    have fewer := open_.mono (show after ≤ inside + after + 1 by omega)
    have here := join_spotText down next
    cases held : Pairs.get? met (spotText (start ++ [name])) with
    | none =>
      -- the link is new, so there are links left to be followed
      have deeper := open_.cons (show inside < inside + after + 1 by omega) link inner
      have room := deeper.length_le
      rw [List.length_cons] at room
      obtain ⟨depth, rfl⟩ : ∃ fewer, depth = fewer + 1 := ⟨depth - 1, by omega⟩
      obtain ⟨met', resolved, knows'⟩ := ihFollows clearRoot downRoot deeper
        (show files.entries.length ≤ depth + ((start ++ [name]) :: pending).length by
          rw [List.length_cons]
          omega)
        (knows.begin_ (start ++ [name]))
      have finished := knows'.finish link (by rw [List.dropLast_concat]; exact inner)
      rw [← resolve_linkStart, ← here] at resolved
      rw [← here] at held
      rw [resolve_link next found held resolved, here]
      exact ihOnward clearMiddle downMiddle fewer deep finished
    | some state =>
      cases state with
      | none =>
        -- a link that is being followed leads past more links than this one
        obtain ⟨spot, member, same⟩ := knows.followed held
        obtain ⟨target', count, place, link', leads', bound⟩ := open_.leads spot member
        have spots := spotText_inj all (tree.leadsDown_of_signAt? link') same
        rw [← spots, link] at link'
        cases link'
        rw [← spots, List.dropLast_concat] at leads'
        obtain ⟨costs, _⟩ := leads'.unique follows
        omega
      | some known =>
        obtain ⟨spot, target', count, place, link', leads', same, there⟩ := knows.known held
        have spots := spotText_inj all (tree.leadsDown_of_signAt? link') same
        rw [← spots, link] at link'
        cases link'
        rw [← spots, List.dropLast_concat] at leads'
        obtain ⟨_, rfl⟩ := leads'.unique follows
        rw [← here, there] at held
        rw [resolve_known next found held]
        exact ihOnward clearMiddle downMiddle fewer deep knows

theorem join_of_not_isAnchored {spot : Spot} {name : String} (root : spot ≠ []) (down : Descends spot)
    (plain : PathText.isAnchored name = false) :
    PathText.join (spotText spot) name = spotText spot ++ "/" ++ name := by
  simp [PathText.join, plain, endsInSlash_spotText root down, spotText_ne_empty]

/-- The real path of an absolute path is where its parts lead from the root. -/
theorem realPath_of_leads {files : FileSystem} {region : Spot → Prop} (tree : files.IsTree)
    (short : ∀ spot target, region spot → files.signAt? spot = some (.link target) →
      (spotText spot).utf8ByteSize < pathLimit)
    (cwd : WorkingDirectory) {path : String} {goal : Spot} {count : Nat} (clear : files.IsClear [])
    (anchored : path.toList.head? = some '/')
    (leads : Leads files region count [] (PathText.parts path) goal) :
    files.realPath cwd path = .ok (spotText goal) := by
  have down : Descends [] := nofun
  have start : linkStart "" path = linkStart (spotText []) path := by
    have absolute : PathText.isAnchored path = true := by simp [PathText.isAnchored, anchored]
    rw [linkStart, linkStart, if_pos absolute, if_pos absolute]
  have first : linkRoot [] path = [] := if_pos anchored
  have open_ : files.Pending count [] := ⟨List.nodup_nil, by simp⟩
  have knows : Met.Knows [] files [] :=
    ⟨fun none => (Option.some_ne_none _ none.symm).elim, fun none => (Option.some_ne_none _ none.symm).elim⟩
  have deep : files.entries.length ≤ files.linkDepth + ([] : List Spot).length := by
    simp only [linkDepth, textsOfLink]
    omega
  obtain ⟨met, resolved, _⟩ := resolve_of_leads tree short cwd leads clear down open_ deep knows
  have found : (files.resolve cwd files.linkDepth (linkStart "" path).1 (linkStart "" path).2 []).path =
      spotText goal := by
    rw [start, resolve_linkStart, first, resolved]
  rw [realPath]
  simp only [found, isAnchored_spotText, normalise_spotText (leads.leadsDown down), if_true]

/-- The real path of a spot that no link is on the way to is the text of the spot. -/
theorem realPath_spotText {files : FileSystem} (tree : files.IsTree) (cwd : WorkingDirectory) {spot : Spot}
    (root : spot ≠ []) (clear : files.IsClear spot) (down : Descends spot) :
    files.realPath cwd (spotText spot) = .ok (spotText spot) := by
  have plainly : Leads files (fun place => place <+: spot) 0 [] ("" :: spot) spot :=
    .stay (.inl rfl) (clear.leads down rfl)
  rw [← parts_spotText root down] at plainly
  refine realPath_of_leads tree (fun place target within link => ?_) cwd
    (clear.of_prefix List.nil_prefix) (by simp [toList_spotText]) plainly
  exact absurd link (clear place within target)

/-- The real path of a name in a directory is where the name leads from there. -/
theorem realPath_join {files : FileSystem} (tree : files.IsTree) (short : files.LinksAreShort)
    (cwd : WorkingDirectory) {spot goal : Spot} {name : String} {count : Nat} (root : spot ≠ [])
    (clear : files.IsClear spot) (down : Descends spot) (plain : PathText.isAnchored name = false)
    (leads : Leads files anywhere count spot (PathText.parts name) goal) :
    files.realPath cwd (PathText.join (spotText spot) name) = .ok (spotText goal) := by
  have parts : PathText.parts (spotText spot ++ "/" ++ name) = "" :: (spot ++ PathText.parts name) := by
    rw [parts_append_slash, parts_spotText root down, List.cons_append]
  have whole : Leads files anywhere (0 + count) [] ("" :: (spot ++ PathText.parts name)) goal :=
    .stay (.inl rfl) (.append ((clear.leads down rfl).mono (fun _ _ => trivial) fun _ _ _ => Iff.rfl) leads)
  rw [← parts] at whole
  rw [join_of_not_isAnchored root down plain]
  exact realPath_of_leads tree (fun place target _ => short place target) cwd
    (clear.of_prefix List.nil_prefix) (by simp [toList_spotText]) whole

theorem commonNames_append (names more : List String) : PathText.commonNames (names ++ more) names = names := by
  induction names with
  | nil => cases more <;> rfl
  | cons name rest ih => simp [PathText.commonNames, ih]

theorem filter_parts_spotText {spot : Spot} (down : Descends spot) :
    (PathText.parts (spotText spot)).filter (fun part => part != "" && part != ".") = spot := by
  by_cases root : spot = []
  · subst root
    decide
  · rw [parts_spotText root down, List.filter_cons_of_neg (by simp), List.filter_eq_self]
    intro name member
    simp [(down name member).some, (down name member).notDot]

/-- One spot is in another if its names come first. -/
theorem leadsInto_spotText_iff {spot place : Spot} (down : Descends spot) (downPlace : Descends place) :
    PathText.leadsInto (spotText spot) (spotText place) = true ↔ spot <+: place := by
  rw [PathText.leadsInto]
  simp only [filter_parts_spotText down, filter_parts_spotText downPlace, beq_iff_eq]
  obtain ⟨before, after⟩ := PathText.commonNames_prefix place spot
  constructor
  · intro same
    rw [← spotText_inj (down.of_prefix after) down same]
    exact before
  · rintro ⟨more, rfl⟩
    rw [commonNames_append]
    rfl

end Bookbinder.FileSystem
