import Bookbinder.FileSystem.Changes
import Bookbinder.Proofs.FileSystem.Trees

/-!
Files that have changed in one place only, and names that stay in that place. Main statements: what is
made, changed or taken away in the place leaves everything outside as it was, and after that the names
still stay there.
-/

set_option autoImplicit false

namespace Bookbinder.FileSystem

/-- Nothing but a place has changed, and no file in it is one outside. -/
structure Contained (before : FileSystem) (home : Spot) (files : FileSystem) : Prop where
  tree : files.IsTree
  standing : files.isDirectory home = true
  entries : ∀ {spot : Spot}, ¬ home <+: spot → files.entryAt? spot = before.entryAt? spot
  contents : ∀ {spot : Spot} {number : Nat}, ¬ home <+: spot →
    before.entryAt? spot = some (.file number) → files.content? number = before.content? number
  apart : ∀ {spot other : Spot} {number : Nat}, home <+: spot → ¬ home <+: other →
    files.entryAt? spot = some (.file number) → before.entryAt? other ≠ some (.file number)
  fresh : ∀ {spot : Spot} {number : Nat}, ¬ home <+: spot →
    before.entryAt? spot = some (.file number) → number < files.next

/-- A directory that shares no file with what is outside of it. -/
structure IsSeparate (files : FileSystem) (home : Spot) : Prop where
  tree : files.IsTree
  standing : files.isDirectory home = true
  apart : ∀ {spot other : Spot} {number : Nat}, home <+: spot → ¬ home <+: other →
    files.entryAt? spot = some (.file number) → files.entryAt? other ≠ some (.file number)
  fresh : ∀ {spot : Spot} {number : Nat}, files.entryAt? spot = some (.file number) → number < files.next

theorem IsSeparate.contained {files : FileSystem} {home : Spot} (separate : files.IsSeparate home) :
    Contained files home files :=
  ⟨separate.tree, separate.standing, fun _ => rfl, fun _ _ => rfl, separate.apart,
    fun _ present => separate.fresh present⟩

/-- Without regular files there is nothing to share. -/
theorem IsSeparate.of_entries {files : FileSystem} {home : Spot} (tree : files.IsTree)
    (standing : files.isDirectory home = true)
    (noFile : ∀ pair ∈ files.entries, Sign.ofEntry pair.2 = .leaf → pair.2 = .shell ∨ pair.2 = .sink) :
    files.IsSeparate home := by
  have never {spot : Spot} {number : Nat} (present : files.entryAt? spot = some (.file number)) : False := by
    rcases noFile _ (mem_entries present) rfl with other | other <;> cases other
  exact ⟨tree, standing, fun _ _ present => (never present).elim, fun present => (never present).elim⟩

theorem signAt?_putMode {files : FileSystem} {spot : Spot} {serial mode : Nat}
    (present : files.entryAt? spot = some (.directory serial mode)) (new : Nat) (other : Spot) :
    (files.putEntry spot (.directory serial new)).signAt? other = files.signAt? other := by
  rw [signAt?, entryAt?_putEntry]
  split
  · next here =>
    rw [← here, signAt?, present]
    rfl
  · rfl

namespace Contained

variable {before files after : FileSystem} {home spot : Spot}

theorem signAt? (contained : Contained before home files) (outside : ¬ home <+: spot) :
    files.signAt? spot = before.signAt? spot := by
  rw [FileSystem.signAt?, contained.entries outside]
  rfl

/-- What can be seen outside is what could be seen before. -/
theorem viewAt? (contained : Contained before home files) (outside : ¬ home <+: spot) :
    files.viewAt? spot = before.viewAt? spot := by
  unfold FileSystem.viewAt?
  rw [contained.entries outside]
  cases present : before.entryAt? spot with
  | none => rfl
  | some entry =>
    cases entry with
    | file number => simp only [contained.contents outside present]
    | _ => rfl

/-- Something new stands in the place. A second name is given to files of the place only. -/
theorem of_gains (contained : Contained before home files) {directory : Spot} {name : String}
    {entry : Entry} (gains : Gains files after (directory ++ [name]) entry)
    (vacancy : files.Vacancy directory name) (inside : home <+: directory ++ [name])
    (contents : ∀ number, number < files.next → after.content? number = files.content? number)
    (next : files.next ≤ after.next)
    (own : ∀ number, entry = .file number → number = files.next ∨
      ∃ spot, home <+: spot ∧ files.entryAt? spot = some (.file number)) :
    Contained before home after where
  tree := contained.tree.of_gains gains vacancy
  standing := gains.isDirectory_of_true contained.standing
  entries {spot} outside := by
    rw [gains.entryAt?, if_neg, contained.entries outside]
    rintro rfl
    exact outside inside
  contents outside present := by
    rw [contents _ (contained.fresh outside present), contained.contents outside present]
  apart {spot other number} within outside present shared := by
    rw [gains.entryAt?] at present
    split at present
    · cases present
      rcases own number rfl with fresh | ⟨place, there, held⟩
      · have small := contained.fresh outside shared
        omega
      · exact contained.apart there outside held shared
    · exact contained.apart within outside present shared
  fresh outside present := Nat.lt_of_lt_of_le (contained.fresh outside present) next

theorem removeEntry (contained : Contained before home files) (inside : home <+: spot)
    (notDirectory : files.isDirectory spot = false) : Contained before home (files.removeEntry spot) := by
  have loses : Loses files (files.removeEntry spot) spot := ⟨entryAt?_removeEntry files spot⟩
  have kept : home ≠ spot := by
    rintro rfl
    rw [contained.standing] at notDirectory
    cases notDirectory
  obtain ⟨serial, mode, here⟩ := entryAt?_of_isDirectory contained.standing
  constructor
  · exact contained.tree.of_loses loses notDirectory
  · simp [isDirectory, loses.entryAt?, kept, here]
  · intro other outside
    rw [loses.entryAt?, if_neg, contained.entries outside]
    rintro rfl
    exact outside inside
  · exact contained.contents
  · intro place other number within outside present
    exact contained.apart within outside (loses.entryAt?_of_some present)
  · exact contained.fresh

/-- A file of the place holds something else, or has other permission bits. -/
theorem putContent (contained : Contained before home files) (inside : home <+: spot) {number : Nat}
    (present : files.entryAt? spot = some (.file number)) (content : Content) :
    Contained before home (files.putContent number content) where
  tree := contained.tree.congr fun _ => rfl
  standing := contained.standing
  entries := contained.entries
  contents {other held} outside there := by
    rw [content?_putContent, if_neg, contained.contents outside there]
    rintro rfl
    exact contained.apart inside outside present there
  apart := contained.apart
  fresh := contained.fresh

/-- A directory of the place has other permission bits. -/
theorem putMode (contained : Contained before home files) (inside : home <+: spot) {serial mode : Nat}
    (present : files.entryAt? spot = some (.directory serial mode)) (new : Nat) :
    Contained before home (files.putEntry spot (.directory serial new)) := by
  have same := signAt?_putMode present new
  constructor
  · exact contained.tree.congr same
  · rw [isDirectory_congr same]
    exact contained.standing
  · intro other outside
    rw [entryAt?_putEntry, if_neg, contained.entries outside]
    rintro rfl
    exact outside inside
  · exact contained.contents
  · intro place other number within outside held
    rw [entryAt?_putEntry] at held
    split at held
    · cases held
    · exact contained.apart within outside held
  · exact contained.fresh

end Contained

/-! ### Names that stay in a place -/

/-- What is missing on the way along names is missing in the place, and what they lead to is in it. -/
structure Confined (files : FileSystem) (home : Spot) (names : List String) : Prop where
  vacant : ∀ {part : List String} {follow : Bool} {budget : Nat} {directory : Spot} {name : String},
    part <+: names → files.walkOn follow budget home part = .ok (.vacant directory name) →
    home <+: directory ++ [name]
  occupied : ∀ {follow : Bool} {budget : Nat} {spot : Spot},
    files.walkOn follow budget home names = .ok (.occupied spot) → home <+: spot

/-- A walk along the first of some names comes to an end if one along all of them does. -/
theorem walkOn_of_prefix {files : FileSystem} {follow : Bool} {budget : Nat} {start directory : Spot}
    {names part : List String} {name : String} (first : part <+: names)
    (walked : files.walkOn follow budget start names = .ok (.vacant directory name)) (again : Bool) :
    ∃ location, files.walkOn again budget start part = .ok location := by
  have either {location : Location} (followed : files.walkOn true budget start part = .ok location) :
      ∃ location, files.walkOn again budget start part = .ok location := by
    cases again with
    | true => exact ⟨location, followed⟩
    | false =>
      rcases walkOn_nofollow followed with same | ⟨spot, occupied⟩
      · exact ⟨location, same⟩
      · exact ⟨.occupied spot, occupied⟩
  obtain ⟨more, rfl⟩ := first
  by_cases last : more = []
  · rw [last, List.append_nil] at walked
    exact either (walkOn_vacant_follow walked)
  · rcases walkOn_append files budget start part with ⟨spot, left, passed, _, _⟩ | ⟨_, refused⟩
    · exact either passed
    · obtain ⟨errno, error⟩ := refused follow more last
      rw [error] at walked
      cases walked

/-- Wherever names lead, it is in a place. -/
def Admitted (files : FileSystem) (home : Spot) (names : List String) : Prop :=
  ∀ count goal, Leads files anywhere count home names goal → home <+: goal

/-- Links outside a place lead to an end, and by no way through the place. -/
def LinksStayOutside (files : FileSystem) (home : Spot) : Prop :=
  ∀ spot target, ¬ home <+: spot → files.signAt? spot = some (.link target) →
    ∃ count goal, Leads files (fun other => ¬ home <+: other) count (linkRoot spot.dropLast target)
      (PathText.parts target) goal

theorem LinksStayOutside.of_contained {before files : FileSystem} {home : Spot}
    (aside : before.LinksStayOutside home) (contained : Contained before home files) :
    files.LinksStayOutside home := by
  intro spot target outside link
  rw [contained.signAt? outside] at link
  obtain ⟨count, goal, leads⟩ := aside spot target outside link
  exact ⟨count, goal, leads.mono (fun _ within => within) fun other target outside => by
    rw [contained.signAt? outside]⟩

namespace Confined

variable {files after : FileSystem} {home : Spot} {names : List String}

/-- Names that lead into a place stay in it if none of them is a step up. -/
theorem of_admitted (admitted : files.Admitted home names) (tree : files.IsTree)
    (standing : files.isDirectory home = true) (root : home ≠ []) (aside : files.LinksStayOutside home)
    (down : ".." ∉ names) (parts : ∀ name ∈ names, IsPart name) : files.Confined home names where
  vacant {part follow budget directory name} within walked := by
    have partsBefore : ∀ name ∈ part, IsPart name := fun name member => parts name (within.subset member)
    obtain ⟨count, before⟩ := leads_of_walkOn partsBefore (walkOn_vacant_follow walked)
    have vacancy := walkOn_vacant partsBefore walked
    have notDirectory : files.isDirectory (directory ++ [name]) = false := by
      simp [isDirectory, vacancy.absent]
    -- the other names lead on through what is empty, and the end is in the place
    obtain ⟨more, rfl⟩ := within
    obtain ⟨goal, onward, above⟩ := leads_of_isBare (tree.isBare notDirectory)
      (fun member => down (List.mem_append_right part member))
      (fun name member => parts name (List.mem_append_right part member))
    have inside := admitted _ goal (before.append onward)
    rcases List.prefix_or_prefix_of_prefix inside above with here | higher
    · exact here
    · by_cases same : directory ++ [name] = home
      · exact same ▸ List.prefix_refl (directory ++ [name])
      · obtain ⟨serial, mode, present⟩ := entryAt?_of_isDirectory standing
        rw [tree.isDirectory_of_prefix present higher same] at notDirectory
        cases notDirectory
  occupied {follow budget spot} walked := by
    cases follow with
    | true =>
      obtain ⟨count, leads⟩ := leads_of_walkOn parts walked
      exact admitted count spot leads
    | false =>
      rcases leads_of_walkOn_nofollow parts walked with
        ⟨count, leads⟩ | ⟨first, name, target, middle, count, rfl, next, before, rfl, link⟩
      · exact admitted count spot leads
      · -- a link outside would lead on to somewhere outside
        refine Classical.byContradiction fun outside => ?_
        obtain ⟨inner, goal, follows⟩ := aside _ target outside link
        rw [List.dropLast_concat] at follows
        have above : ¬ home <+: middle := fun within => outside (within.trans (List.prefix_append _ _))
        have start : ¬ home <+: linkRoot middle target := by
          unfold linkRoot
          split
          · simpa using root
          · exact above
        have whole : Leads files anywhere (inner + 0 + 1) middle [name] goal :=
          .link next trivial link (follows.mono (fun _ _ => trivial) fun _ _ _ => Iff.rfl) (.done goal)
        exact follows.outside root start (admitted _ goal (before.append whole))

/-- Something new stands where nothing was: walks that came there end there, or just below. -/
theorem of_gains (confined : files.Confined home names) (tree : files.IsTree) {directory : Spot}
    {name : String} {entry : Entry} (gains : Gains files after (directory ++ [name]) entry)
    (plain : ∀ target, entry ≠ .symlink target) (down : ".." ∉ names) {place : List String}
    {follow : Bool} {budget : Nat} (first : place <+: names)
    (walked : files.walkOn follow budget home place = .ok (.vacant directory name)) :
    after.Confined home names := by
  have inside := confined.vacant first walked
  have bare : after.IsBare (directory ++ [name]) := by
    have absent : files.isDirectory (directory ++ [name]) = false := by
      simp [isDirectory, gains.vacant]
    intro next more
    rw [gains.entryAt?, if_neg (by simp)]
    exact tree.isBare absent next more
  have arrival : after.walkOn true budget home place = .ok (.occupied (directory ++ [name])) := by
    have arrived := gains.walkOn plain (walkOn_vacant_follow walked)
    rwa [arrivalAt, if_pos rfl] at arrived
  have ends {part : List String} (within : part <+: names) {turn : Bool} {limit : Nat}
      {location : Location} (later : after.walkOn turn limit home part = .ok location) :
      (∃ earlier, files.walkOn turn budget home part = .ok earlier ∧
        location = arrivalAt (directory ++ [name]) earlier) ∨ home <+: location.spot := by
    by_cases shorter : part <+: place
    · obtain ⟨earlier, before⟩ := walkOn_of_prefix shorter walked turn
      exact .inl ⟨earlier, before, walkOn_unique later (gains.walkOn plain before)⟩
    refine .inr ?_
    obtain ⟨more, rfl⟩ := (List.prefix_or_prefix_of_prefix within first).resolve_left shorter
    have some : more ≠ [] := by
      rintro rfl
      exact shorter (by simp)
    have reached := walkOn_mono (Nat.le_max_left budget limit) arrival
    have onward := walkOn_mono (Nat.le_max_right budget limit) later
    rcases walkOn_append after (max budget limit) home place with
      ⟨spot, left, passed, _, longer⟩ | ⟨none, _⟩
    · rw [reached] at passed
      cases passed
      rw [longer turn more some] at onward
      have stays : ".." ∉ more := fun member =>
        down (within.subset (List.mem_append_right place member))
      rcases walkOn_of_isBare bare stays onward with rfl | ⟨next, rfl⟩
      · exact inside
      · exact inside.trans (List.prefix_append _ _)
    · exact absurd reached (none _)
  constructor
  · intro part turn limit other next within later
    rcases ends within later with ⟨earlier, before, same⟩ | there
    · cases earlier with
      | vacant above last =>
        rw [arrivalAt] at same
        split at same
        · cases same
        · cases same
          exact confined.vacant within before
      | _ => cases same
    · exact there
  · intro turn limit spot later
    rcases ends (List.prefix_refl names) later with ⟨earlier, before, same⟩ | there
    · cases earlier with
      | vacant above last =>
        rw [arrivalAt] at same
        split at same
        · cases same
          exact inside
        · cases same
      | occupied other =>
        cases same
        exact confined.occupied before
      | gone => cases same
    · exact there

theorem of_loses (confined : files.Confined home names) {spot : Spot} (loses : Loses files after spot)
    (inside : home <+: spot) : after.Confined home names where
  vacant within later := by
    rcases loses.walkOn later with before | ⟨directory, name, same, here⟩
    · exact confined.vacant within before
    · cases same
      rw [here]
      exact inside
  occupied later := by
    rcases loses.walkOn later with before | ⟨directory, name, same, here⟩
    · exact confined.occupied before
    · cases same

theorem congr (confined : files.Confined home names)
    (same : ∀ spot, after.signAt? spot = files.signAt? spot) : after.Confined home names where
  vacant within later := confined.vacant within (by rwa [walkOn_congr same] at later)
  occupied later := confined.occupied (by rwa [walkOn_congr same] at later)

end Confined

end Bookbinder.FileSystem
