import Bookbinder.Proofs.FileSystem.Walks
import Bookbinder.FileSystem.PathText

/-!
Where names lead when links are followed, whether or not anything stands there. This is what is known of
a path from the links alone, so it stays as it is when other things are made or removed. Main statements:
names lead to one place at most, and a walk that comes to an end has come to that place.
-/

set_option autoImplicit false

namespace Bookbinder

/-- The spot that a location is at. -/
def Location.spot : Location → Spot
  | .occupied spot => spot
  | .vacant directory name => directory ++ [name]
  | .gone => []

namespace FileSystem

/-- Where the target of a link starts that stands in a directory. -/
def linkRoot (directory : Spot) (target : String) : Spot :=
  if target.toList.head? = some '/' then [] else directory

/-- A name that leads down. -/
structure LeadsDown (name : String) : Prop where
  some : name ≠ ""
  notDot : name ≠ "."
  notUp : name ≠ ".."
  noSlash : '/' ∉ name.toList

theorem LeadsDown.isName {name : String} (down : LeadsDown name) : isName name = true := by
  simp [Bookbinder.isName, down.some, down.notDot, down.noSlash]

theorem LeadsDown.of_isName {name : String} (valid : Bookbinder.isName name = true) (notUp : name ≠ "..") :
    LeadsDown name := by
  simp only [Bookbinder.isName, Bool.and_eq_true, bne_iff_ne, Bool.not_eq_true', List.contains_eq_mem,
    decide_eq_false_iff_not] at valid
  exact ⟨valid.1.1, valid.1.2, notUp, valid.2⟩

theorem LeadsDown.of_isPart {name : String} (part : IsPart name) (notDot : name ≠ ".")
    (notUp : name ≠ "..") : LeadsDown name :=
  ⟨part.1, notDot, notUp, part.2⟩

/-- Names that all lead down. -/
def Descends (names : List String) : Prop := ∀ name ∈ names, LeadsDown name

namespace Descends

variable {names : List String}

theorem concat (down : Descends names) {name : String} (next : LeadsDown name) :
    Descends (names ++ [name]) := by
  intro part member
  rcases List.mem_append.1 member with inside | last
  · exact down part inside
  · rw [List.mem_singleton.1 last]
    exact next

theorem of_prefix (down : Descends names) {place : List String} (above : place <+: names) :
    Descends place :=
  fun name member => down name (above.subset member)

theorem tail {name : String} (down : Descends (name :: names)) : Descends names :=
  fun part member => down part (List.mem_cons_of_mem _ member)

end Descends

/-- Names lead from one spot to another through spots of a region only, and past so many links. -/
inductive Leads (files : FileSystem) (region : Spot → Prop) : Nat → Spot → List String → Spot → Prop
  | done (start : Spot) : Leads files region 0 start [] start
  | stay {count : Nat} {start goal : Spot} {name : String} {rest : List String}
      (still : name = "" ∨ name = ".") (onward : Leads files region count start rest goal) :
      Leads files region count start (name :: rest) goal
  | up {count : Nat} {start goal : Spot} {rest : List String}
      (onward : Leads files region count start.dropLast rest goal) :
      Leads files region count start (".." :: rest) goal
  | plain {count : Nat} {start goal : Spot} {name : String} {rest : List String}
      (down : LeadsDown name) (within : region (start ++ [name]))
      (noLink : ∀ target, files.signAt? (start ++ [name]) ≠ some (.link target))
      (onward : Leads files region count (start ++ [name]) rest goal) :
      Leads files region count start (name :: rest) goal
  | link {inside after : Nat} {start middle goal : Spot} {name target : String} {rest : List String}
      (down : LeadsDown name) (within : region (start ++ [name]))
      (link : files.signAt? (start ++ [name]) = some (.link target))
      (follows : Leads files region inside (linkRoot start target) (PathText.parts target) middle)
      (onward : Leads files region after middle rest goal) :
      Leads files region (inside + after + 1) start (name :: rest) goal

namespace Leads

variable {files after : FileSystem} {region other : Spot → Prop} {count : Nat} {start goal : Spot}
  {names : List String}

/-- There is one way to go, and one place to come to. -/
theorem unique (leads : Leads files region count start names goal) {again : Nat} {place : Spot}
    (leads' : Leads files other again start names place) : count = again ∧ goal = place := by
  induction leads generalizing again place with
  | done start =>
    cases leads'
    exact ⟨rfl, rfl⟩
  | stay still onward ih =>
    cases leads' with
    | stay _ onward' => exact ih onward'
    | up onward' => simp at still
    | plain down => exact (still.elim down.some down.notDot).elim
    | link down => exact (still.elim down.some down.notDot).elim
  | up onward ih =>
    cases leads' with
    | stay still _ => simp at still
    | up onward' => exact ih onward'
    | plain down => exact absurd rfl down.notUp
    | link down => exact absurd rfl down.notUp
  | plain down within noLink onward ih =>
    cases leads' with
    | stay still _ => exact (still.elim down.some down.notDot).elim
    | up onward' => exact absurd rfl down.notUp
    | plain _ _ _ onward' => exact ih onward'
    | link _ _ link => exact absurd link (noLink _)
  | link down within link follows onward ihFollows ihOnward =>
    cases leads' with
    | stay still _ => exact (still.elim down.some down.notDot).elim
    | up onward' => exact absurd rfl down.notUp
    | plain _ _ noLink => exact absurd link (noLink _)
    | link _ _ link' follows' onward' =>
      rw [link] at link'
      cases link'
      obtain ⟨inside, rfl⟩ := ihFollows follows'
      obtain ⟨outside, same⟩ := ihOnward onward'
      exact ⟨by omega, same⟩

/-- Where names lead depends on the links of the region alone. -/
theorem mono (leads : Leads files region count start names goal)
    (wider : ∀ spot, region spot → other spot)
    (same : ∀ spot target, region spot →
      (after.signAt? spot = some (.link target) ↔ files.signAt? spot = some (.link target))) :
    Leads after other count start names goal := by
  induction leads with
  | done start => exact .done start
  | stay still onward ih => exact .stay still ih
  | up onward ih => exact .up ih
  | plain down within noLink onward ih =>
    exact .plain down (wider _ within) (fun target link => noLink target ((same _ _ within).1 link)) ih
  | link down within link follows onward ihFollows ihOnward =>
    exact .link down (wider _ within) ((same _ _ within).2 link) ihFollows ihOnward

theorem append {more : List String} {middle : Spot} {further : Nat}
    (leads : Leads files region count start names middle)
    (onward : Leads files region further middle more goal) :
    Leads files region (count + further) start (names ++ more) goal := by
  induction leads with
  | done start =>
    rw [Nat.zero_add]
    exact onward
  | stay still _ ih => exact .stay still (ih onward)
  | up _ ih => exact .up (ih onward)
  | plain down within noLink _ ih => exact .plain down within noLink (ih onward)
  | link down within link follows _ _ ih =>
    have joined := Leads.link down within link follows (ih onward)
    rw [show ∀ inside after : Nat, inside + (after + further) + 1 = inside + after + 1 + further by omega] at joined
    exact joined

/-- The way along more names passes the place that the first ones lead to. -/
theorem split {more : List String} (leads : Leads files region count start (names ++ more) goal) :
    ∃ first second middle, count = first + second ∧ Leads files region first start names middle ∧
      Leads files region second middle more goal := by
  induction names generalizing start count with
  | nil => exact ⟨0, count, start, (Nat.zero_add count).symm, .done start, leads⟩
  | cons name rest ih =>
    cases leads with
    | stay still onward =>
      obtain ⟨first, second, middle, total, before, beyond⟩ := ih onward
      exact ⟨first, second, middle, total, .stay still before, beyond⟩
    | up onward =>
      obtain ⟨first, second, middle, total, before, beyond⟩ := ih onward
      exact ⟨first, second, middle, total, .up before, beyond⟩
    | plain down within noLink onward =>
      obtain ⟨first, second, middle, total, before, beyond⟩ := ih onward
      exact ⟨first, second, middle, total, .plain down within noLink before, beyond⟩
    | link down within link follows onward =>
      obtain ⟨first, second, middle, rfl, before, beyond⟩ := ih onward
      exact ⟨_, second, middle, by omega, .link down within link follows before, beyond⟩

/-- Empty names lead nowhere else. -/
theorem of_filter (leads : Leads files region count start (names.filter (· != "")) goal) :
    Leads files region count start names goal := by
  induction names generalizing start count with
  | nil => exact leads
  | cons name rest ih =>
    by_cases empty : name = ""
    · rw [List.filter_cons_of_neg (by simp [empty])] at leads
      exact .stay (.inl empty) (ih leads)
    · rw [List.filter_cons_of_pos (by simp [empty])] at leads
      cases leads with
      | stay still onward => exact .stay still (ih onward)
      | up onward => exact .up (ih onward)
      | plain down within noLink onward => exact .plain down within noLink (ih onward)
      | link down within link follows onward => exact .link down within link follows (ih onward)

/-- Nor does a slash at the end, which asks for a directory. -/
theorem of_components {path : String} (leads : Leads files region count start (components path) goal) :
    Leads files region count start (PathText.parts path) goal := by
  obtain ⟨first, second, middle, rfl, before, beyond⟩ := leads.split
  have here : second = 0 ∧ goal = middle := by
    split at beyond
    · have still : Leads files region 0 middle ["."] middle := .stay (.inr rfl) (.done middle)
      exact beyond.unique still
    · exact beyond.unique (.done middle : Leads files region 0 middle [] middle)
  obtain ⟨rfl, rfl⟩ := here
  exact before.of_filter

end Leads

/-! ### Walks that come to an end -/

/-- Anywhere. -/
def anywhere (_ : Spot) : Prop := True

theorem leads_of_walk {files : FileSystem} {start : Spot} {names : List String}
    (parts : ∀ name ∈ names, IsPart name) :
    (∀ location, files.walk true start names = .arrived location →
      Leads files anywhere 0 start names location.spot) ∧
    (∀ target directory rest, files.walk true start names = .link target directory rest →
      ∀ inside count middle goal,
        Leads files anywhere inside (linkRoot directory target) (PathText.parts target) middle →
        Leads files anywhere count middle rest goal →
        Leads files anywhere (inside + count + 1) start names goal) := by
  fun_induction walk files true start names with
  | case1 start =>
    refine ⟨fun _ walked => ?_, by simp⟩
    cases walked
    exact .done start
  | case2 => simp
  | case3 start rest directory ih =>
    have onward := ih fun name member => parts name (List.mem_cons_of_mem _ member)
    exact ⟨fun location walked => .stay (.inr rfl) (onward.1 location walked),
      fun target place rest walked inside count middle goal first second =>
        .stay (.inr rfl) (onward.2 target place rest walked inside count middle goal first second)⟩
  | case4 start rest directory notDot ih =>
    have onward := ih fun name member => parts name (List.mem_cons_of_mem _ member)
    exact ⟨fun location walked => .up (onward.1 location walked),
      fun target place rest walked inside count middle goal first second =>
        .up (onward.2 target place rest walked inside count middle goal first second)⟩
  | case5 => simp
  | case6 start name rest directory notDot notUp short absent last =>
    have down := LeadsDown.of_isPart (parts name (by simp)) notDot notUp
    refine ⟨fun location walked => ?_, by simp⟩
    cases walked
    cases rest with
    | cons next more => cases last
    | nil => exact .plain down trivial (by simp [signAt?, absent]) (.done _)
  | case7 => simp
  | case8 => simp at *
  | case9 start name rest directory notDot notUp short target present last =>
    have down := LeadsDown.of_isPart (parts name (by simp)) notDot notUp
    refine ⟨by simp, fun _ _ _ walked => ?_⟩
    cases walked
    exact fun inside count middle goal first second =>
      .link down trivial ((signAt?_eq_link_iff files _ _).2 present) first second
  | case10 start name rest directory notDot notUp short held leaf present ih =>
    have down := LeadsDown.of_isPart (parts name (by simp)) notDot notUp
    have noLink (target : String) : files.signAt? (start ++ [name]) ≠ some (.link target) := by
      intro link
      rw [signAt?_eq_link_iff, present] at link
      cases link
      exact leaf target rfl
    have onward := ih fun name member => parts name (List.mem_cons_of_mem _ member)
    exact ⟨fun location walked => .plain down trivial noLink (onward.1 location walked),
      fun target place rest walked inside count middle goal first second =>
        .plain down trivial noLink
          (onward.2 target place rest walked inside count middle goal first second)⟩

/-- A walk that comes to an end has come to where its names lead. -/
theorem leads_of_walkOn {files : FileSystem} {budget : Nat} {start : Spot} {names : List String}
    {location : Location} (parts : ∀ name ∈ names, IsPart name)
    (walked : files.walkOn true budget start names = .ok location) :
    ∃ count, Leads files anywhere count start names location.spot := by
  fun_induction walkOn files true budget start names with
  | case1 _ _ _ _ first =>
    cases walked
    exact ⟨0, (leads_of_walk parts).1 _ first⟩
  | case2 => cases walked
  | case3 => cases walked
  | case4 start names target directory rest first budget from_ ih =>
    obtain ⟨count, leads⟩ := ih (walk_link_parts parts first) walked
    obtain ⟨inside, after, middle, rfl, before, beyond⟩ := leads.split
    exact ⟨_, (leads_of_walk parts).2 _ _ _ first _ _ _ _ before.of_components beyond⟩

theorem isDirectory_of_walkOn {files : FileSystem} {follow : Bool} {budget : Nat} {start : Spot}
    {names : List String} {location : Location} (some : names ≠ [])
    (walked : files.walkOn follow budget start names = .ok location) :
    files.isDirectory start = true := by
  cases directory : files.isDirectory start with
  | true => rfl
  | false =>
    have refused : files.walk follow start names = .refused .notDirectory := by
      cases names with
      | nil => exact absurd rfl some
      | cons name rest => rw [walk, directory]; rfl
    rw [walkOn_of_refused budget refused] at walked
    cases walked

/-- A walk down one step, a link at its end not followed. -/
theorem walkOn_name {files : FileSystem} {budget : Nat} {spot place : Spot} {name : String}
    (down : LeadsDown name)
    (walked : files.walkOn false budget spot [name] = .ok (.occupied place)) :
    place = spot ++ [name] := by
  have arrives : (∃ errno, files.walk false spot [name] = .refused errno) ∨
      files.walk false spot [name] = .arrived (.vacant spot name) ∨
      files.walk false spot [name] = .arrived (.occupied (spot ++ [name])) := by
    cases directory : files.isDirectory spot with
    | false => simp [walk, directory]
    | true =>
      by_cases short : name.utf8ByteSize ≤ longestName
      · rw [walk_down false [] directory down.notDot down.notUp short]
        cases files.signAt? (spot ++ [name]) with
        | none => simp
        | some sign => cases sign <;> simp [walk]
      · simp [walk, directory, down.notDot, down.notUp, Nat.lt_of_not_le short]
  rcases arrives with ⟨errno, refused⟩ | vacant | occupied
  · rw [walkOn_of_refused budget refused] at walked
    cases walked
  · rw [walkOn_of_arrived budget vacant] at walked
    cases walked
  · rw [walkOn_of_arrived budget occupied] at walked
    cases walked
    rfl

/-- The same if a link at the end is not followed, unless there is one. -/
theorem leads_of_walkOn_nofollow {files : FileSystem} {budget : Nat} {start spot : Spot}
    {names : List String} (parts : ∀ name ∈ names, IsPart name)
    (walked : files.walkOn false budget start names = .ok (.occupied spot)) :
    (∃ count, Leads files anywhere count start names spot) ∨
      ∃ first name target middle count, names = first ++ [name] ∧ LeadsDown name ∧
        Leads files anywhere count start first middle ∧ spot = middle ++ [name] ∧
        files.signAt? spot = some (.link target) := by
  rcases List.eq_nil_or_concat names with rfl | ⟨first, name, rfl⟩
  · rw [walkOn, walk] at walked
    cases walked
    exact .inl ⟨0, .done start⟩
  rw [List.concat_eq_append] at *
  rcases walkOn_append files budget start first with ⟨middle, left, passed, _, longer⟩ | ⟨_, refused⟩
  · obtain ⟨count, before⟩ :=
      leads_of_walkOn (fun part member => parts part (List.mem_append_left _ member)) passed
    rw [longer false [name] (by simp)] at walked
    have directory := isDirectory_of_walkOn (by simp) walked
    have part := parts name (by simp)
    by_cases dot : name = "."
    · have arrived : files.walk false middle [name] = .arrived (.occupied middle) := by
        simp [walk, directory, dot]
      rw [walkOn_of_arrived left arrived] at walked
      cases walked
      exact .inl ⟨count + 0, before.append (.stay (.inr dot) (.done _))⟩
    by_cases up : name = ".."
    · have arrived : files.walk false middle [name] = .arrived (.occupied middle.dropLast) := by
        simp [walk, directory, up]
      rw [walkOn_of_arrived left arrived] at walked
      cases walked
      subst up
      exact .inl ⟨count + 0, before.append (.up (.done _))⟩
    have down := LeadsDown.of_isPart part dot up
    have here := walkOn_name down walked
    by_cases link : ∃ target, files.signAt? spot = some (.link target)
    · obtain ⟨target, link⟩ := link
      exact .inr ⟨first, name, target, middle, count, rfl, down, before, here, link⟩
    · rw [not_exists, here] at link
      rw [here]
      exact .inl ⟨count + 0, before.append (.plain down trivial link (.done _))⟩
  · obtain ⟨errno, error⟩ := refused false [name] (by simp)
    rw [error] at walked
    cases walked

/-- In an empty place names without steps up lead down. -/
theorem leads_of_isBare {files : FileSystem} {spot : Spot} (bare : files.IsBare spot)
    {names : List String} (down : ".." ∉ names) (parts : ∀ name ∈ names, IsPart name) :
    ∃ goal, Leads files anywhere 0 spot names goal ∧ spot <+: goal := by
  induction names generalizing spot with
  | nil => exact ⟨spot, .done spot, List.prefix_refl spot⟩
  | cons name rest ih =>
    simp only [List.mem_cons, not_or] at down
    have rests : ∀ name ∈ rest, IsPart name := fun other member => parts other (List.mem_cons_of_mem _ member)
    by_cases dot : name = "."
    · obtain ⟨goal, leads, above⟩ := ih bare down.2 rests
      exact ⟨goal, .stay (.inr dot) leads, above⟩
    · have bareBelow : files.IsBare (spot ++ [name]) := by
        intro next more
        rw [← List.append_cons]
        exact bare name (next :: more)
      have absent := (signAt?_eq_none_iff files (spot ++ [name])).2 (bare name [])
      obtain ⟨goal, leads, above⟩ := ih bareBelow down.2 rests
      have next := LeadsDown.of_isPart (parts name (by simp)) dot (Ne.symm down.1)
      exact ⟨goal, .plain next trivial (by simp [absent]) leads,
        (List.prefix_append spot [name]).trans above⟩

/-- A way outside a place ends outside. -/
theorem Leads.outside {files : FileSystem} {home start goal : Spot} {count : Nat} {names : List String}
    (root : home ≠ []) (leads : Leads files (fun spot => ¬ home <+: spot) count start names goal)
    (outside : ¬ home <+: start) : ¬ home <+: goal := by
  induction leads with
  | done => exact outside
  | stay _ _ ih => exact ih outside
  | up _ ih => exact ih fun within => outside (within.trans (List.dropLast_prefix _))
  | plain _ within _ _ ih => exact ih within
  | link _ _ _ _ _ ihFollows ihOnward =>
    refine ihOnward (ihFollows ?_)
    unfold linkRoot
    split
    · simpa using root
    · exact outside

end FileSystem

end Bookbinder
