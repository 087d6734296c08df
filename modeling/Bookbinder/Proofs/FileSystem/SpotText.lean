import Bookbinder.FileSystem.RealPath
import Bookbinder.Proofs.FileSystem.Trees

/-!
The texts of spots. Main statements: steps along a spot are steps along its text, and spots with one text
are one spot.
-/

set_option autoImplicit false

namespace Bookbinder.FileSystem

theorem joinWith_append {names more : List (List Char)} (some : names ≠ []) (further : more ≠ []) :
    Text.joinWith ['/'] (names ++ more) = Text.joinWith ['/'] names ++ '/' :: Text.joinWith ['/'] more := by
  induction names with
  | nil => exact absurd rfl some
  | cons first rest ih =>
    cases rest with
    | nil =>
      cases more with
      | nil => exact absurd rfl further
      | cons next others => simp [Text.joinWith]
    | cons next others =>
      have onward := ih (List.cons_ne_nil next others)
      simp only [Text.joinWith, List.cons_append, List.append_assoc] at onward ⊢
      rw [onward]

theorem joinWith_concat {names : List (List Char)} (some : names ≠ []) (name : List Char) :
    Text.joinWith ['/'] (names ++ [name]) = Text.joinWith ['/'] names ++ '/' :: name :=
  joinWith_append some (List.cons_ne_nil name [])

theorem toList_spotText_concat {spot : Spot} (some : spot ≠ []) (name : String) :
    (spotText (spot ++ [name])).toList = (spotText spot).toList ++ '/' :: name.toList := by
  have names : spot.map String.toList ≠ [] := by simpa using some
  rw [toList_spotText, toList_spotText, List.map_append, List.map_singleton, joinWith_concat names]
  rfl

theorem spotText_concat {spot : Spot} (some : spot ≠ []) (name : String) :
    spotText (spot ++ [name]) = spotText spot ++ "/" ++ name := by
  rw [← String.toList_inj, toList_spotText_concat some]
  simp

theorem spotText_ne_empty (spot : Spot) : spotText spot ≠ "" := by
  intro empty
  have chars := toList_spotText spot
  rw [empty] at chars
  cases chars

theorem isName_of_leadsDown {spot : Spot} (down : Descends spot) :
    ∀ name ∈ spot, isName name = true :=
  fun name member => (down name member).isName

theorem endsInSlash_spotText {spot : Spot} (some : spot ≠ []) (down : Descends spot) :
    PathText.endsInSlash (spotText spot) = false := by
  obtain ⟨c, chars, starts, _⟩ := Path.joinWith_ne_slash some (isName_of_leadsDown down)
  have last := getLast?_joinWith_ne_slash (isName_of_leadsDown down)
  rw [starts] at last
  simpa [PathText.endsInSlash, toList_spotText, starts] using last

theorem isAnchored_spotText (spot : Spot) : PathText.isAnchored (spotText spot) = true := by
  simp [PathText.isAnchored, toList_spotText]

theorem not_isAnchored_of_leadsDown {name : String} (down : LeadsDown name) :
    PathText.isAnchored name = false := by
  cases anchored : PathText.isAnchored name with
  | false => rfl
  | true =>
    have first : name.toList.head? = some '/' := by simpa [PathText.isAnchored] using anchored
    exact absurd (List.mem_of_mem_head? first) down.noSlash

theorem join_spotText {spot : Spot} {name : String} (down : Descends spot)
    (next : LeadsDown name) : PathText.join (spotText spot) name = spotText (spot ++ [name]) := by
  have some := spotText_ne_empty spot
  by_cases root : spot = []
  · subst root
    rw [← String.toList_inj, toList_spotText]
    simp [PathText.join, not_isAnchored_of_leadsDown next, PathText.endsInSlash, toList_spotText,
      Text.joinWith]
  · rw [← String.toList_inj, toList_spotText_concat root]
    simp [PathText.join, not_isAnchored_of_leadsDown next, endsInSlash_spotText root down, some]

theorem withoutFinalSlashes_slash (chars : List Char) :
    PathText.withoutFinalSlashes (String.ofList (chars ++ ['/'])) =
      PathText.withoutFinalSlashes (String.ofList chars) := by
  simp [PathText.withoutFinalSlashes]

theorem withoutFinalSlashes_of_not_endsInSlash {path : String}
    (plain : PathText.endsInSlash path = false) : PathText.withoutFinalSlashes path = path := by
  rw [← String.toList_inj, PathText.withoutFinalSlashes, String.toList_ofList]
  cases chars : path.toList.reverse with
  | nil => simpa using chars.symm
  | cons c rest =>
    have last : c ≠ '/' := by
      simp only [PathText.endsInSlash, ← List.head?_reverse, chars] at plain
      simpa using plain
    rw [List.dropWhile_cons_of_neg (by simpa using last), ← chars, List.reverse_reverse]

/-- A path is split at its last slash. -/
theorem split_slash (before : List Char) {last : List Char} (plain : '/' ∉ last) :
    PathText.split (String.ofList (before ++ '/' :: last)) =
      (if PathText.withoutFinalSlashes (String.ofList before) = "" then
          String.ofList (before ++ ['/'])
        else PathText.withoutFinalSlashes (String.ofList before),
        String.ofList last) := by
  have others : ∀ c ∈ last.reverse, (c != '/') = true := by
    intro c member
    rw [bne_iff_ne]
    rintro rfl
    exact plain (List.mem_reverse.1 member)
  have dropped : (last.reverse ++ '/' :: before.reverse).dropWhile (· != '/') =
      '/' :: before.reverse := by
    rw [List.dropWhile_append_of_pos others]
    rfl
  have taken : (last.reverse ++ '/' :: before.reverse).takeWhile (· != '/') = last.reverse := by
    rw [List.takeWhile_append_of_pos others]
    simp
  have reversed : (before ++ '/' :: last).reverse = last.reverse ++ '/' :: before.reverse := by simp
  simp only [PathText.split, String.toList_ofList, reversed, dropped, taken, List.reverse_reverse,
    List.reverse_cons, withoutFinalSlashes_slash]

theorem split_spotText {spot : Spot} {name : String} (down : Descends spot)
    (next : LeadsDown name) : PathText.split (spotText (spot ++ [name])) = (spotText spot, name) := by
  by_cases root : spot = []
  · subst root
    have chars : spotText ([] ++ [name]) = String.ofList ([] ++ '/' :: name.toList) := by
      rw [← String.toList_inj, toList_spotText]
      simp [Text.joinWith]
    rw [chars, split_slash [] next.noSlash, String.ofList_toList, if_pos (by decide)]
    rfl
  · have chars : spotText (spot ++ [name]) =
        String.ofList ((spotText spot).toList ++ '/' :: name.toList) := by
      rw [← String.toList_inj, toList_spotText_concat root, String.toList_ofList]
    rw [chars, split_slash _ next.noSlash, String.ofList_toList, String.ofList_toList,
      withoutFinalSlashes_of_not_endsInSlash (endsInSlash_spotText root down),
      if_neg (spotText_ne_empty spot)]

theorem stepUp_spotText {spot : Spot} (down : Descends spot) :
    stepUp (spotText spot) = spotText spot.dropLast := by
  rcases List.eq_nil_or_concat spot with rfl | ⟨above, name, rfl⟩
  · decide
  rw [List.concat_eq_append] at *
  have next := down name (by simp)
  have higher : Descends above := fun part member => down part (by simp [member])
  have notUp : name ≠ ".." := next.notUp
  rw [List.dropLast_concat, stepUp, if_neg (spotText_ne_empty _), split_spotText higher next]
  split
  · next same =>
    cases same
    exact absurd rfl notUp
  · next same =>
    cases same
    rfl

/-- The parts of the text of a spot after its first slash. -/
theorem parts_spotText {spot : Spot} (some : spot ≠ []) (down : Descends spot) :
    PathText.parts (spotText spot) = "" :: spot := by
  have inner : Text.splitOn '/' (Text.joinWith ['/'] (spot.map String.toList)) =
      spot.map String.toList := by
    refine Text.splitOn_joinWith (by simpa using some) fun part member => ?_
    obtain ⟨name, inside, rfl⟩ := List.mem_map.1 member
    exact (down name inside).noSlash
  rw [PathText.parts, toList_spotText, Text.splitOn, if_pos rfl, inner, List.map_cons, List.map_map]
  simp [Function.comp_def]

theorem foldl_addPart (anchored : Bool) {spot : Spot} (down : Descends spot)
    (names : List String) : spot.foldl (PathText.addPart anchored) names = spot.reverse ++ names := by
  induction spot generalizing names with
  | nil => rfl
  | cons name rest ih =>
    have first := down name (by simp)
    rw [List.foldl_cons, ih fun other member => down other (List.mem_cons_of_mem _ member)]
    simp [PathText.addPart, first.some, first.notDot, first.notUp]

theorem normalise_spotText {spot : Spot} (down : Descends spot) :
    PathText.normalise (spotText spot) = spotText spot := by
  by_cases root : spot = []
  · subst root
    decide
  have anchor : Path.anchorOf (spotText spot).toList = .root := by
    obtain ⟨c, rest, starts, different⟩ :=
      Path.joinWith_ne_slash root (isName_of_leadsDown down)
    rw [toList_spotText, starts]
    unfold Path.anchorOf
    split <;> simp_all
  have names : ((PathText.parts (spotText spot)).foldl (PathText.addPart true) []).reverse = spot := by
    rw [parts_spotText root down, List.foldl_cons, foldl_addPart true down]
    simp [PathText.addPart]
  have whole : String.ofList Anchor.root.text ++ "/".intercalate spot = spotText spot := rfl
  have some := spotText_ne_empty spot
  have anchored : (Anchor.root != Anchor.here) = true := rfl
  simp only [PathText.normalise, anchor, anchored, names, whole, some, if_false]

theorem spotText_inj {spot other : Spot} (down : Descends spot)
    (downOther : Descends other) (same : spotText spot = spotText other) :
    spot = other := by
  have some (spot : Spot) (down : Descends spot) (root : spot ≠ []) :
      spotText spot ≠ spotText [] := by
    intro same
    have parts := parts_spotText root down
    rw [same] at parts
    have first : PathText.parts (spotText []) = ["", ""] := by decide
    rw [first] at parts
    cases parts
    exact absurd rfl (down "" (by simp)).some
  by_cases root : spot = []
  · subst root
    by_cases rootOther : other = []
    · exact rootOther.symm
    · exact absurd same.symm (some other downOther rootOther)
  · by_cases rootOther : other = []
    · subst rootOther
      exact absurd same (some spot down root)
    · have parts := parts_spotText root down
      rw [same, parts_spotText rootOther downOther] at parts
      cases parts
      rfl

theorem splitOn_append_slash (first second : List Char) :
    Text.splitOn '/' (first ++ '/' :: second) = Text.splitOn '/' first ++ Text.splitOn '/' second := by
  induction first with
  | nil => simp [Text.splitOn]
  | cons c rest ih =>
    rw [List.cons_append, Text.splitOn, Text.splitOn, ih]
    split
    · rfl
    · cases parts : Text.splitOn '/' rest with
      | nil => exact absurd parts (Text.splitOn_ne_nil '/' rest)
      | cons part more => rfl

theorem parts_append_slash (first second : String) :
    PathText.parts (first ++ "/" ++ second) = PathText.parts first ++ PathText.parts second := by
  have chars : (first ++ "/" ++ second).toList = first.toList ++ '/' :: second.toList := by simp
  rw [PathText.parts, chars, splitOn_append_slash, List.map_append]
  rfl

end Bookbinder.FileSystem
