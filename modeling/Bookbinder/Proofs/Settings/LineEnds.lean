import Bookbinder.Proofs.Settings.Offenders

/-!
Line ends of a settings file. Each line of a text may end in a line feed or in a return and a line feed, or all of
them in a return. Main statement: however the lines of a text end in a file, the same settings are loaded from it,
or the same fault is found at the same place.
-/

set_option autoImplicit false

namespace Bookbinder

namespace Text

/-- What a text may be read from. A return stands alone only where no line feed follows it. -/
inductive ReadsAs : List Char → List Char → Prop
  | nil : ReadsAs [] []
  | other {c : Char} {text written : List Char} (noFeed : c ≠ '\n') (noReturn : c ≠ '\r')
    (rest : ReadsAs text written) : ReadsAs (c :: text) (c :: written)
  | feed {text written : List Char} (rest : ReadsAs text written) : ReadsAs ('\n' :: text) ('\n' :: written)
  | pair {text written : List Char} (rest : ReadsAs text written) :
    ReadsAs ('\n' :: text) ('\r' :: '\n' :: written)
  | alone {text written : List Char} (apart : written.head? ≠ some '\n') (rest : ReadsAs text written) :
    ReadsAs ('\n' :: text) ('\r' :: written)

/-- A text is read from just those that differ from it in their line ends. -/
theorem unifyNewlines_eq_iff {text written : List Char} : unifyNewlines written = text ↔ ReadsAs text written := by
  constructor
  · rintro rfl
    fun_induction unifyNewlines written with
    | case1 => exact .nil
    | case2 rest ih => exact .pair ih
    | case3 c rest unpaired ih =>
      by_cases isReturn : c = '\r'
      · subst isReturn
        rw [if_pos rfl]
        refine .alone (fun paired => ?_) ih
        obtain ⟨others, rfl⟩ := List.head?_eq_some_iff.1 paired
        exact unpaired others rfl rfl
      · rw [if_neg isReturn]
        by_cases isFeed : c = '\n'
        · exact isFeed ▸ .feed ih
        · exact .other isFeed isReturn ih
  · intro reads
    induction reads with
    | nil => rfl
    | @other c text written noFeed noReturn rest ih =>
      rw [unifyNewlines, if_neg noReturn, ih]
      exact fun others same => absurd same noReturn
    | feed rest ih =>
      rw [unifyNewlines, if_neg (by decide), ih]
      exact fun others same => absurd same (by decide)
    | pair rest ih => rw [unifyNewlines, ih]
    | alone apart rest ih =>
      rw [unifyNewlines, if_pos rfl, ih]
      rintro others - rfl
      exact apart rfl

/-- Every line feed is written as it is or with a return before it. -/
inductive EndsEitherWay : List Char → List Char → Prop
  | nil : EndsEitherWay [] []
  | other {c : Char} {text written : List Char} (noFeed : c ≠ '\n') (rest : EndsEitherWay text written) :
    EndsEitherWay (c :: text) (c :: written)
  | feed {text written : List Char} (rest : EndsEitherWay text written) :
    EndsEitherWay ('\n' :: text) ('\n' :: written)
  | pair {text written : List Char} (rest : EndsEitherWay text written) :
    EndsEitherWay ('\n' :: text) ('\r' :: '\n' :: written)

/-- Every line feed is written as a return. -/
def withReturns (text : List Char) : List Char := text.map fun c => if c = '\n' then '\r' else c

/-- A text with its lines ended in one of the two ways, or all of them in the third. -/
inductive Respells (text : List Char) : List Char → Prop
  | eitherWay {written : List Char} (ends : EndsEitherWay text written) : Respells text written
  | returns : Respells text (withReturns text)

theorem EndsEitherWay.readsAs {text written : List Char} (ends : EndsEitherWay text written)
    (plain : '\r' ∉ text) : ReadsAs text written := by
  induction ends with
  | nil => exact .nil
  | @other c text written noFeed rest ih =>
    rw [List.mem_cons, not_or] at plain
    exact .other noFeed (Ne.symm plain.1) (ih plain.2)
  | feed rest ih => exact .feed (ih fun member => plain (List.mem_cons_of_mem _ member))
  | pair rest ih => exact .pair (ih fun member => plain (List.mem_cons_of_mem _ member))

/-- There is no line feed left for a return to stand before. -/
theorem readsAs_withReturns {text : List Char} (plain : '\r' ∉ text) : ReadsAs text (withReturns text) := by
  induction text with
  | nil => exact .nil
  | cons c rest ih =>
    rw [List.mem_cons, not_or] at plain
    have others := ih plain.2
    by_cases isFeed : c = '\n'
    · subst isFeed
      refine .alone (fun paired => ?_) others
      have member : '\n' ∈ withReturns rest := List.mem_of_mem_head? paired
      obtain ⟨other, -, same⟩ := List.mem_map.1 member
      split at same
      · cases same
      · next noFeed => exact noFeed same
    · rw [withReturns, List.map_cons, if_neg isFeed]
      exact .other isFeed (Ne.symm plain.1) others

theorem unifyNewlines_of_respells {text written : List Char} (plain : '\r' ∉ text)
    (respelled : Respells text written) : unifyNewlines written = text := by
  rw [unifyNewlines_eq_iff]
  cases respelled with
  | eitherWay ends => exact ends.readsAs plain
  | returns => exact readsAs_withReturns plain

end Text

/-- What is read from the bytes of a text depends on how it is read with line feeds alone. -/
theorem Settings.read_encodeUtf8 (file : Path) (text : List Char) :
    Settings.read file (Text.encodeUtf8 text) = Settings.parse file (Text.unifyNewlines text) := by
  rw [Settings.read, Text.decodeUtf8_encodeUtf8, Settings.parse_unifyNewlines]

/-- A file with text, at the path of a settings file. -/
structure Machine.HoldsText (machine : Machine) (directory : Path) (text : List Char) : Prop where
  clean : holdsNul (Settings.file directory).text = false
  found : ∃ mode, machine.files.status machine.cwd (Settings.file directory).text =
    .ok (.file ⟨Text.encodeUtf8 text, mode⟩)

namespace Action

theorem perform_loadSettings_of_text {machine : Machine} {directory : Path} {text : List Char}
    (holds : machine.HoldsText directory text) :
    perform (loadSettings directory) machine =
      ((Settings.parse (Settings.file directory) (Text.unifyNewlines text)).mapError .settings, machine) := by
  obtain ⟨clean, mode, found⟩ := holds
  rw [perform_loadSettings machine clean found, Settings.read_encodeUtf8]

/-- A text and the same text with its lines ended differently load alike: the same settings, or the same fault. -/
theorem loadSettings_respelled {machine other : Machine} {directory : Path} {text written : List Char}
    (plain : '\r' ∉ text) (respelled : Text.Respells text written) (holds : machine.HoldsText directory text)
    (holdsOther : other.HoldsText directory written) :
    perform (loadSettings directory) machine =
        ((Settings.parse (Settings.file directory) text).mapError .settings, machine) ∧
      perform (loadSettings directory) other = ((perform (loadSettings directory) machine).1, other) := by
  have same : Text.unifyNewlines text = text := Text.unifyNewlines_of_notMem plain
  rw [perform_loadSettings_of_text holds, perform_loadSettings_of_text holdsOther, same,
    Text.unifyNewlines_of_respells plain respelled]
  exact ⟨rfl, rfl⟩

theorem holdsText_projectWith (text : String) : (projectWith text).HoldsText (Path.parse "/project") text.toList :=
  ⟨by decide, status_projectWith text⟩

/-- A blank line in a string of several lines, and a string that is not closed after it. -/
theorem loadSettings_respelled_unclosed :
    '\r' ∉ "b='''\n\n'''\n'".toList ∧
      Text.Respells "b='''\n\n'''\n'".toList "b='''\n\r\n'''\r\n'".toList ∧
      (projectWith "b='''\n\n'''\n'").HoldsText (Path.parse "/project") "b='''\n\n'''\n'".toList ∧
      (projectWith "b='''\n\r\n'''\r\n'").HoldsText (Path.parse "/project") "b='''\n\r\n'''\r\n'".toList ∧
      (perform (loadSettings (Path.parse "/project")) (projectWith "b='''\n\r\n'''\r\n'")).1 =
        (perform (loadSettings (Path.parse "/project")) (projectWith "b='''\n\n'''\n'")).1 := by
  have plain : '\r' ∉ "b='''\n\n'''\n'".toList := by decide
  have quotes {text written : List Char} (rest : Text.EndsEitherWay text written) :
      Text.EndsEitherWay ('\'' :: '\'' :: '\'' :: text) ('\'' :: '\'' :: '\'' :: written) :=
    .other (by decide) (.other (by decide) (.other (by decide) rest))
  have respelled : Text.Respells "b='''\n\n'''\n'".toList "b='''\n\r\n'''\r\n'".toList :=
    .eitherWay (.other (by decide) (.other (by decide) (quotes (.feed (.pair (quotes (.pair
      (.other (by decide) .nil))))))))
  have holds := holdsText_projectWith "b='''\n\n'''\n'"
  have holdsOther := holdsText_projectWith "b='''\n\r\n'''\r\n'"
  refine ⟨plain, respelled, holds, holdsOther, ?_⟩
  rw [(loadSettings_respelled plain respelled holds holdsOther).2]

end Action

end Bookbinder
