/-!
Cutting text, or any row, at a separator and joining it again. Main statement: joining the parts gives the text
back, and no part holds the separator.
-/

set_option autoImplicit false

namespace Bookbinder.Text

variable {α : Type} [DecidableEq α]

/-- The parts between the separators, empty ones included: a text with n separators has n + 1. -/
def splitOn (separator : α) : List α → List (List α)
  | [] => [[]]
  | c :: rest =>
    if c = separator then [] :: splitOn separator rest
    else
      match splitOn separator rest with
      | [] => [[c]]
      | part :: parts => (c :: part) :: parts

def joinWith (separator : List α) : List (List α) → List α
  | [] => []
  | [part] => part
  | part :: parts => part ++ separator ++ joinWith separator parts

attribute [local simp] splitOn joinWith

theorem splitOn_ne_nil (separator : α) (text : List α) : splitOn separator text ≠ [] := by
  cases text with
  | nil => simp
  | cons c rest =>
    simp only [splitOn]
    split
    · simp
    · split <;> simp

theorem joinWith_splitOn (separator : α) (text : List α) :
    joinWith [separator] (splitOn separator text) = text := by
  induction text with
  | nil => rfl
  | cons c rest ih =>
    simp only [splitOn]
    split
    · next same =>
      subst same
      cases parts : splitOn c rest with
      | nil => exact absurd parts (splitOn_ne_nil c rest)
      | cons part more => rw [← ih, parts]; simp
    · cases parts : splitOn separator rest with
      | nil => exact absurd parts (splitOn_ne_nil separator rest)
      | cons part more =>
        rw [parts] at ih
        cases more <;> simp_all

theorem separator_notMem_splitOn {separator : α} {text part : List α}
    (member : part ∈ splitOn separator text) : separator ∉ part := by
  induction text generalizing part with
  | nil => simp_all
  | cons c rest ih =>
    simp only [splitOn] at member
    split at member
    · rcases List.mem_cons.1 member with rfl | later
      · simp
      · exact ih later
    · next different =>
      cases parts : splitOn separator rest with
      | nil => exact absurd parts (splitOn_ne_nil separator rest)
      | cons first more =>
        rw [parts] at member ih
        rcases List.mem_cons.1 member with rfl | later
        · have := ih (List.mem_cons_self)
          simp [this, Ne.symm different]
        · exact ih (List.mem_cons_of_mem _ later)

theorem mem_of_mem_splitOn {separator c : α} {text part : List α} (member : part ∈ splitOn separator text)
    (inside : c ∈ part) : c ∈ text := by
  induction text generalizing part with
  | nil => simp_all
  | cons first rest ih =>
    simp only [splitOn] at member
    split at member
    · rcases List.mem_cons.1 member with rfl | later
      · cases inside
      · exact List.mem_cons_of_mem _ (ih later inside)
    · cases parts : splitOn separator rest with
      | nil => exact absurd parts (splitOn_ne_nil separator rest)
      | cons next more =>
        rw [parts] at member ih
        rcases List.mem_cons.1 member with rfl | later
        · rcases List.mem_cons.1 inside with rfl | within
          · exact List.mem_cons_self
          · exact List.mem_cons_of_mem _ (ih List.mem_cons_self within)
        · exact List.mem_cons_of_mem _ (ih (List.mem_cons_of_mem _ later) inside)

theorem splitOn_of_notMem {separator : α} {text : List α} (absent : separator ∉ text) :
    splitOn separator text = [text] := by
  induction text with
  | nil => rfl
  | cons c rest ih =>
    simp only [List.mem_cons, not_or] at absent
    simp [Ne.symm absent.1, ih absent.2]

theorem splitOn_append_separator {separator : α} {text : List α} (absent : separator ∉ text)
    (rest : List α) :
    splitOn separator (text ++ separator :: rest) = text :: splitOn separator rest := by
  induction text with
  | nil => simp
  | cons c more ih =>
    simp only [List.mem_cons, not_or] at absent
    simp [Ne.symm absent.1, ih absent.2]

/-- Parts without the separator come back as they were joined. -/
theorem splitOn_joinWith {separator : α} {parts : List (List α)} (some : parts ≠ [])
    (absent : ∀ part ∈ parts, separator ∉ part) :
    splitOn separator (joinWith [separator] parts) = parts := by
  induction parts with
  | nil => exact absurd rfl some
  | cons part more ih =>
    cases more with
    | nil => simpa using splitOn_of_notMem (absent part (by simp))
    | cons next others =>
      simp only [joinWith, List.append_assoc, List.cons_append, List.nil_append]
      rw [splitOn_append_separator (absent part (by simp)),
        ih (by simp) (fun p member => absent p (List.mem_cons_of_mem _ member))]

/-- The text before the first separator and, if there is one, the text after it. -/
def cutAt (separator : Char) : List Char → List Char × Option (List Char)
  | [] => ([], none)
  | c :: rest =>
    if c = separator then ([], some rest)
    else
      let (before, after) := cutAt separator rest
      (c :: before, after)

/-- The first place where `needle` stands: the text before it and the text after it. -/
def cutAtText (needle : List Char) : List Char → Option (List Char × List Char)
  | [] => if needle.isEmpty then some ([], []) else none
  | c :: rest =>
    if needle.isPrefixOf (c :: rest) then some ([], (c :: rest).drop needle.length)
    else (cutAtText needle rest).map fun (before, after) => (c :: before, after)

def lines (text : String) : List String := (splitOn '\n' text.toList).map String.ofList

/-- Several texts joined by a separating one. -/
def join (separator : String) (parts : List String) : String := separator.intercalate parts

end Bookbinder.Text
