import Bookbinder.Proofs.Settings.Cover
import Bookbinder.Proofs.Toml.Inline

/-!
Settings files laid out in any way. A layout is a row of lines: lines that give a setting, lines with
anything else that can be read by itself and, where the tool's table stands on one line, the line of that
table with its entries. Main statement: `enterAll_items`, that settings among the entries of such a table
are added to what the other entries make up.
-/

set_option autoImplicit false

namespace Bookbinder

/-- Where a statement makes its change, seen from the top of the file. -/
def Toml.Statement.path (header : Toml.Key) : Toml.Statement → Toml.Key
  | .entry key _ => header ++ key
  | .table key => key
  | .tableArray key => key

/-- The header that the lines after a statement stand under. -/
def Toml.Statement.leaves (header : Toml.Key) : Toml.Statement → Toml.Key
  | .entry _ _ => header
  | .table key => key
  | .tableArray key => key

namespace Settings

open Toml (Key Table Value Statement States Names Spells IsPair skipBlanks skipComment)

/-- How the settings of the tool are given: under the header of a table, in a table on one line, or under
dotted keys. -/
inductive Form where
  | headed
  | inline
  | dotted
  deriving DecidableEq, Repr

/-- The header that the line of a setting stands under; in a table on one line the settings of the tool
have no lines of their own. -/
def Form.home? (form : Form) (setting : Setting) : Option Key :=
  match setting.path, form with
  | [_], _ => some []
  | _, .headed => some ["tool"]
  | _, .inline => none
  | _, .dotted => some []

/-- What may stand beside the settings: anything under foreign keys, and the header of the tool's table. -/
def Form.Allows (form : Form) (header : Key) (statement : Statement) : Prop :=
  Foreign (statement.path header) ∨ form = .headed ∧ statement = .table ["tool"]

/-- The text of a setting: up to its value, the value, and what stands behind. -/
structure Entry where
  lead : List Char
  written : List Char
  trail : List Char
  setting : Setting

def Entry.text (entry : Entry) : List Char := entry.lead ++ (entry.written ++ entry.trail)

/-- The text names the setting by a key and spells out the value that is given for it. -/
structure Entry.Gives (entry : Entry) (given : Partial) (key : Key) : Prop where
  names : Names entry.lead key
  spells : ∃ value, given.value? entry.setting = some value ∧ Spells entry.written value

/-- An entry of the tool's table on one line. -/
inductive Item where
  | setting (entry : Entry)
  | other (text : List Char) (pair : Key × Value)

namespace Item

def text : Item → List Char
  | .setting entry => entry.text
  | .other text _ => text

def settings : Item → List Setting
  | .setting entry => [entry.setting]
  | .other _ _ => []

def isOther : Item → Bool
  | .setting _ => false
  | .other _ _ => true

def Fits (given : Partial) : Item → Prop
  | .setting entry =>
    (∃ name, entry.setting.path = ["tool", name] ∧ entry.Gives given [name]) ∧
      skipBlanks entry.trail = []
  | .other text pair => IsPair text pair ∧ Foreign ("tool" :: pair.1)

end Item

/-- The line of the tool's table, with the blanks at its start. -/
def toolText (lead blanks : List Char) (items : List Item) (trail : List Char) : List Char :=
  lead ++ (Toml.inlineText blanks (items.map Item.text) ++ trail)

inductive Line where
  | setting (entry : Entry)
  | tool (lead blanks : List Char) (items : List Item) (trail : List Char)
  | other (text : List Char) (stated : List Statement)

namespace Line

def text : Line → List Char
  | .setting entry => entry.text
  | .tool lead blanks items trail => toolText lead blanks items trail
  | .other text _ => text

def settings : Line → List Setting
  | .setting entry => [entry.setting]
  | .tool _ _ items _ => items.flatMap Item.settings
  | .other _ _ => []

/-- What is left of a line without its settings. -/
def plain : Line → List Line
  | .setting _ => []
  | .tool lead blanks items trail => [.tool lead blanks (items.filter Item.isOther) trail]
  | .other text stated => [.other text stated]

/-- The header that the lines after this one stand under. -/
def leaves (header : Key) : Line → Key
  | .other _ stated => stated.foldl Statement.leaves header
  | _ => header

def Fits (given : Partial) (form : Form) (header : Key) : Line → Prop
  | .setting entry =>
    (∃ key, header ++ key = entry.setting.path ∧ entry.Gives given key) ∧
      form.home? entry.setting = some header ∧ skipComment (skipBlanks entry.trail) = .ok []
  | .tool lead blanks items trail =>
    form = .inline ∧ header = [] ∧ Names lead ["tool"] ∧ skipBlanks blanks = [] ∧
      skipComment (skipBlanks trail) = .ok [] ∧ (∀ item ∈ items, item.Fits given) ∧
      ∃ table, States (toolText lead blanks (items.filter Item.isOther) trail) [.entry ["tool"] (.table table)]
  | .other text stated => States text stated ∧ ∀ statement ∈ stated, form.Allows header statement

end Line

/-- Lines that fit one after the other, the first of them under a header. -/
def FitAll (given : Partial) (form : Form) : Key → List Line → Prop
  | _, [] => True
  | header, line :: lines => line.Fits given form header ∧ FitAll given form (line.leaves header) lines

def textOf (lines : List Line) : List Char := Text.joinWith ['\n'] (lines.map Line.text)

/-- Lines that lay out some settings, each of them once, and anything else that can be read without
them. -/
structure LaysOut (lines : List Line) (given : Partial) (form : Form) : Prop where
  fit : FitAll given form [] lines
  once : (lines.flatMap Line.settings).Nodup
  all : ∀ setting, (given.value? setting).isSome → setting ∈ lines.flatMap Line.settings
  readable : ∃ table, Toml.parse (textOf (lines.flatMap Line.plain)) = .ok table

theorem isNested_of_tool {given : Partial} {setting : Setting} {name : String} {value : Value}
    (path : setting.path = ["tool", name]) (gives : given.value? setting = some value) :
    value.isNested = false := by
  cases setting with
  | bookDir => simp [Setting.path] at path
  | prebuild => simp [Setting.path] at path
  | _ =>
    obtain ⟨text, -, rfl⟩ := Option.map_eq_some_iff.1 gives
    rfl

theorem isFrozen_eq_false_iff {frozen : List Key} {key : Key} :
    Toml.isFrozen frozen key = false ↔ ∀ stem ∈ frozen, ¬ stem <+: key := by
  simp [Toml.isFrozen]

/-- A foreign key of the tool's table. -/
theorem Foreign.inTool {key : Key} (foreign : Foreign ("tool" :: key)) :
    ∃ name rest, key = name :: rest ∧ ∀ setting : Setting, ¬ ["tool", name] <+: setting.path := by
  obtain ⟨first, rest, same, other | ⟨-, name, others, rfl, other⟩⟩ := foreign.cases
  · cases same
    exact absurd (by decide) (other .name)
  · cases same
    exact ⟨name, others, rfl, other⟩

theorem CoversAt.addInline {given : Partial} {done : List Setting} {frozen : List Key} {key : Key}
    {value : Value} {inner fullInner after : Table} (covers : CoversAt ["tool"] given done inner fullInner)
    (foreign : Foreign ("tool" :: key)) (added : Toml.addInline frozen key value inner = .ok after) :
    ∃ fullAfter, Toml.addInline frozen key value fullInner = .ok fullAfter ∧
      CoversAt ["tool"] given done after fullAfter := by
  obtain ⟨name, rest, rfl, other⟩ := foreign.inTool
  cases free : Toml.isFrozen frozen (name :: rest) with
  | true => simp [Toml.addInline, free] at added
  | false =>
    obtain ⟨change, shape⟩ := alter_eq_changeAt false
      (Toml.fresh value (.duplicateInlineKey ((name :: rest).getLastD ""))) name rest
    rw [Toml.addInline_of_free free, shape] at added ⊢
    exact covers.changeAt other added

/-- What a table on one line holds without the settings, it holds with them, and the settings too. -/
theorem enterAll_items {given : Partial} {items : List Item} (fit : ∀ item ∈ items, item.Fits given)
    (once : (items.flatMap Item.settings).Nodup) :
    ∃ plainPairs fullPairs,
      List.Forall₂ IsPair ((items.filter Item.isOther).map Item.text) plainPairs ∧
      List.Forall₂ IsPair (items.map Item.text) fullPairs ∧
      ∀ {done : List Setting} {frozen : List Key} {inner fullInner after : Table},
        (∀ setting ∈ items.flatMap Item.settings, setting ∉ done) →
        (∀ key ∈ frozen, Foreign ("tool" :: key)) →
        CoversAt ["tool"] given done inner fullInner → Toml.enterAll frozen inner plainPairs = .ok after →
        ∃ fullAfter, Toml.enterAll frozen fullInner fullPairs = .ok fullAfter ∧
          CoversAt ["tool"] given (items.flatMap Item.settings ++ done) after fullAfter := by
  induction items with
  | nil =>
    refine ⟨[], [], .nil, .nil, fun {done frozen inner fullInner after} _ _ covers entered => ?_⟩
    cases entered
    exact ⟨fullInner, rfl, covers⟩
  | cons item items ih =>
    have first := fit item List.mem_cons_self
    have later := ih (fun other member => fit other (List.mem_cons_of_mem _ member))
    cases item with
    | other text pair =>
      obtain ⟨plainPairs, fullPairs, plainAre, fullAre, onward⟩ := later once
      obtain ⟨is, foreign⟩ := first
      obtain ⟨key, value⟩ := pair
      refine ⟨(key, value) :: plainPairs, (key, value) :: fullPairs, .cons is plainAre, .cons is fullAre, ?_⟩
      intro done frozen inner fullInner after new frozenForeign covers entered
      obtain ⟨between, added, entered⟩ := bind_eq_ok_iff.1 entered
      obtain ⟨fullBetween, fullAdded, covers⟩ := covers.addInline foreign added
      have stillForeign : ∀ stem ∈ (if value.isNested then key :: frozen else frozen),
          Foreign ("tool" :: stem) := by
        split
        · simpa using ⟨foreign, frozenForeign⟩
        · exact frozenForeign
      obtain ⟨fullAfter, fullEntered, coversAfter⟩ := onward new stillForeign covers entered
      refine ⟨fullAfter, ?_, coversAfter⟩
      rw [Toml.enterAll, fullAdded]
      exact fullEntered
    | setting entry =>
      obtain ⟨⟨name, path, names, value, gives, spells⟩, blank⟩ := first
      obtain ⟨fresh, once⟩ := List.nodup_cons.1 once
      obtain ⟨plainPairs, fullPairs, plainAre, fullAre, onward⟩ := later once
      have is : IsPair entry.text ([name], value) := Toml.isPair_entry names spells.writes blank
      refine ⟨plainPairs, ([name], value) :: fullPairs, plainAre, .cons is fullAre, ?_⟩
      intro done frozen inner fullInner after new frozenForeign covers entered
      have free : Toml.isFrozen frozen [name] = false := by
        refine isFrozen_eq_false_iff.2 fun stem member leads => (frozenForeign stem member entry.setting).1 ?_
        rw [path]
        exact List.cons_prefix_cons.2 ⟨rfl, leads⟩
      obtain ⟨fullBetween, fullAdded, covers⟩ := covers.enter path (new _ List.mem_cons_self) gives
        (.duplicateInlineKey ([name].getLastD ""))
      have others : ∀ setting ∈ items.flatMap Item.settings, setting ∉ entry.setting :: done := by
        intro setting member
        simp only [List.mem_cons, not_or]
        refine ⟨?_, new setting (List.mem_cons_of_mem _ member)⟩
        rintro rfl
        exact fresh member
      obtain ⟨fullAfter, fullEntered, coversAfter⟩ := onward others frozenForeign covers entered
      refine ⟨fullAfter, ?_, coversAfter.of_mem fun setting => ?_⟩
      · rw [Toml.enterAll, Toml.addInline_of_free free, Toml.Table.alter, fullAdded,
          isNested_of_tool path gives]
        exact fullEntered
      · simp only [List.mem_append, List.mem_cons, List.flatMap_cons, Item.settings, List.mem_nil_iff,
          or_false]
        tauto

end Settings

end Bookbinder
