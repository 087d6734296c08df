import Bookbinder.Proofs.Archive.Extraction
import Bookbinder.Proofs.Machine.Records

/-!
To extract an archive changes nothing but files, whatever is extracted and however that ends: it writes no text
and no records, asks for nothing, and stays in the current directory.
-/

set_option autoImplicit false

namespace Bookbinder.Archive

open Action (Keeps)

variable {kept : Machine → Prop}

namespace Extraction

variable {α β : Type}

/-- However extracting ends, and wherever in the stream it starts, something still holds. -/
abbrev Keeps (kept : Machine → Prop) (extraction : Extraction α) : Prop :=
  Meets kept extraction (fun _ => kept) kept

theorem keeps_pure (value : α) : Keeps kept (pure value) := meets_pure fun _ holds => holds

theorem keeps_throw (failure : Failure) : Keeps kept (throw failure : Extraction α) :=
  meets_throw fun _ holds => holds

theorem Keeps.attempt {extraction : Extraction α} (keeps : Keeps kept extraction) :
    Keeps kept (attempt extraction) := by
  refine ⟨fun cursor => (Action.Keeps.attempt (keeps.ends cursor)).bind fun result => ?_⟩
  cases result with
  | ok value => exact Action.keeps_pure _
  | error failure => exact Action.keeps_pure _

end Extraction

variable (ignores : IgnoresFiles kept)

theorem keeps_liftFault {α : Type} (result : Except Fault α) : Keeps kept (liftFault result) := by
  cases result with
  | ok value => exact Action.keeps_pure value
  | error fault => exact Action.keeps_throw _

theorem keeps_permit (directory : String) (member : Member) : Keeps kept (permit directory member) := by
  have inside (root path : String) (fault : String → Fault) :
      Keeps kept (requireInside root path fault) := by
    refine (Action.keeps_realPath path).bind fun place => ?_
    split
    · exact Action.keeps_throw _
    · exact Action.keeps_pure _
  have links (root name : String) (header : Header) : Keeps kept (requireLinkInside root name header) := by
    unfold requireLinkInside
    split
    · split
      · exact Action.keeps_throw_bind _ _
      · exact inside _ _ _
    · exact Action.keeps_pure _
  refine (Action.keeps_realPath directory).bind fun root => (inside root _ _).bind fun _ => ?_
  exact (keeps_liftFault _).bind fun _ => (links root _ _).bind fun _ => Action.keeps_pure _

include ignores

theorem writeData_changes_only_files (archive : Archive) (member : Member) (target : String) :
    Extraction.Keeps kept (writeData archive member target) := by
  refine Extraction.meets_cursor fun cursor => ?_
  refine (Extraction.meets_lift (keeps_liftFault _)).bind fun cursor => ?_
  refine (Extraction.meets_set _).bind fun _ => ?_
  refine (Extraction.meets_lift (Action.keeps_change ignores target _)).bind fun _ => ?_
  split
  · exact Extraction.keeps_throw _
  · exact Extraction.keeps_pure _

theorem makeSymlink_changes_only_files (linkName target : String) :
    Keeps kept (makeSymlink linkName target) := by
  have make : Keeps kept (Action.change target fun files cwd => files.makeSymlink cwd linkName target) :=
    Action.keeps_change ignores target _
  unfold makeSymlink
  split
  · exact Action.keeps_throw_bind _ _
  · refine Action.keeps_look fun machine => ?_
    split
    · exact (Action.keeps_change ignores target _).bind fun _ => make
    · exact make

theorem settle_changes_only_files (item : Item) (target : String) : Keeps kept (settle item target) := by
  refine keeps_settle fun _ mode => ?_
  unfold setPermissions
  split
  · exact Action.keeps_throw_bind _ _
  · exact Action.keeps_change ignores target _

variable {archive : Archive} {extract : Extractor}

theorem makeHardLink_changes_only_files
    (each : ∀ item path settled, Extraction.Keeps kept (extract item path settled)) (item : Item)
    (target : String) : Extraction.Keeps kept (makeHardLink archive extract item target) := by
  have replaced : Extraction.Keeps kept (replaceLink archive extract item target) :=
    meets_replaceLink (fun _ holds => holds) fun _ _ => each _ _ _
  unfold makeHardLink
  cases item.existing with
  | none => exact replaced
  | some existing =>
    refine Extraction.meets_look fun machine => ?_
    refine Extraction.Meets.unlessRefused ?_ replaced fun _ holds => holds
    split
    · exact Extraction.meets_lift (Action.keeps_change ignores target _)
    · exact meets_extractTarget (fun _ holds => holds) fun _ _ => each _ _ _

theorem place_changes_only_files
    (each : ∀ item path settled, Extraction.Keeps kept (extract item path settled)) (item : Item)
    (target : String) : Extraction.Keeps kept (place archive extract item target) := by
  unfold place
  split
  · exact Extraction.meets_lift (Action.keeps_change ignores target _)
  · refine Extraction.Meets.unlessRefused
      (Extraction.meets_lift (makeSymlink_changes_only_files ignores _ _)) ?_ fun _ holds => holds
    exact meets_replaceLink (fun _ holds => holds) fun _ _ => each _ _ _
  · exact makeHardLink_changes_only_files ignores each item target
  · exact Extraction.meets_lift (keeps_makeDevice target)
  · exact writeData_changes_only_files ignores archive _ target

theorem extractItem_changes_only_files (depth : Nat) (item : Item) (path : String) (settled : Bool) :
    Extraction.Keeps kept (extractItem archive depth item path settled) := by
  -- a link may be replaced by what it stands for, which is one step down
  induction depth generalizing item path settled with
  | zero => exact Extraction.keeps_throw _
  | succ depth ih =>
    have placed : Extraction.Keeps kept
        (do
          place archive (extractItem archive depth) item (PathText.withoutFinalSlashes path)
          if settled then settle item (PathText.withoutFinalSlashes path)) := by
      refine (place_changes_only_files ignores ih item _).bind fun _ => ?_
      split
      · exact Extraction.meets_lift (settle_changes_only_files ignores item _)
      · exact Extraction.keeps_pure _
    rw [extractItem]
    refine Extraction.meets_look fun machine => ?_
    by_cases missing : PathText.parent (PathText.withoutFinalSlashes path) ≠ "" ∧
      !machine.files.leadsSomewhere machine.cwd (PathText.parent (PathText.withoutFinalSlashes path))
    · rw [if_pos missing]
      exact (Extraction.meets_lift (Action.keeps_provideDirectory ignores _)).bind fun _ => placed
    · rw [if_neg missing]
      exact placed

theorem extractMembers_changes_only_files (directory : String) (members : List Member) :
    Extraction.Keeps kept (extractMembers archive directory members) := by
  have single (member : Member) : Extraction.Keeps kept (extractMember archive directory member) := by
    refine (Extraction.meets_lift (keeps_permit directory member)).bind fun item => ?_
    refine (extractItem_changes_only_files ignores _ item _ _).attempt.bind fun result => ?_
    split
    · exact Extraction.keeps_pure _
    · exact Extraction.keeps_pure _
    · exact Extraction.keeps_throw _
  induction members with
  | nil => exact Extraction.keeps_pure _
  | cons member rest ih =>
    exact (single member).bind fun item => ih.bind fun items => Extraction.keeps_pure _

theorem extract_changes_only_files (archive : Archive) (directory : String) :
    Keeps kept (archive.extract directory) := by
  refine Action.Keeps.bind ((extractMembers_changes_only_files ignores directory archive.members).ends
    archive.cursor) fun items => ?_
  refine Action.keeps_forM fun item => Action.keeps_look fun machine => ?_
  split
  · exact keeps_failIf _
  · exact Action.keeps_pure _

omit ignores

theorem perform_extract_changes_only_files (archive : Archive) (directory : String) (machine : Machine) :
    ∃ files, (Action.perform (archive.extract directory) machine).2 = { machine with files := files } := by
  have ignores : IgnoresFiles fun after => ∃ files, after = { machine with files := files } := by
    rintro _ files ⟨_, rfl⟩
    exact ⟨files, rfl⟩
  exact (extract_changes_only_files ignores archive directory).always ⟨machine.files, rfl⟩

end Bookbinder.Archive
