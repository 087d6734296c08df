import Bookbinder.Workbench.Basic

/-!
A workbench whose answers are fixed beforehand. Nothing is run and nothing comes over a network.
-/

set_option autoImplicit false

namespace Bookbinder

structure Rehearsal where
  /-- Tools and their paths. -/
  installed : List (String × String)
  /-- Exit codes by the first word of a command; others exit with zero. -/
  exitCodes : List (String × Int)
  /-- The program at which the user stops the build. -/
  interruptAt : Option String
  /-- Why fetching fails, if it does. -/
  fetchFailure : Option String
  /-- The files that a fetch leaves, all empty. -/
  extracted : List String

namespace Rehearsal

def run (rehearsal : Rehearsal) (words : List String) : Action Int :=
  match words with
  | [] => throw .emptyCommand
  | program :: _ =>
    if rehearsal.interruptAt = some program then throw .interrupted
    else pure ((Pairs.get? rehearsal.exitCodes program).getD 0)

def fetch (rehearsal : Rehearsal) (directory : Path) : Action Unit :=
  match rehearsal.fetchFailure with
  | some message => throw (.delivery (.told message))
  | none => rehearsal.extracted.forM fun name => Action.touch (directory.child name)

def workbench (rehearsal : Rehearsal) : Workbench :=
  Workbench.noting {
    findTool := fun tool => pure (Pairs.get? rehearsal.installed tool)
    run := fun words _ => rehearsal.run words
    fetch := fun _ directory => rehearsal.fetch directory }

end Rehearsal

end Bookbinder
