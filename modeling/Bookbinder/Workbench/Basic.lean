import Bookbinder.Machine.Files

/-!
What a build needs others for: finding tools, running commands and fetching archives.
-/

set_option autoImplicit false

namespace Bookbinder

structure Workbench where
  /-- The path of an installed tool. -/
  findTool : String → Action (Option String)
  /-- Runs a command in a directory and gives its exit code. -/
  run : List String → Path → Action Int
  /-- Brings the archive at an address into a directory. -/
  fetch : String → Path → Action Unit

namespace Workbench

/-- A workbench that only says what it would do. Tools are looked up as before. -/
def announcing (workbench : Workbench) : Workbench where
  findTool := workbench.findTool
  run words directory := do
    Action.tellLine
      ("[DRY RUN] Would run: " ++ Text.join " " words ++ " (in " ++ directory.text ++ ")")
    return 0
  fetch url directory :=
    Action.tellLine
      ("[DRY RUN] Would download: " ++ url ++ " (into " ++ directory.text ++ ")")

/-- A workbench that notes what is asked of it, and then does it. -/
def noting (workbench : Workbench) : Workbench where
  findTool tool := do
    Action.note (.lookup tool)
    workbench.findTool tool
  run words directory := do
    Action.note (.command words directory)
    Action.note (.position (← Action.currentDirectory))
    workbench.run words directory
  fetch url directory := do
    Action.note (.fetch url directory)
    workbench.fetch url directory

end Workbench

end Bookbinder
