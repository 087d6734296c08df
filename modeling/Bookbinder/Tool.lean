import Bookbinder.Workbench.Basic

/-!
The tool that builds the book: the copy on the search path or, if there is none, a release that is
brought into the book directory.
-/

set_option autoImplicit false

namespace Bookbinder

inductive Tool where
  | installed (name path : String)
  | downloaded (release : Release)
  deriving DecidableEq, Repr

namespace Tool

/-- The program to start: an installed tool by its name, a downloaded one where it lies. -/
def command : Tool → String
  | .installed name _ => name
  | .downloaded release => "./" ++ release.binary

def description : Tool → String
  | .installed name path => name ++ " (" ++ path ++ ")"
  | .downloaded release => "./" ++ release.binary ++ " (downloaded " ++ release.version ++ ")"

/-- The tool on the search path. -/
def find (workbench : Workbench) (name : String) : Action (Option Tool) := do
  return (← workbench.findTool name).map (.installed name)

def origin : String := "bookbuild.core.tool"

/-- The address of a release; a template that has none ends the action. -/
def urlOf (release : Release) : Action String :=
  match release.url with
  | .ok url => pure url
  | .error fault => throw (.template fault)

/-- The tool on the search path or else its release, brought into a directory. -/
def resolve (workbench : Workbench) (release : Release) (directory : Path) : Action Tool := do
  match ← workbench.findTool release.name with
  | some path =>
    Action.trace origin ("Using installed tool: " ++ path)
    return .installed release.name path
  | none =>
    Action.tellLine ("Installing " ++ release.name ++ "..")
    let url ← urlOf release
    workbench.fetch url directory
    let tool := Tool.downloaded release
    Action.trace origin ("Using downloaded tool: " ++ tool.command ++ " from " ++ url)
    return tool

end Tool

end Bookbinder
