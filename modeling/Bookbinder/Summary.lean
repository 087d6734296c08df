import Bookbinder.Duration
import Bookbinder.Terminal.Panel

/-!
What a build reports at its end.
-/

set_option autoImplicit false

namespace Bookbinder

structure Summary where
  success : Bool
  duration : Duration
  tool : Option String
  failedStep : Option String
  exitCode : Int
  deriving DecidableEq, Repr

namespace Summary

def title (summary : Summary) : String :=
  if summary.success then "Book Built" else "Book Build Failed"

/-- The lines of the report; a duration that has no text leaves none. -/
def lines (summary : Summary) : Except Duration.Fault (List String) := do
  let duration ← summary.duration.text
  let status := if summary.success then "✅ Status: Success" else "❌ Status: Failed"
  let tool := match summary.tool with
    | some tool => ["🔧 Tool: " ++ tool]
    | none => []
  let failure :=
    if summary.success then []
    else
      ["", "Failed step: " ++ summary.failedStep.getD "None",
        "Exit code: " ++ Text.ofInt summary.exitCode]
  return [status, "⏱  Duration: " ++ duration] ++ tool ++ failure

def panel (summary : Summary) : Except Duration.Fault Terminal.Panel := do
  return ⟨summary.title, ← summary.lines⟩

end Summary

end Bookbinder
