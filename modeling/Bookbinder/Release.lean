import Bookbinder.Template.Expand

/-!
A release of a tool: one archive for one platform, found under an address that a template gives.
-/

set_option autoImplicit false

namespace Bookbinder

structure Release where
  name : String
  version : String
  platform : String
  template : String
  deriving DecidableEq, Repr

namespace Release

/-- The names that the template may use. -/
def values (release : Release) : Template.Values := fun name =>
  if name = "name".toList then some release.name.toList
  else if name = "version".toList then some release.version.toList
  else if name = "platform".toList then some release.platform.toList
  else none

/-- The address of the archive. -/
def url (release : Release) : Except Template.Fault String :=
  (Template.expand release.values release.template.toList).map String.ofList

/-- The program stands at the top of the archive under the tool's name. -/
def binary (release : Release) : String := release.name

end Release

end Bookbinder
