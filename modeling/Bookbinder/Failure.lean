import Bookbinder.Archive.Fault
import Bookbinder.Duration
import Bookbinder.FileSystem.Basic
import Bookbinder.Path
import Bookbinder.Settings
import Bookbinder.Text.Quoted
import Bookbinder.Web.Fault

/-!
The ways in which an action ends before its end, and what each says: among them what the operating system
says when it refuses an operation on files, and why a release could not be brought into a directory.
-/

set_option autoImplicit false

/-! ### Refusals -/

namespace Bookbinder

/-- What a refused operation on files was about. -/
inductive Subject where
  | unnamed
  | name (text : String)
  | place (path : Path)
  deriving DecidableEq, Repr

def Subject.text : Subject → String
  | .unnamed => ""
  | .name text => ": " ++ Text.quoted text
  | .place path => ": PosixPath(" ++ Text.quoted path.text ++ ")"

/-- The number of the reason, its text, and what the operation was about. -/
def Errno.message (errno : Errno) (subject : Subject) : String :=
  "[Errno " ++ Text.digits 10 errno.number ++ "] " ++ errno.text ++ subject.text

end Bookbinder

/-! ### Deliveries -/

namespace Bookbinder.Delivery

/-- Why an archive could not be extracted. -/
inductive Cause where
  | archive (fault : Archive.Fault)
  | refused (errno : Errno) (subject : Subject)
  deriving DecidableEq, Repr

def Cause.message : Cause → String
  | .archive fault => fault.message
  | .refused errno subject => errno.message subject

inductive Fault where
  /-- A reason that is given in full. -/
  | told (message : String)
  | notDownloaded (url : String) (problem : Web.Problem)
  | notStored (url : String) (errno : Errno)
  | notExtracted (url : String) (cause : Cause)
  deriving DecidableEq, Repr

def Fault.message : Fault → String
  | .told message => message
  | .notDownloaded url problem =>
    "Failed to download release archive\nURL: " ++ url ++ "\n" ++ problem.line
  | .notStored url errno =>
    "Failed to store release archive\nURL: " ++ url ++ "\nError: " ++ errno.message .unnamed
  | .notExtracted url cause =>
    "Failed to extract release archive\nURL: " ++ url ++ "\nError: " ++ cause.message

end Bookbinder.Delivery

/-! ### All failures -/

namespace Bookbinder

inductive Failure where
  | refused (errno : Errno) (subject : Subject)
  | settings (fault : Settings.Fault)
  | template (fault : Template.Fault)
  | duration (fault : Duration.Fault)
  | delivery (fault : Delivery.Fault)
  | archive (fault : Archive.Fault)
  | web (fault : Web.Fault)
  /-- A path or a word of a command holds the character NUL. -/
  | embeddedNul
  /-- A command has no words. -/
  | emptyCommand
  /-- The program ends with a status of its own choice. -/
  | exit (status : Int)
  /-- The user stopped the program. -/
  | interrupted
  deriving DecidableEq, Repr

def Failure.message : Failure → String
  | .refused errno subject => errno.message subject
  | .settings fault => fault.message
  | .template fault => fault.message
  | .duration fault => fault.message
  | .delivery fault => fault.message
  | .archive fault => fault.message
  | .web fault => fault.message
  | .embeddedNul => "embedded null byte"
  | .emptyCommand => "list index out of range"
  | .exit status => Text.ofInt status
  | .interrupted => ""

end Bookbinder
