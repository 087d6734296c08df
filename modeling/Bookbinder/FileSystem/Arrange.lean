import Bookbinder.FileSystem.Operations

/-!
Putting files where they are wanted, whatever was there before: missing directories are made, and
whole directories are taken away.
-/

set_option autoImplicit false

namespace Bookbinder.FileSystem

/-- A change that is either made as a whole or not at all. -/
def whole (change : Partly) : Except Errno FileSystem :=
  match change with
  | (files, .ok ()) => .ok files
  | (_, .error (errno, _)) => .error errno

def provideDirectory (files : FileSystem) (cwd : WorkingDirectory) (path : String) :
    Except Errno FileSystem :=
  whole (files.makeDirectories cwd (path.length + 1) path)

/-- Makes what is missing on the way to a path. -/
def provideParent (files : FileSystem) (cwd : WorkingDirectory) (path : String) :
    Except Errno FileSystem :=
  let parent := PathText.parent path
  if parent = "" then .ok files else files.provideDirectory cwd parent

def provideFile (files : FileSystem) (cwd : WorkingDirectory) (path : String)
    (content : Content) : Except Errno FileSystem := do
  let files ← files.provideParent cwd path
  let files ← files.writeFile cwd path fun _ => content.bytes
  files.setMode cwd path content.mode

def provideSymlink (files : FileSystem) (cwd : WorkingDirectory) (path target : String) :
    Except Errno FileSystem := do
  let files ← files.provideParent cwd path
  files.makeSymlink cwd target path

/-- Takes away a file, a link or a directory with all that it holds. -/
def remove (files : FileSystem) (cwd : WorkingDirectory) (path : String) :
    Except Errno FileSystem := do
  match ← files.locate cwd false path with
  | .occupied spot => return files.removeTree spot
  | .vacant _ _ | .gone => throw .noEntry

end Bookbinder.FileSystem
