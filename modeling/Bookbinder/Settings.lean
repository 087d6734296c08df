import Bookbinder.Path
import Bookbinder.Release
import Bookbinder.Text.Newlines
import Bookbinder.Text.Utf8
import Bookbinder.Toml.Document

/-!
The settings of a build and their file. A file may leave out any of them; the rest have built-in
values. Every fault of a value names the file and the key.
-/

set_option autoImplicit false

namespace Bookbinder

structure Settings where
  bookDir : Path
  prebuild : List String
  release : Release
  /-- The file that the settings were read from, if there was one. -/
  source : Option Path
  deriving DecidableEq, Repr

namespace Settings

def fileName : String := "bookbuild.toml"

def file (directory : Path) : Path := directory.child fileName

def defaultBookDir : String := "book"

def defaultPrebuild : List String := ["./ci/build-highlight-js"]

def defaultRelease : Release where
  name := "mdbook"
  version := "v0.3.1"
  platform := "x86_64-unknown-linux-gnu"
  template :=
    "https://github.com/rust-lang-nursery/mdBook/releases/download/" ++
      "\x7bversion\x7d/\x7bname\x7d-\x7bversion\x7d-\x7bplatform\x7d.tar.gz"

def default : Settings where
  bookDir := Path.parse defaultBookDir
  prebuild := defaultPrebuild
  release := defaultRelease
  source := none

/-- What is wrong with a settings file. -/
inductive Fault where
  | undecodable (error : Text.Utf8Error)
  | malformed (error : Toml.Error)
  | notText (key : String) (file : Path)
  | notTexts (key : String) (file : Path)
  | notTable (key : String) (file : Path)
  | template (key : String) (file : Path) (fault : Template.Fault)
  deriving DecidableEq, Repr

/-- Whether a fault lies in the values of the file. An index that is no number is not taken for one: it
shows only when the template is filled in. -/
def Fault.isValueFault : Fault → Bool
  | .template _ _ fault => fault.kind ≠ .wrongIndexType
  | _ => true

/-- What is wrong, in full. -/
def Fault.message : Fault → String
  | .undecodable error => error.message
  | .malformed error => error.message
  | .notText key file => "'" ++ key ++ "' must be a non-empty string in " ++ file.text
  | .notTexts key file => "'" ++ key ++ "' must be a non-empty list of strings in " ++ file.text
  | .notTable key file => "'" ++ key ++ "' must be a table in " ++ file.text
  | .template key file fault =>
    if fault.kind = .wrongIndexType then fault.message
    else
      "'" ++ key ++ "' must only use \x7bname\x7d, \x7bversion\x7d and \x7bplatform\x7d in " ++
        file.text ++ " (" ++ fault.report ++ ")"

/-- A text that may be left out but not left empty. -/
def requireText (table : Toml.Table) (key fallback : String) (file : Path) : Except Fault String :=
  match table.get? key with
  | none => .ok fallback
  | some (.text value) => if value = "" then .error (.notText key file) else .ok value
  | some _ => .error (.notText key file)

def textOf? : Toml.Value → Option String
  | .text value => some value
  | _ => none

/-- A list of texts that may be left out but not left empty. -/
def requireTexts (table : Toml.Table) (key : String) (fallback : List String) (file : Path) :
    Except Fault (List String) :=
  match table.get? key with
  | none => .ok fallback
  | some (.array items) =>
    match items.mapM textOf? with
    | some (first :: rest) => .ok (first :: rest)
    | _ => .error (.notTexts key file)
  | some _ => .error (.notTexts key file)

def requireTable (table : Toml.Table) (key : String) (file : Path) : Except Fault Toml.Table :=
  match table.get? key with
  | none => .ok []
  | some (.table inner) => .ok inner
  | some _ => .error (.notTable key file)

/-- The settings in a table. Keys are checked in a fixed order, and the template last. -/
def ofTable (file : Path) (table : Toml.Table) : Except Fault Settings := do
  let bookDir ← requireText table "book_dir" defaultBookDir file
  let prebuild ← requireTexts table "prebuild" defaultPrebuild file
  let tool ← requireTable table "tool" file
  let name ← requireText tool "name" defaultRelease.name file
  let version ← requireText tool "version" defaultRelease.version file
  let platform ← requireText tool "platform" defaultRelease.platform file
  let template ← requireText tool "url_template" defaultRelease.template file
  let release : Release := ⟨name, version, platform, template⟩
  match release.url with
  | .error fault => throw (.template "url_template" file fault)
  | .ok _ => return ⟨Path.parse bookDir, prebuild, release, some file⟩

/-- The settings in the text of a file, whatever its line ends are. -/
def parse (file : Path) (text : List Char) : Except Fault Settings :=
  match Toml.parse (Text.unifyNewlines text) with
  | .error error => .error (.malformed error)
  | .ok table => ofTable file table

/-- The settings in the bytes of a file. -/
def read (file : Path) (bytes : Text.Bytes) : Except Fault Settings :=
  match Text.decodeUtf8 bytes with
  | .error error => .error (.undecodable error)
  | .ok text => parse file text

/-- A line that gives a key a value. -/
def entryLine (key : String) (value : List Char) : List Char :=
  key.toList ++ " = ".toList ++ value ++ ['\n']

def writeText (value : String) : List Char := Toml.writeBasic value.toList

def writeTexts (values : List String) : List Char :=
  '[' :: Text.joinWith ", ".toList (values.map writeText) ++ [']']

/-- The text of a settings file that gives every setting. -/
def write (settings : Settings) : List Char :=
  "# bookbuild configuration\n".toList ++
    entryLine "book_dir" (writeText settings.bookDir.text) ++
    entryLine "prebuild" (writeTexts settings.prebuild) ++
    "\n[tool]\n".toList ++
    entryLine "name" (writeText settings.release.name) ++
    entryLine "version" (writeText settings.release.version) ++
    entryLine "platform" (writeText settings.release.platform) ++
    entryLine "url_template" (writeText settings.release.template)

/-- The book directory seen from the current one. -/
def bookDirFrom (settings : Settings) (cwd : Path) : Path := cwd.join settings.bookDir

/-- Where a downloaded tool is put. -/
def binaryFrom (settings : Settings) (cwd : Path) : Path :=
  (settings.bookDirFrom cwd).child settings.release.binary

/-- The same settings with another book directory. -/
def withBookDir (settings : Settings) (bookDir : Path) : Settings :=
  { settings with bookDir := bookDir }

/-- Text without a carriage return is read as it stands. -/
theorem parse_unifyNewlines (file : Path) (text : List Char) :
    parse file (Text.unifyNewlines text) = parse file text := by
  simp only [parse,
    Text.unifyNewlines_of_notMem (Text.return_notMem_unifyNewlines text)]

end Settings

end Bookbinder
