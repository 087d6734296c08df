import Bookbinder.Archive.Extract
import Bookbinder.Web.Exchange

/-!
Bringing a release into a directory: its archive is downloaded and kept, and then it is extracted.
Reasons for which this fails are told in one form; whatever else goes wrong ends the program.
-/

set_option autoImplicit false

namespace Bookbinder.Delivery

/-- Where archives come from, and whether there is room to keep them. -/
structure Supply where
  network : Web.Network
  isFull : Bool

def origin : String := "bookbuild.core.release.real"

/-- Where an archive is kept until it is extracted. After some writes, the next one may be refused. -/
structure Store where
  refuses : Nat → Option Errno

/-- Without room, every write is refused. -/
def Supply.store (supply : Supply) : Store := ⟨fun _ => if supply.isFull then some .noSpace else none⟩

/-- How many bytes are written at once. -/
def pieceSize : Nat := 64 * 1024

/-- Content cut into so many pieces at most. The last one may be shorter than the others. -/
def cutPieces (size : Nat) : Nat → Text.Bytes → List Text.Bytes
  | 0, _ => []
  | most + 1, content =>
    if content.isEmpty then [] else content.take size :: cutPieces size most (content.drop size)

/-- There are no more pieces than bytes. -/
def pieces (size : Nat) (content : Text.Bytes) : List Text.Bytes := cutPieces size content.length content

/-- Writes pieces one after the other, and gives what is kept in the end. -/
def Store.write (store : Store) : Nat → List Text.Bytes → Except Errno Text.Bytes
  | _, [] => .ok []
  | count, piece :: rest =>
    match store.refuses count with
    | some errno => .error errno
    | none => (store.write (count + 1) rest).map (piece ++ ·)

/-- Downloads what lies at an address into a store. -/
def downloadTo (store : Store) (network : Web.Network) (url : String) : Action Text.Bytes := do
  let exchange := Web.fetch network url
  exchange.requests.forM fun request => Action.note (.request request)
  match exchange.result with
  | .error (.problem problem) => throw (.delivery (.notDownloaded url problem))
  | .error (.fault fault) => throw (.web fault)
  | .ok content =>
    match store.write 0 (pieces pieceSize content) with
    | .error errno => throw (.delivery (.notStored url errno))
    | .ok kept =>
      Action.trace origin
        ("Downloaded " ++ Text.digits 10 kept.length ++ " bytes from " ++ url)
      return kept

def download (supply : Supply) : String → Action Text.Bytes := downloadTo supply.store supply.network

/-- Extracts an archive into a directory, and gives the names of its members. -/
def unpack (content : Text.Bytes) (directory : Path) : Action (List String) := do
  let archive ← Archive.liftFault (Archive.ofBytes content)
  archive.extract directory.text
  return archive.names

/-- A failure of extracting as it is told. -/
def told (url : String) : Failure → Failure
  | .refused errno subject => .delivery (.notExtracted url (.refused errno subject))
  | .archive fault =>
    if fault.isReported then .delivery (.notExtracted url (.archive fault)) else .archive fault
  | failure => failure

/-- Brings the archive at an address into a directory, by way of a store. -/
def bring (store : Store) (network : Web.Network) (url : String) (directory : Path) : Action Unit := do
  Action.trace origin
    ("Fetching release archive: url=" ++ url ++ ", dest=" ++ directory.text)
  let content ← downloadTo store network url
  match ← Action.attempt (unpack content directory) with
  | .error failure => throw (told url failure)
  | .ok names =>
    Action.trace origin
      ("Extracted " ++ Text.quotedList names ++ " into " ++ directory.text)

/-- Brings the archive at an address into a directory. -/
def fetch (supply : Supply) : String → Path → Action Unit := bring supply.store supply.network

end Bookbinder.Delivery
