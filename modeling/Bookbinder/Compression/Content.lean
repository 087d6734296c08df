import Bookbinder.Compression.Gzip

/-!
Codings of the content of a response: each wraps deflated data in a header and a trailer, which are
checked. Content that is cut is what can be read of it, and nothing is wrong with it.
-/

set_option autoImplicit false

namespace Bookbinder.Compression

open Bookbinder.Text (Bytes)

inductive Coding where
  | gzip
  | deflate
  deriving DecidableEq, Repr

def Coding.name : Coding → String
  | .gzip => "gzip"
  | .deflate => "deflate"

def Coding.ofName? (name : String) : Option Coding :=
  [Coding.gzip, .deflate].find? fun coding => coding.name == name

theorem Coding.ofName?_name (coding : Coding) : ofName? coding.name = some coding := by
  cases coding <;> decide

namespace Content

/-- Passes over a text that has to end with a zero. -/
def skipText : Reader Unit := fun bits =>
  let length := (bits.rest.takeWhile (· != 0)).length
  if length < bits.rest.length then .ok ((), bits.skip (length + 1)) else .error .cut

/-- The header of a gzip member, whose own checksum covers all bytes before it. -/
def readGzipHeader : Reader Unit := do
  let start ← get
  let first ← Reader.bytes 2
  if first ≠ Gzip.magic then Reader.damaged .badHeader
  let second ← Reader.bytes 2
  if second.take 1 ≠ [UInt8.ofNat Gzip.deflateMethod] then Reader.damaged .unknownMethod
  let flags := Gzip.Flags.ofNat ((second.drop 1).headD 0).toNat
  if flags.reserved then Reader.damaged .unknownFlags
  let _ ← Reader.bytes Gzip.unreadFields
  Gzip.skipFields skipText flags
  if flags.headerChecksum then
    let place ← get
    let covered := start.rest.take (start.rest.length - place.rest.length)
    let given ← Reader.littleEndian 2
    if given ≠ (redundancy covered).toNat % 0x10000 then Reader.damaged .headerChecksum

/-- The trailer of a gzip member: the checksum of the content, and its length. -/
def readGzipTrailer (content : Bytes) : Reader Unit := do
  if (← Reader.littleEndian 4) ≠ (redundancy content).toNat then Reader.damaged .dataChecksum
  if (← Reader.littleEndian 4) ≠ content.length % Gzip.lengthLimit then Reader.damaged .dataLength

/-- The greatest size of the window that a header may ask for, as a power of two less eight. -/
def largestWindow : Nat := 7

/-- The short header of two bytes. One that asks for a dictionary is refused, since there is none. -/
def readShortHeader : Reader Unit := do
  let fields ← Reader.bytes 2
  let method := (fields.headD 0).toNat
  let flags := ((fields.drop 1).headD 0).toNat
  if (method * 256 + flags) % 31 ≠ 0 then Reader.damaged .badHeader
  if method % 16 ≠ Gzip.deflateMethod then Reader.damaged .unknownMethod
  if method / 16 > largestWindow then Reader.damaged .badWindow
  if flags.testBit 5 then
    let _ ← Reader.bytes 4
    Reader.damaged .badHeader

/-- The trailer after the short header: the running sums, the highest byte first. -/
def readShortTrailer (content : Bytes) : Reader Unit := do
  let given := (← Reader.bytes 4).foldl (fun value byte => value * 256 + byte.toNat) 0
  if given ≠ runningSums content then Reader.damaged .dataChecksum

/-- Only damage is a fault; content that is cut is what was read of it. -/
def settle (content : Bytes) : Stop → Except Damage Bytes
  | .cut => .ok content
  | .damaged damage _ => .error damage

/-- The content of wrapped data. What comes after the trailer is left alone. -/
def unwrap (header : Reader Unit) (trailer : Bytes → Reader Unit) (data : Bytes) :
    Except Damage Bytes :=
  match header.run (.start data) with
  | .error stop => settle [] stop
  | .ok (_, bits) =>
    match inflate bits.rest with
    | ⟨output, _, .error stop⟩ => settle output.toList stop
    | ⟨output, _, .ok rest⟩ =>
      let content := output.toList
      match (trailer content).run (.start rest) with
      | .error stop => settle content stop
      | .ok _ => .ok content

end Content

/-- Undoes a coding. Deflated data are often sent without their wrapping, so that is tried as well. -/
def Coding.decode (coding : Coding) (data : Bytes) : Except Damage Bytes :=
  match coding with
  | .gzip => Content.unwrap Content.readGzipHeader Content.readGzipTrailer data
  | .deflate =>
    match Content.unwrap Content.readShortHeader Content.readShortTrailer data with
    | .ok content => .ok content
    | .error _ => Content.unwrap (pure ()) (fun _ => pure ()) data

/-- Undoes several codings, the one that was applied last first. -/
def Coding.decodeAll (codings : List Coding) (data : Bytes) : Except Damage Bytes :=
  codings.reverse.foldlM (fun content coding => coding.decode content) data

theorem Coding.decodeAll_nil (data : Bytes) : decodeAll [] data = .ok data := rfl

theorem Coding.decode_nil (coding : Coding) : coding.decode [] = .ok [] := by
  cases coding <;> rfl

end Bookbinder.Compression
