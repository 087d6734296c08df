import Bookbinder.Text.Utf8

/-!
Escapes in addresses: a byte as a percent sign and two digits. Main statement: a text of characters that
are allowed where it stands is left as it is.
-/

set_option autoImplicit false

namespace Bookbinder.Web

open Bookbinder.Text (Bytes)

/-- Characters that are allowed everywhere. -/
def unreserved (c : Char) : Bool := c.isAlphanum || "-._~".toList.contains c

/-- The ASCII characters that show, less some of them. -/
def shownExcept (excluded : String) (c : Char) : Bool :=
  0x20 ≤ c.toNat && c.toNat < 0x7f && !excluded.toList.contains c

def allowedInFragment : Char → Bool := shownExcept " \"<>\x60"

def notInQuery : String := " \"#<>"

def allowedInQuery : Char → Bool := shownExcept notInQuery

def notInPath : String := notInQuery ++ "?\x60\x7b\x7d"

def allowedInPath : Char → Bool := shownExcept notInPath

def allowedInUserinfo : Char → Bool := shownExcept (notInPath ++ "/;=@[\\]^|")

def allowedInHost (c : Char) : Bool :=
  "!$&'()*+,;=\"\x60\x7b\x7d%|\\".toList.contains c

def escapeByte (byte : UInt8) : List Char :=
  '%' :: (Text.hexDigits 2 byte.toNat).map Char.toUpper

/-- Percent signs are allowed everywhere, so what is escaped already stays as it is. -/
def escapeChar (allowed : Char → Bool) (c : Char) : List Char :=
  if unreserved c || allowed c then [c] else (String.utf8EncodeChar c).flatMap escapeByte

def escape (allowed : Char → Bool) (text : String) : String :=
  String.ofList (text.toList.flatMap (escapeChar allowed))

/-- The bytes of a text whose escapes are undone. A percent sign without two digits stays. -/
def unescapeBytes : List Char → Bytes
  | [] => []
  | '%' :: high :: low :: rest =>
    match Text.hexValue? high, Text.hexValue? low with
    | some h, some l => UInt8.ofNat (h * 16 + l) :: unescapeBytes rest
    | _, _ => String.utf8EncodeChar '%' ++ unescapeBytes (high :: low :: rest)
  | c :: rest => String.utf8EncodeChar c ++ unescapeBytes rest
termination_by text => text.length

/-- A text whose escapes are undone. Bytes that are no text become replacement characters. -/
def unescape (text : String) : String :=
  String.ofList (Text.decodeUtf8Lossy (unescapeBytes text.toList))

theorem escapeChar_of_allowed {allowed : Char → Bool} {c : Char} (fits : allowed c = true) :
    escapeChar allowed c = [c] := by
  simp [escapeChar, fits]

/-- A text of allowed characters is left as it is. -/
theorem escape_of_allowed {allowed : Char → Bool} {text : String}
    (fits : ∀ c ∈ text.toList, allowed c = true) : escape allowed text = text := by
  have same : ∀ chars : List Char, (∀ c ∈ chars, allowed c = true) →
      chars.flatMap (escapeChar allowed) = chars := by
    intro chars
    induction chars with
    | nil => simp
    | cons c rest ih =>
      intro fits
      simp only [List.flatMap_cons, escapeChar_of_allowed (fits c (by simp)),
        ih (fun d member => fits d (List.mem_cons_of_mem _ member)), List.singleton_append]
  rw [escape, same text.toList fits, String.ofList_toList]

end Bookbinder.Web
