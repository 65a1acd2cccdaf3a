import SwaggerCmdlets.Text.Utf8
import SwaggerCmdlets.Unicode.Rows

/-! # Percent escapes — characters that an address does not show

    Each part of an address has a set of ASCII characters that it escapes; all
    that is not ASCII is always escaped.  An escape is `%` and two hexadecimal
    digits for each byte.  Decoding leaves a `%` alone that no two digits
    follow. -/

namespace SwaggerCmdlets.Url

open Text

/-- The ASCII characters that a part of an address escapes. -/
abbrev EscapeSet := Char → Bool

/-- Controls. -/
def controlSet : EscapeSet := fun c => c.toNat < 0x20 || c.toNat == 0x7F

/-- What fragments escape. -/
def fragmentSet : EscapeSet := fun c =>
  controlSet c || " \"<>`".toList.contains c

/-- What paths escape. -/
def pathSet : EscapeSet := fun c => fragmentSet c || "#?\x7b\x7d".toList.contains c

/-- What user names and passwords escape. -/
def userSet : EscapeSet := fun c => pathSet c || "/:;=@[\\]^|".toList.contains c

/-- What one segment of a local path escapes. -/
def segmentSet : EscapeSet := fun c => pathSet c || "/%\\".toList.contains c

/-- What queries escape. -/
def querySet : EscapeSet := fun c => controlSet c || " \"#<>".toList.contains c

/-- What queries of the special schemes escape. -/
def specialQuerySet : EscapeSet := fun c => querySet c || c == '\''

/-- The upper-case hexadecimal digit of a number below sixteen. -/
def hexUpper (n : Nat) : Char :=
  if n < 10 then Char.ofNat (0x30 + n) else Char.ofNat (0x37 + n)

/-- The escape of a byte. -/
def escapeByte (b : UInt8) : List Char :=
  ['%', hexUpper (b.toNat / 16), hexUpper (b.toNat % 16)]

/-- A character, escaped if the set says so. -/
def escapeChar (set : EscapeSet) (c : Char) : List Char :=
  if c.toNat < 0x80 && !set c then [c]
  else (String.utf8EncodeChar c).flatMap escapeByte

/-- A text, escaped. -/
def escape (set : EscapeSet) (cs : List Char) : List Char :=
  cs.flatMap (escapeChar set)

/-- The value of a byte that is a hexadecimal digit. -/
def hexByte? (b : UInt8) : Option Nat :=
  Unicode.hexDigit? (Char.ofNat b.toNat)

/-- The bytes with every escape replaced by its byte. -/
def unescapeBytes : List UInt8 → List UInt8
  | [] => []
  | 0x25 :: a :: b :: rest =>
    match hexByte? a, hexByte? b with
    | some x, some y => UInt8.ofNat (16 * x + y) :: unescapeBytes rest
    | _, _ => 0x25 :: unescapeBytes (a :: b :: rest)
  | a :: rest => a :: unescapeBytes rest

/-- The bytes that an escaped text stands for. -/
def unescape (cs : List Char) : List UInt8 :=
  unescapeBytes (encodeUtf8 cs)

end SwaggerCmdlets.Url
