/-! # Bytes — texts as bytes and back

    Addresses are escaped byte by byte, files hold bytes, and positions in a
    document count bytes; the bytes of a text are those of UTF-8.  Decoding is
    strict: every character in its shortest form, no surrogates. -/

namespace SwaggerCmdlets.Text

/-- The bytes of a text. -/
def encodeUtf8 (cs : List Char) : List UInt8 :=
  cs.flatMap String.utf8EncodeChar

/-- The number of bytes of a text. -/
def byteLength (cs : List Char) : Nat :=
  cs.foldl (fun n c => n + c.utf8Size) 0

/-- The low six bits of a continuation byte. -/
def continuation? (b : UInt8) : Option Nat :=
  if 0x80 ≤ b && b ≤ 0xBF then some (b.toNat - 0x80) else none

/-- The character of two bytes. -/
def decodeTwo? (a b : UInt8) : Option Char := do
  let x ← continuation? b
  if 0xC2 ≤ a && a ≤ 0xDF then some (Char.ofNat ((a.toNat - 0xC0) * 0x40 + x)) else none

/-- The character of three bytes. -/
def decodeThree? (a b c : UInt8) : Option Char := do
  let x ← continuation? b
  let y ← continuation? c
  let n := ((a.toNat - 0xE0) * 0x40 + x) * 0x40 + y
  if 0xE0 ≤ a && a ≤ 0xEF && 0x800 ≤ n && !(0xD800 ≤ n && n ≤ 0xDFFF)
  then some (Char.ofNat n) else none

/-- The character of four bytes. -/
def decodeFour? (a b c d : UInt8) : Option Char := do
  let x ← continuation? b
  let y ← continuation? c
  let z ← continuation? d
  let n := (((a.toNat - 0xF0) * 0x40 + x) * 0x40 + y) * 0x40 + z
  if 0xF0 ≤ a && a ≤ 0xF4 && 0x10000 ≤ n && n ≤ 0x10FFFF
  then some (Char.ofNat n) else none

/-- Reads characters off the front, latest first. -/
def decodeUtf8From (acc : List Char) : List UInt8 → Option (List Char)
  | [] => some acc.reverse
  | a :: rest =>
    if a < 0x80 then decodeUtf8From (Char.ofNat a.toNat :: acc) rest
    else match rest with
      | [] => none
      | b :: rest₁ =>
        if a < 0xE0 then
          match decodeTwo? a b with
          | some ch => decodeUtf8From (ch :: acc) rest₁
          | none => none
        else match rest₁ with
          | [] => none
          | c :: rest₂ =>
            if a < 0xF0 then
              match decodeThree? a b c with
              | some ch => decodeUtf8From (ch :: acc) rest₂
              | none => none
            else match rest₂ with
              | [] => none
              | d :: rest₃ =>
                match decodeFour? a b c d with
                | some ch => decodeUtf8From (ch :: acc) rest₃
                | none => none

/-- The text whose bytes these are, if they are those of a text. -/
def decodeUtf8? (bytes : List UInt8) : Option (List Char) :=
  decodeUtf8From [] bytes

end SwaggerCmdlets.Text
