import SwaggerCmdlets.Text.Utf8
import SwaggerCmdlets.Unicode.Rows
import SwaggerCmdlets.Yaml.Cursor
import SwaggerCmdlets.Yaml.Token

/-! # Names, tags and directives

    Anchors and aliases have names.  A tag is a handle, which directives can
    give a meaning, and a suffix that may hold escaped bytes. -/

namespace SwaggerCmdlets.Yaml

open Unicode

/-- Reads the name of an anchor or alias, and sees to what may follow it. -/
def readName (c : Cursor) : Option (String × Cursor) :=
  let (name, c) := c.takeWhile isNameChar
  let stops := ['?', ':', ',', ']', '\x7d', '%', '@', '\x60']
  if !name.isEmpty && (c.isGapAt 0 || c.rest.head?.any stops.contains)
  then some (String.ofList name, c) else none

/-- The number of bytes of a character, by its first byte. -/
def sequenceLength? (b : Nat) : Option Nat :=
  if b < 0x80 then some 1
  else if 0xC0 ≤ b && b < 0xE0 then some 2
  else if 0xE0 ≤ b && b < 0xF0 then some 3
  else if 0xF0 ≤ b && b < 0xF8 then some 4
  else none

/-- Reads an escaped byte. -/
def readByte (c : Cursor) : Option (Nat × Cursor) :=
  match c.rest with
  | '%' :: a :: b :: _ =>
    match hexDigit? a, hexDigit? b with
    | some a, some b => some (16 * a + b, c.skip 3)
    | _, _ => none
  | _ => none

/-- Reads further bytes of a character. -/
def readLaterBytes : Nat → Cursor → Option (List UInt8 × Cursor)
  | 0, c => some ([], c)
  | n + 1, c => do
    let (b, c) ← readByte c
    if b < 0x80 || 0xC0 ≤ b then none
    let (bs, c) ← readLaterBytes n c
    return (UInt8.ofNat b :: bs, c)

/-- Reads the escaped bytes of a character. -/
def readBytes (c : Cursor) : Option (List UInt8 × Cursor) := do
  let (b, c) ← readByte c
  let n ← sequenceLength? b
  let (bs, c) ← readLaterBytes (n - 1) c
  return (UInt8.ofNat b :: bs, c)

/-- Whether the character may stand in a tag; commas and brackets only between
    angle brackets. -/
def isTagChar (verbatim : Bool) (x : Char) : Bool :=
  isNameChar x || ";/?:@&=+$.%!~*'()".toList.contains x || (verbatim && [',', '[', ']'].contains x)

/-- Reads the text of a tag. -/
def readTagText (verbatim : Bool) : Nat → Cursor → Option (List UInt8 × Cursor)
  | 0, c => some ([], c)
  | limit + 1, c =>
    match c.rest with
    | [] => some ([], c)
    | x :: _ =>
      if !isTagChar verbatim x then some ([], c)
      else
        let part := if x == '%' then readBytes c else some (Text.encodeUtf8 [x], c.skip 1)
        match part with
        | none => none
        | some (bytes, c) => (readTagText verbatim limit c).map fun (rest, c) => (bytes ++ rest, c)

/-- The text of a tag at the cursor. -/
def tagTextAt (verbatim : Bool) (c : Cursor) : Option (List UInt8 × Cursor) :=
  readTagText verbatim (c.rest.length + 1) c

/-- Reads what looks like a handle: an exclamation mark, a name, perhaps another
    mark. -/
def readHandle (c : Cursor) : Option (List Char × Cursor) :=
  if !c.looksAt '!' then none
  else
    let (name, c) := (c.skip 1).takeWhile isNameChar
    if c.looksAt '!' then some ('!' :: name ++ ['!'], c.skip 1) else some ('!' :: name, c)

/-- Reads a tag without looking at what follows it. -/
def readTagBody (c : Cursor) : Option (Token × Cursor) :=
  if c.at? 1 == some '<' then do
    let (text, c) ← tagTextAt true (c.skip 2)
    if text.isEmpty || !c.looksAt '>' then none
    return (.tag "" text, c.skip 1)
  else do
    let (handle, c) ← readHandle c
    let (text, c) ← tagTextAt false c
    if 1 < handle.length && handle.getLast? == some '!' then
      if text.isEmpty then none
      return (.tag (String.ofList handle) text, c)
    else
      let suffix := Text.encodeUtf8 (handle.drop 1) ++ text
      return (if suffix.isEmpty then .tag "" [0x21] else .tag "!" suffix, c)

/-- Reads a tag. -/
def readTag (inFlow : Bool) (c : Cursor) : Option (Token × Cursor) :=
  match readTagBody c with
  | some (token, c) => if c.isGapAt 0 || (inFlow && c.looksAt ',') then some (token, c) else none
  | none => none

/-- Reads a number of a version, of nine digits at most. -/
def readVersionNumber (c : Cursor) : Option (Nat × Cursor) :=
  let (digits, c) := c.takeWhile Char.isDigit
  if digits.isEmpty || 9 < digits.length then none
  else some (digits.foldl (fun n d => 10 * n + (d.toNat - 0x30)) 0, c)

/-- Reads what stands in a directive of a known name. -/
def readDirectiveBody (name : List Char) (c : Cursor) : Option (Token × Cursor) :=
  let c := c.skipWhile isBlank
  if name = "YAML".toList then do
    let (major, c) ← readVersionNumber c
    if !c.looksAt '.' then none
    let (minor, c) ← readVersionNumber (c.skip 1)
    return (.version major minor, c)
  else if name = "TAG".toList then do
    let (handle, c) ← readHandle c
    if handle != ['!'] && (handle.length < 2 || handle.getLast? != some '!') then none
    if !c.rest.head?.any isBlank then none
    let (text, c) ← tagTextAt true (c.skipWhile isBlank)
    if text.isEmpty || !c.isGapAt 0 then none
    return (.tagHandle (String.ofList handle) text, c)
  else none

/-- Reads a directive, which takes a line. -/
def readDirective (c : Cursor) : Option (Token × Cursor) := do
  let (name, c) := (c.skip 1).takeWhile isNameChar
  if name.isEmpty || !c.isGapAt 0 then none
  let (token, c) ← readDirectiveBody name c
  let c := c.skipComment
  if !c.atLineEnd then none
  return (token, c.skipBreak)

end SwaggerCmdlets.Yaml
