/-! # The cursor — a place in a text that knows its column

    Indentation means something, so that the place of reading is kept with its
    line and column.  Breaks are carriage return, line feed, both together, and
    the three Unicode line ends; blanks are the space and the tab. -/

namespace SwaggerCmdlets.Yaml

/-- The characters that a text may hold. -/
def isAllowed (c : Char) : Bool :=
  let n := c.toNat
  n == 0x09 || n == 0x0A || n == 0x0D || (0x20 ≤ n && n ≤ 0x7E) || n == 0x85
    || (0xA0 ≤ n && n ≤ 0xD7FF) || (0xE000 ≤ n && n ≤ 0xFFFD) || 0x10000 ≤ n

/-- A space or a tab. -/
def isBlank (c : Char) : Bool := c == ' ' || c == '\t'

/-- A character that ends a line. -/
def isBreak (c : Char) : Bool :=
  c == '\r' || c == '\n' || c == '\u0085' || c == '\u2028' || c == '\u2029'

/-- Neither blank nor break. -/
def isSolid (c : Char) : Bool := !isBlank c && !isBreak c

/-- A letter, digit, underscore or hyphen. -/
def isNameChar (c : Char) : Bool := c.isAlphanum || c == '_' || c == '-'

/-- A place in a text. -/
structure Cursor where
  rest : List Char
  index : Nat
  line : Nat
  column : Nat

namespace Cursor

/-- The start of a text. -/
def start (cs : List Char) : Cursor := ⟨cs, 0, 0, 0⟩

/-- The character at a distance. -/
def at? (c : Cursor) (n : Nat) : Option Char := c.rest[n]?

/-- Whether the given character is next. -/
def looksAt (c : Cursor) (x : Char) : Bool := c.rest.head? == some x

/-- Whether a blank, a break or the end is at a distance. -/
def isGapAt (c : Cursor) (n : Nat) : Bool := !(c.at? n).any isSolid

/-- Whether a break is next. -/
def atBreak (c : Cursor) : Bool := c.rest.head?.any isBreak

/-- Whether a break or the end is next. -/
def atLineEnd (c : Cursor) : Bool := c.rest.isEmpty || c.atBreak

/-- Moves on by characters of one line. -/
def skip (c : Cursor) (n : Nat) : Cursor :=
  ⟨c.rest.drop n, c.index + n, c.line, c.column + n⟩

/-- Moves on while the characters are of a kind. -/
def skipWhile (c : Cursor) (p : Char → Bool) : Cursor :=
  c.skip (c.rest.takeWhile p).length

/-- The characters of a kind, and the place after them. -/
def takeWhile (c : Cursor) (p : Char → Bool) : List Char × Cursor :=
  (c.rest.takeWhile p, c.skipWhile p)

/-- The break that is next, as it counts in a text, and the place after it. -/
def takeBreak (c : Cursor) : List Char × Cursor :=
  match c.rest with
  | '\r' :: '\n' :: rest => (['\n'], ⟨rest, c.index + 2, c.line + 1, 0⟩)
  | x :: rest =>
    if !isBreak x then ([], c)
    else (if x == '\u2028' || x == '\u2029' then [x] else ['\n'],
      ⟨rest, c.index + 1, c.line + 1, 0⟩)
  | [] => ([], c)

/-- The place after the break that is next. -/
def skipBreak (c : Cursor) : Cursor := c.takeBreak.2

/-- Blanks and a comment up to the end of the line. -/
def skipComment (c : Cursor) : Cursor :=
  let c := c.skipWhile isBlank
  if c.looksAt '#' then c.skipWhile (!isBreak ·) else c

/-- Whether three given characters stand at the front of a line, before a gap. -/
def looksAtMark (c : Cursor) (x : Char) : Bool :=
  c.column == 0 && c.rest.take 3 == [x, x, x] && c.isGapAt 3

/-- Whether a mark of the start or the end of a document is next. -/
def atDocumentMark (c : Cursor) : Bool := c.looksAtMark '-' || c.looksAtMark '.'

end Cursor

end SwaggerCmdlets.Yaml
