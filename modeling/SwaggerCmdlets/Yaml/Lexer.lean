import SwaggerCmdlets.Yaml.ScalarText
import SwaggerCmdlets.Yaml.TagText

/-! # The lexer — tokens of a text

    What stands at the cursor decides the token.  Two things need more than that.
    In blocks, a column further right than the indentation opens a block, and
    one further left closes blocks.  And a key may be known only by a colon after
    it: while that is possible, its place is kept, so that the token in front of
    it can still be put there.  It has to be on the same line, and not more than
    1024 characters long. -/

namespace SwaggerCmdlets.Yaml

/-- The place of what may turn out to be a key. -/
structure PossibleKey where
  /-- How many tokens stand before it. -/
  number : Nat
  index : Nat
  line : Nat
  column : Nat
  /-- Whether nothing but a key may stand there. -/
  required : Bool

/-- The lexer between two tokens. -/
structure Lexer where
  cursor : Cursor
  /-- The tokens so far, latest first. -/
  tokens : List Token
  /-- The possible key of the innermost collection. -/
  pending : Option PossibleKey
  /-- The possible keys of the flow collections around it. -/
  outer : List (Option PossibleKey)
  /-- The column of the innermost block. -/
  indent : Int
  /-- The columns of the blocks around it. -/
  indents : List Int
  /-- Whether a key may start at the cursor. -/
  keyAllowed : Bool

namespace Lexer

/-- The lexer at the start of a text. -/
def start (cs : List Char) : Lexer := ⟨.start cs, [], none, [], -1, [], true⟩

/-- Whether the cursor is inside a flow collection. -/
def inFlow (l : Lexer) : Bool := !l.outer.isEmpty

/-- Adds a token. -/
def emit (l : Lexer) (t : Token) : Lexer := { l with tokens := t :: l.tokens }

/-- Adds a token that has the length of its text. -/
def take (l : Lexer) (t : Token) (n : Nat) : Lexer :=
  { l with tokens := t :: l.tokens, cursor := l.cursor.skip n }

/-- Puts tokens where so many tokens stand before them. -/
def insertAt (l : Lexer) (number : Nat) (ts : List Token) : Lexer :=
  let k := l.tokens.length - number
  { l with tokens := l.tokens.take k ++ ts.reverse ++ l.tokens.drop k }

/-- Opens a block at a column that is right of the indentation, in front of what
    so many tokens stand before. -/
def openBlock (l : Lexer) (column : Nat) (number : Nat) (t : Token) : Lexer :=
  if !l.inFlow && l.indent < column then
    { l.insertAt number [t] with indent := column, indents := l.indent :: l.indents }
  else l

/-- Closes the blocks that are right of a column. -/
def closeBlocks (column : Int) : List Int → Lexer → Lexer
  | outer :: indents, l =>
    if !l.inFlow && column < l.indent then
      closeBlocks column indents { l.emit .blockEnd with indent := outer, indents }
    else l
  | [], l => l

/-- Closes the blocks that are right of a column. -/
def unindent (l : Lexer) (column : Int) : Lexer := closeBlocks column l.indents l

/-- Gives the possible key up, if that may be. -/
def dropKey (l : Lexer) : Option Lexer :=
  if l.pending.any (·.required) then none else some { l with pending := none }

/-- Marks the cursor as the place of a possible key. -/
def markKey (l : Lexer) : Option Lexer :=
  if !l.keyAllowed then some l
  else
    let key : PossibleKey := ⟨l.tokens.length, l.cursor.index, l.cursor.line, l.cursor.column,
      !l.inFlow && l.indent == l.cursor.column⟩
    l.dropKey.map fun l => { l with pending := some key }

/-- A possible key that is still possible at a place; nothing if it is not, but
    would have to be. -/
def fresh? (c : Cursor) (key : Option PossibleKey) : Option (Option PossibleKey) :=
  match key with
  | none => some none
  | some k =>
    if k.line < c.line || k.index + 1024 < c.index then (if k.required then none else some none)
    else some (some k)

/-- Gives up the keys that are too far away. -/
def dropStale (l : Lexer) : Option Lexer := do
  let pending ← fresh? l.cursor l.pending
  let outer ← l.outer.mapM (fresh? l.cursor)
  return { l with pending, outer }

/-! ## Between tokens -/

/-- Leaves out blanks, comments and breaks.  A tab may not stand where a key may
    start in a block. -/
def skipGap : Nat → Lexer → Lexer
  | 0, l => l
  | limit + 1, l =>
    let c := if l.cursor.column == 0 && l.cursor.looksAt '\ufeff' then l.cursor.skip 1 else l.cursor
    let c := c.skipWhile fun x => x == ' ' || (x == '\t' && (l.inFlow || !l.keyAllowed))
    let c := if c.looksAt '#' then c.skipWhile (!isBreak ·) else c
    if c.atBreak then
      skipGap limit { l with cursor := c.skipBreak, keyAllowed := l.keyAllowed || !l.inFlow }
    else { l with cursor := c }

/-! ## Tokens -/

/-- A line of a directive. -/
def directive (l : Lexer) : Option Lexer := do
  let l ← (l.unindent (-1)).dropKey
  let (t, c) ← readDirective l.cursor
  return { l.emit t with cursor := c, keyAllowed := false }

/-- A mark between documents. -/
def documentMark (l : Lexer) (t : Token) : Option Lexer := do
  let l ← (l.unindent (-1)).dropKey
  return { l.take t 3 with keyAllowed := false }

/-- The end of the text. -/
def finish (l : Lexer) : Option Lexer := do
  let l ← (l.unindent (-1)).dropKey
  return { l.emit .streamEnd with keyAllowed := false }

/-- The start of a flow collection. -/
def openFlow (l : Lexer) (t : Token) : Option Lexer := do
  let l ← l.markKey
  return { l.take t 1 with pending := none, outer := l.pending :: l.outer, keyAllowed := true }

/-- The end of a flow collection. -/
def closeFlow (l : Lexer) (t : Token) : Option Lexer := do
  let l ← l.dropKey
  let l := { l.take t 1 with keyAllowed := false }
  return match l.outer with
    | key :: outer => { l with pending := key, outer }
    | [] => l

/-- A comma. -/
def comma (l : Lexer) : Option Lexer := do
  let l ← l.dropKey
  return { l.take .comma 1 with keyAllowed := true }

/-- A dash before an item. -/
def dash (l : Lexer) : Option Lexer := do
  if !l.inFlow && !l.keyAllowed then none
  let l ← (l.openBlock l.cursor.column l.tokens.length .blockSequence).dropKey
  return { l.take .dash 1 with keyAllowed := true }

/-- A question mark before a key. -/
def explicitKey (l : Lexer) : Option Lexer := do
  if !l.inFlow && !l.keyAllowed then none
  let l ← (l.openBlock l.cursor.column l.tokens.length .blockMapping).dropKey
  return { l.take .key 1 with keyAllowed := !l.inFlow }

/-- A colon before a value. -/
def value (l : Lexer) : Option Lexer :=
  match l.pending with
  | some k =>
    let l := (l.insertAt k.number [.key]).openBlock k.column k.number .blockMapping
    some { l.take .value 1 with pending := none, keyAllowed := false }
  | none =>
    if !l.inFlow && !l.keyAllowed then none
    else
      let l := l.openBlock l.cursor.column l.tokens.length .blockMapping
      some { l.take .value 1 with keyAllowed := !l.inFlow }

/-- An anchor or an alias. -/
def named (l : Lexer) (t : String → Token) : Option Lexer := do
  let l ← l.markKey
  let (name, c) ← readName (l.cursor.skip 1)
  return { l.emit (t name) with cursor := c, keyAllowed := false }

/-- A tag. -/
def tag (l : Lexer) : Option Lexer := do
  let l ← l.markKey
  let (t, c) ← readTag l.inFlow l.cursor
  return { l.emit t with cursor := c, keyAllowed := false }

/-- A block scalar. -/
def block (l : Lexer) : Option Lexer := do
  let l ← l.dropKey
  let (text, c) ← readBlock l.indent l.cursor
  return { l.emit (.scalar (String.ofList text) false) with cursor := c, keyAllowed := true }

/-- A quoted scalar. -/
def quoted (l : Lexer) (single : Bool) : Option Lexer := do
  let l ← l.markKey
  let (text, c) ← readQuoted single (l.cursor.rest.length + 1) [] (l.cursor.skip 1)
  return { l.emit (.scalar (String.ofList text) false) with cursor := c, keyAllowed := false }

/-- A plain scalar. -/
def plain (l : Lexer) : Option Lexer := do
  let l ← l.markKey
  let (text, broken, c) ← readPlain l.inFlow (l.indent + 1).toNat (2 * l.cursor.rest.length + 2)
    true [] .none l.cursor
  return { l.emit (.scalar (String.ofList text) true) with cursor := c, keyAllowed := broken }

/-- Whether a plain scalar may start at the cursor. -/
def startsPlain (l : Lexer) (x : Char) : Bool :=
  let marks := "-?:,[]\x7b\x7d#&*!|>'\"%@\x60".toList
  !marks.contains x
    || (x == '-' && !(l.cursor.at? 1).any isBlank)
    || (!l.inFlow && (x == '?' || x == ':') && !l.cursor.isGapAt 1)

/-- The token at the cursor. -/
def token (l : Lexer) : Option Lexer :=
  let c := l.cursor
  match c.rest with
  | [] => l.finish
  | x :: _ =>
    if c.column == 0 && x == '%' then l.directive
    else if c.looksAtMark '-' then l.documentMark .documentStart
    else if c.looksAtMark '.' then l.documentMark .documentEnd
    else if x == '[' then l.openFlow .openSequence
    else if x == '\x7b' then l.openFlow .openMapping
    else if x == ']' then l.closeFlow .closeSequence
    else if x == '\x7d' then l.closeFlow .closeMapping
    else if x == ',' then l.comma
    else if x == '-' && c.isGapAt 1 then l.dash
    else if x == '?' && (l.inFlow || c.isGapAt 1) then l.explicitKey
    else if x == ':' && (l.inFlow || c.isGapAt 1) then l.value
    else if x == '*' then l.named .alias
    else if x == '&' then l.named .anchor
    else if x == '!' then l.tag
    else if (x == '|' || x == '>') && !l.inFlow then l.block
    else if x == '\'' then l.quoted true
    else if x == '"' then l.quoted false
    else if isSolid x && l.startsPlain x then l.plain
    else none

/-- Goes on to the next token. -/
def next (l : Lexer) : Option Lexer := do
  let l ← (skipGap (l.cursor.rest.length + 1) l).dropStale
  (l.unindent l.cursor.column).token

/-- Goes on to the end of the text. -/
def run : Nat → Lexer → Option (List Token)
  | 0, _ => none
  | limit + 1, l =>
    match l.next with
    | none => none
    | some l => if l.tokens.head? == some .streamEnd then some l.tokens.reverse else run limit l

end Lexer

/-- The tokens of a text; each takes one character at least. -/
def tokens? (cs : List Char) : Option (List Token) :=
  if cs.all isAllowed then (Lexer.start cs).run (cs.length + 1) else none

end SwaggerCmdlets.Yaml
