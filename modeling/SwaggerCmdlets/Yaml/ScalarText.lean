import SwaggerCmdlets.Unicode.Rows
import SwaggerCmdlets.Yaml.Cursor

/-! # Scalar texts — quoted, plain and in blocks

    A scalar that goes over several lines is folded: a single line end counts as
    a space, and of several ones the first is dropped.  Blocks end with their
    indentation, plain scalars also where something else may start. -/

namespace SwaggerCmdlets.Yaml

open Unicode

/-! ## Gaps -/

/-- The blanks and breaks between two parts of a scalar. -/
structure Gap where
  blanks : List Char
  first : List Char
  later : List Char
  /-- Whether a break was met. -/
  broken : Bool

/-- No gap at all. -/
def Gap.none : Gap := ⟨[], [], [], false⟩

/-- The gap that starts with a break that does not count. -/
def Gap.afterEscape : Gap := ⟨[], [], [], true⟩

/-- What a gap contributes to the text. -/
def Gap.text (g : Gap) : List Char :=
  if !g.broken then g.blanks
  else if g.first.head? == some '\n' then (if g.later.isEmpty then [' '] else g.later)
  else g.first ++ g.later

/-- Reads a gap.  A tab may not stand where indentation is expected: left of the
    column `tabs`. -/
def readGap (tabs : Nat) : Nat → Gap → Cursor → Option (Gap × Cursor)
  | 0, g, c => some (g, c)
  | limit + 1, g, c =>
    match c.rest with
    | [] => some (g, c)
    | x :: _ =>
      if isBlank x then
        if g.broken && c.column < tabs && x == '\t' then none
        else readGap tabs limit (if g.broken then g else { g with blanks := g.blanks ++ [x] })
          (c.skip 1)
      else if isBreak x then
        let (br, c) := c.takeBreak
        if g.broken then readGap tabs limit { g with later := g.later ++ br } c
        else readGap tabs limit { g with blanks := [], first := br, broken := true } c
      else some (g, c)

/-- Reads the gap at the cursor. -/
def gapAt (tabs : Nat) (g : Gap) (c : Cursor) : Option (Gap × Cursor) :=
  readGap tabs (c.rest.length + 1) g c

/-! ## Quoted scalars -/

/-- What a letter after a backslash stands for: characters, or a number of so
    many hexadecimal digits. -/
def escapeMeaning? (x : Char) : Option (List Char ⊕ Nat) :=
  match x with
  | '0' => some (.inl ['\x00'])
  | 'a' => some (.inl ['\x07'])
  | 'b' => some (.inl ['\x08'])
  | 't' | '\t' => some (.inl ['\t'])
  | 'n' => some (.inl ['\n'])
  | 'v' => some (.inl ['\x0b'])
  | 'f' => some (.inl ['\x0c'])
  | 'r' => some (.inl ['\r'])
  | 'e' => some (.inl ['\x1b'])
  | ' ' => some (.inl [' '])
  | '"' => some (.inl ['"'])
  | '/' => some (.inl ['/'])
  | '\\' => some (.inl ['\\'])
  | 'N' => some (.inl ['\u0085'])
  | '_' => some (.inl ['\u00a0'])
  | 'L' => some (.inl ['\u2028'])
  | 'P' => some (.inl ['\u2029'])
  | 'x' => some (.inr 2)
  | 'u' => some (.inr 4)
  | 'U' => some (.inr 8)
  | _ => none

/-- The character of a number, unless it is half of one. -/
def charOf? (n : Nat) : Option Char :=
  if n.isValidChar then some (Char.ofNat n) else none

/-- Reads an escape, at its backslash. -/
def readEscape (c : Cursor) : Option (List Char × Cursor) := do
  let x ← c.at? 1
  match ← escapeMeaning? x with
  | .inl cs => return (cs, c.skip 2)
  | .inr n =>
    let c := c.skip 2
    let digits ← ((c.rest.take n).mapM hexDigit?)
    if digits.length < n then none
    let ch ← charOf? (digits.foldl (fun v d => 16 * v + d) 0)
    return ([ch], c.skip n)

/-- Reads a quoted scalar after its opening quote; `acc` is the text so far,
    latest character first. -/
def readQuoted (single : Bool) : Nat → List Char → Cursor → Option (List Char × Cursor)
  | 0, _, _ => none
  | limit + 1, acc, c =>
    if c.atDocumentMark then none
    else match c.rest with
      | [] => none
      | x :: next =>
        if single && x == '\'' && next.head? == some '\'' then
          readQuoted single limit ('\'' :: acc) (c.skip 2)
        else if x == (if single then '\'' else '"') then some (acc.reverse, c.skip 1)
        else if !single && x == '\\' then
          if next.head?.any isBreak then
            match gapAt 0 .afterEscape (c.skip 1).skipBreak with
            | some (g, c) => readQuoted single limit (g.text.reverse ++ acc) c
            | none => none
          else match readEscape c with
            | some (cs, c) => readQuoted single limit (cs.reverse ++ acc) c
            | none => none
        else if isSolid x then readQuoted single limit (x :: acc) (c.skip 1)
        else match gapAt 0 .none c with
          | some (g, c) => readQuoted single limit (g.text.reverse ++ acc) c
          | none => none

/-! ## Plain scalars -/

/-- Whether the character is one of those that flow collections are made of. -/
def isFlowMark (x : Char) : Bool := [',', '[', ']', '\x7b', '\x7d'].contains x

/-- A colon in a flow collection that a mark follows, which is no value. -/
def isStrayColon (c : Cursor) : Bool :=
  c.looksAt ':' && (c.at? 1).any fun x => isFlowMark x || x == '?'

/-- Whether a plain scalar ends before the next character. -/
def endsPlain (inFlow : Bool) (c : Cursor) (x : Char) : Bool :=
  (x == ':' && c.isGapAt 1) || (inFlow && isFlowMark x)

/-- Reads a plain scalar; says whether a break follows it.  `fresh` is whether
    a gap or nothing stands before the cursor, `g` the gap that has not been
    added to the text yet. -/
def readPlain (inFlow : Bool) (indent : Nat) :
    Nat → Bool → List Char → Gap → Cursor → Option (List Char × Bool × Cursor)
  | 0, _, _, _, _ => none
  | limit + 1, fresh, acc, g, c =>
    let done := some (acc.reverse, g.broken, c)
    if fresh && (c.atDocumentMark || c.looksAt '#') then done
    else match c.rest with
      | [] => done
      | x :: _ =>
        if isSolid x then
          if inFlow && isStrayColon c then none
          else if endsPlain inFlow c x then done
          else readPlain inFlow indent limit false (x :: (g.text.reverse ++ acc)) .none (c.skip 1)
        else match gapAt indent .none c with
          | none => none
          | some (g, c) =>
            if !inFlow && c.column < indent then some (acc.reverse, g.broken, c)
            else readPlain inFlow indent limit true acc g c

/-! ## Block scalars -/

/-- What happens to the breaks at the end of a block. -/
inductive Chomping where
  | strip
  | clip
  | keep
deriving DecidableEq, Repr

/-- The chomping of an indicator. -/
def chompingOf? (x : Char) : Option Chomping :=
  match x with
  | '-' => some .strip
  | '+' => some .keep
  | _ => none

/-- The indicators of a block: chomping and a number, in either order. -/
def readIndicators (c : Cursor) : Option (Chomping × Nat × Cursor) :=
  let width := fun c : Cursor =>
    match c.rest with
    | x :: _ => if x == '0' then none
      else if x.isDigit then some (x.toNat - 0x30, c.skip 1) else some (0, c)
    | [] => some (0, c)
  match c.rest.head?.bind chompingOf? with
  | some chomping => (width (c.skip 1)).map fun (n, c) => (chomping, n, c)
  | none =>
    match width c with
    | none => none
    | some (0, c) => some (.clip, 0, c)
    | some (n, c) =>
      match c.rest.head?.bind chompingOf? with
      | some chomping => some (chomping, n, c.skip 1)
      | none => some (.clip, n, c)

/-- Reads indentation and empty lines.  Without an indentation (`none`) the
    widest one is found. -/
def readMargin (indent : Option Nat) :
    Nat → Nat → List Char → Cursor → Option (Nat × List Char × Cursor)
  | 0, widest, breaks, c => some (widest, breaks, c)
  | limit + 1, widest, breaks, c =>
    let spaces := (c.rest.takeWhile (· == ' ')).length
    let c := c.skip (match indent with
      | some n => min spaces (n - c.column)
      | none => spaces)
    let widest := max widest c.column
    if indent.all (c.column < ·) && c.looksAt '\t' then none
    else if c.atBreak then
      let (br, c) := c.takeBreak
      readMargin indent limit widest (breaks ++ br) c
    else some (widest, breaks, c)

/-- A block that is being read. -/
structure BlockText where
  text : List Char
  first : List Char
  later : List Char
  /-- Whether the last line starts with a blank. -/
  blank : Bool

/-- Adds the breaks before a line. -/
def BlockText.join (literal : Bool) (b : BlockText) (blank : Bool) : List Char :=
  if !literal && b.first.head? == some '\n' && !b.blank && !blank then
    b.text ++ (if b.later.isEmpty then [' '] else []) ++ b.later
  else b.text ++ b.first ++ b.later

/-- Reads the lines of a block. -/
def readBlockLines (literal : Bool) (indent : Nat) :
    Nat → BlockText → Cursor → Option (BlockText × Cursor)
  | 0, b, c => some (b, c)
  | limit + 1, b, c =>
    if c.column != indent || c.rest.isEmpty then some (b, c)
    else
      let blank := c.rest.head?.any isBlank
      let joined := b.join literal blank
      let (line, c) := c.takeWhile (!isBreak ·)
      let (first, c) := c.takeBreak
      match readMargin (some indent) (c.rest.length + 1) 0 [] c with
      | none => none
      | some (_, later, c) =>
        readBlockLines literal indent limit ⟨joined ++ line, first, later, blank⟩ c

/-- Reads a block scalar at its indicator, inside an indentation. -/
def readBlock (outer : Int) (c : Cursor) : Option (List Char × Cursor) := do
  let literal := c.looksAt '|'
  let (chomping, number, c) ← readIndicators (c.skip 1)
  let c := c.skipComment
  if !c.atLineEnd then none
  let c := c.skipBreak
  let given := if number = 0 then none
    else some (if 0 ≤ outer then outer.toNat + number else number)
  let (widest, breaks, c) ← readMargin given (c.rest.length + 1) 0 [] c
  let indent := given.getD (max widest (max (outer + 1).toNat 1))
  let (b, c) ← readBlockLines literal indent (c.rest.length + 1) ⟨[], [], breaks, false⟩ c
  let tail := match chomping with
    | .strip => []
    | .clip => b.first
    | .keep => b.first ++ b.later
  return (b.text ++ tail, c)

end SwaggerCmdlets.Yaml
