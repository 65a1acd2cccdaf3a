import SwaggerCmdlets.Unicode.NormalData

/-! # Normal form — composed characters

    Two spellings of one text are told together by normal form C: every
    character is decomposed, marks are put in the order of their classes, and
    then characters are composed again wherever a composed one exists.  The
    syllables of Hangul are decomposed and composed by computation. -/

namespace SwaggerCmdlets.Unicode

/-- The combining classes that are not zero. -/
def combiningTable : List (List Nat) := rows combiningRows

/-- The decompositions that are composed again. -/
def pairTable : List (List Nat) := pairRows.flatMap rows

/-- The decompositions that are not composed again. -/
def splitTable : List (List Nat) := splitRows.flatMap rows

/-- The combining class of a code point. -/
def combiningClass (n : Nat) : Nat :=
  if n < 0x300 then 0
  else (combiningTable.findSome? fun row =>
    match row with
    | [first, last, cls] => if first ≤ n && n ≤ last then some cls else none
    | _ => none).getD 0

/-- The decomposition of a Hangul syllable. -/
def hangulParts? (n : Nat) : Option (List Nat) :=
  if 0xAC00 ≤ n && n < 0xAC00 + 11172 then
    let s := n - 0xAC00
    let base := [0x1100 + s / 588, 0x1161 + s % 588 / 28]
    some (if s % 28 = 0 then base else base ++ [0x11A7 + s % 28])
  else none

/-- The rest of the row that a code point stands first in. -/
def rowAt? (table : List (List Nat)) (n : Nat) : Option (List Nat) :=
  (table.find? (·.head? == some n)).map (·.tail)

/-- The decomposition of a code point by one step of the tables. -/
def parts? (n : Nat) : Option (List Nat) :=
  if n < 0xC0 then none
  else hangulParts? n <|> rowAt? pairTable n <|> rowAt? splitTable n

/-- The decomposition of a code point, to at most the given number of steps.
    No decomposition of the tables takes more than four. -/
def decomposeCode : Nat → Nat → List Nat
  | 0, n => [n]
  | steps + 1, n =>
    match parts? n with
    | some parts => parts.flatMap (decomposeCode steps)
    | none => [n]

/-- Puts a mark before the marks of higher classes at the end of the text,
    which is given latest first. -/
def insertMark (n : Nat) : List Nat → List Nat
  | [] => [n]
  | m :: before =>
    if combiningClass n ≠ 0 ∧ combiningClass n < combiningClass m
    then m :: insertMark n before else n :: m :: before

/-- The decomposed text with its marks in order. -/
def decompose (codes : List Nat) : List Nat :=
  ((codes.flatMap (decomposeCode 6)).foldl (fun acc n => insertMark n acc) []).reverse

/-- The code point composed of two. -/
def composite? (a b : Nat) : Option Nat :=
  if 0x1100 ≤ a && a < 0x1113 && 0x1161 ≤ b && b < 0x1176 then
    some (0xAC00 + ((a - 0x1100) * 21 + (b - 0x1161)) * 28)
  else if 0xAC00 ≤ a && a < 0xAC00 + 11172 && (a - 0xAC00) % 28 == 0
      && 0x11A8 ≤ b && b < 0x11C3 then
    some (a + (b - 0x11A7))
  else (pairTable.find? (·.tail == [a, b])).bind (·.head?)

/-- Composition so far: the finished text latest first, the last starter, and
    the marks after it that it did not take, latest first. -/
structure Composer where
  done : List Nat
  starter : Option Nat
  marks : List Nat

/-- The text of a composition, latest first. -/
def Composer.text (c : Composer) : List Nat :=
  c.marks ++ c.starter.toList ++ c.done

/-- One code point more: the starter takes it if no mark between blocks it. -/
def Composer.next (c : Composer) (n : Nat) : Composer :=
  let cls := combiningClass n
  let open? := match c.marks with
    | [] => true
    | m :: _ => combiningClass m < cls
  match c.starter.bind fun s => if open? then composite? s n else none with
  | some whole => { c with starter := some whole }
  | none =>
    if cls = 0 then ⟨c.text, some n, []⟩
    else match c.starter with
      | some _ => { c with marks := n :: c.marks }
      | none => { c with done := n :: c.done }

/-- The normal form C of a text. -/
def compose (codes : List Nat) : List Nat :=
  ((decompose codes).foldl Composer.next ⟨[], none, []⟩).text.reverse

end SwaggerCmdlets.Unicode
