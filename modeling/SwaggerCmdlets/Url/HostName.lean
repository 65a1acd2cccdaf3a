import SwaggerCmdlets.Unicode.DirectionData
import SwaggerCmdlets.Unicode.HostMappingData
import SwaggerCmdlets.Unicode.JoiningData
import SwaggerCmdlets.Unicode.Normal
import SwaggerCmdlets.Text.Capital
import SwaggerCmdlets.Text.Pieces
import SwaggerCmdlets.Text.Utf8
import SwaggerCmdlets.Url.Punycode

/-! # Host names — names of any script as ASCII names

    A host name is mapped code point by code point, composed, and cut into
    labels at its dots.  Labels that are not ASCII are written in punycode after
    `xn--`; labels that already stand so are decoded and must have been written
    from a label that needs it and is in mapped form.  A label may not start
    with a mark, may hold joiners only between letters that join, and must keep
    to one direction once any label of the name is read from the right.  Some
    ASCII characters may stand in no host name. -/

namespace SwaggerCmdlets.Url.HostName

open Unicode

/-- The ASCII characters that no host name may hold. -/
def isDenied (n : Nat) : Bool :=
  n ≤ 0x20 || n == 0x7F || "%#/:<>?@[\\]^|".toList.any (·.toNat == n)

def keptTable : List (List Nat) := rows keptRows
def droppedTable : List (List Nat) := rows droppedRows
def replacedTable : List (List Nat) := rows replacedRuns
def replacedTextTable : List (List Nat) := rows replacedTexts

/-- The replacement of `n` by a run of a first code point, a count, a stride,
    the stride of the replacements and the first replacement. -/
def replacement? (n : Nat) : List Nat → Option Nat
  | [first, count, stride, targetStride, target] =>
    if first ≤ n && (n - first) % stride == 0 && (n - first) / stride < count
    then some (target + (n - first) / stride * targetStride) else none
  | _ => none

/-- The mapping of a code point; nothing when it may not occur. -/
def mapCode? (n : Nat) : Option (List Nat) :=
  if n < 0x80 then some [if 0x41 ≤ n && n ≤ 0x5A then n + 0x20 else n]
  else if inRanges keptTable n then some [n]
  else if inRanges droppedTable n then some []
  else match replacedTable.findSome? (replacement? n) with
    | some target => some [target]
    | none => (replacedTextTable.find? (·.head? == some n)).map (·.tail)

/-- The mapped and composed name, if no character of it is denied. -/
def mapName? (codes : List Nat) : Option (List Nat) :=
  (codes.mapM mapCode?).bind fun mapped =>
    if mapped.flatten.any isDenied then none else some (compose mapped.flatten)

def markTable : List (List Nat) := rows markRows
def joinsLeftTable : List (List Nat) := rows joinsLeftRows
def joinsRightTable : List (List Nat) := rows joinsRightRows
def joinsBothTable : List (List Nat) := rows joinsBothRows
def transparentTable : List (List Nat) := rows transparentRows

/-- The letter nearest on one side, looking through what joining looks
    through. -/
def nearestLetter? (codes : List Nat) : Option Nat :=
  (codes.dropWhile (inRanges transparentTable)).head?

/-- Whether a joiner may stand between what comes before it, nearest first, and
    what follows it. -/
def joinerAllowed (joiner : Nat) (before after : List Nat) : Bool :=
  (before.head?.any (combiningClass · == 9)) ||
  (joiner == 0x200C
    && (nearestLetter? before).any
      (fun n => inRanges joinsLeftTable n || inRanges joinsBothTable n)
    && (nearestLetter? after).any
      (fun n => inRanges joinsRightTable n || inRanges joinsBothTable n))

/-- Whether every joiner of a label may stand where it stands. -/
def joinersAllowed : List Nat → List Nat → Bool
  | _, [] => true
  | before, n :: after =>
    ((n != 0x200C && n != 0x200D) || joinerAllowed n before after)
      && joinersAllowed (n :: before) after

/-- The directional classes that matter for host labels. -/
inductive Direction where
  | left | right | arabic | arabicDigit | digit | separator | terminator
  | neutral | mark | other
deriving DecidableEq, Repr

def directionTables : List (List (List Nat) × Direction) :=
  [(rows leftRows, .left), (rows rightRows, .right), (rows arabicRows, .arabic),
   (rows arabicDigitRows, .arabicDigit), (rows digitRows, .digit),
   (rows digitSeparatorRows, .separator), (rows commonSeparatorRows, .separator),
   (rows digitTerminatorRows, .terminator), (rows neutralRows, .neutral),
   (rows boundaryRows, .neutral), (rows nonspacingRows, .mark)]

/-- The direction of a code point. -/
def direction (n : Nat) : Direction :=
  ((directionTables.find? fun (table, _) => inRanges table n).map (·.2)).getD .other

/-- Whether the direction makes a name one that is read from the right. -/
def Direction.isRight : Direction → Bool
  | right | arabic | arabicDigit => true
  | _ => false

/-- Whether a label may stand in a name that is read from the right. -/
def directionAllowed (label : List Nat) : Bool :=
  let ds := label.map direction
  let last := (ds.reverse.dropWhile (· == .mark)).head?
  match ds.head? with
  | none => true
  | some .left =>
    ds.all (fun d => !d.isRight && d != .other) && (last == some .left || last == some .digit)
  | some .right | some .arabic =>
    ds.all (fun d => d != .left && d != .other)
      && (match last with
          | some .right | some .arabic | some .digit | some .arabicDigit => true
          | _ => false)
      && !(ds.contains .digit && ds.contains .arabicDigit)
  | some _ => false

/-- Whether a label that is not empty is well formed, direction apart. -/
def labelAllowed (label : List Nat) : Bool :=
  !(label.head?.any (inRanges markTable ·)) && joinersAllowed [] label

/-- A label in two forms: as it reads and as it is written in ASCII. -/
structure Label where
  reading : List Nat
  writing : List Char

/-- The mark of a label in punycode. -/
def puny : List Nat := "xn--".toList.map Char.toNat

/-- A mapped label in both forms, if it is well formed. -/
def label? (codes : List Nat) : Option Label :=
  if codes.take 4 = puny then
    if codes.any (0x80 ≤ ·) then none
    else
      match Punycode.decode? ((codes.drop 4).map Char.ofNat) with
      | none => none
      | some reading =>
        if reading.all (· < 0x80) || !labelAllowed reading
            || mapName? reading ≠ some reading || reading.contains 0x2E then none
        else some ⟨reading, codes.map Char.ofNat⟩
  else if codes.all (· < 0x80) then some ⟨codes, codes.map Char.ofNat⟩
  else if labelAllowed codes then
    some ⟨codes, (puny.map Char.ofNat) ++ Punycode.encode codes⟩
  else none

/-- The labels of a mapped name. -/
def labels (codes : List Nat) : List (List Nat) :=
  (Text.pieces '.' (codes.map Char.ofNat)).map (·.map Char.toNat)

/-- The ASCII form of a name, if it is well formed. -/
def toAscii? (name : List Char) : Option (List Char) := do
  let mapped ← mapName? (name.map Char.toNat)
  let ls ← (labels mapped).mapM label?
  let fromRight := ls.any fun l => l.reading.any fun n => (direction n).isRight
  if fromRight && !ls.all (directionAllowed ·.reading) then none
  else some (Text.unpieces '.' (ls.map (·.writing)))

/-- Whether a name is ASCII and none of its labels claims to be punycode, so
    that mapping only lowers its letters. -/
def isPlain (name : List Char) : Bool :=
  name.all (·.toNat < 0x80)
    && (Text.pieces '.' (name.map Char.toLower)).all (fun l => l.take 4 ≠ "xn--".toList)

/-- The ASCII form of a name: plain names are lowered, others are mapped. -/
def ascii? (name : List Char) : Option (List Char) :=
  if isPlain name then
    if name.any (fun c => isDenied c.toNat) then none else some (name.map Char.toLower)
  else toAscii? name

end SwaggerCmdlets.Url.HostName
