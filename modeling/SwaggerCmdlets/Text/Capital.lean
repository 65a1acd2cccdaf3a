import SwaggerCmdlets.Unicode.UpperData

/-! # Capitals — names that start with a capital

    A name is capitalized by putting its first character into upper case, which
    may take several characters (`ß` becomes `SS`); the rest stays as it is. -/

namespace SwaggerCmdlets.Text

open Unicode

/-- The table of upper-case runs above 7F. -/
def upperTable : List (List Nat) := rows upperRuns

/-- The table of upper cases that are several characters. -/
def expansionTable : List (List Nat) := rows upperExpansions

/-- The replacement of `n` by a run of a first code point, a count, a stride
    and a first replacement. -/
def runTarget? (n : Nat) : List Nat → Option Nat
  | [first, count, stride, target] =>
    if first ≤ n && (n - first) % stride == 0 && (n - first) / stride < count
    then some (target + (n - first)) else none
  | _ => none

/-- The upper case of a code point by a table of expansions and a table of runs. -/
def upperCodesBy (expansions runs : List (List Nat)) (n : Nat) : List Nat :=
  match expansions.find? (·.head? == some n) with
  | some row => row.tail
  | none => [(runs.findSome? (runTarget? n)).getD n]

/-- The upper case of a code point above 7F. -/
def upperCodes (n : Nat) : List Nat := upperCodesBy expansionTable upperTable n

/-- The upper case of a character. -/
def upperChar (c : Char) : List Char :=
  if c.toNat < 0x80 then [c.toUpper] else (upperCodes c.toNat).map Char.ofNat

/-- The text with its first character in upper case. -/
def capitalize (s : String) : String :=
  match s.toList with
  | [] => ""
  | c :: cs => String.ofList (upperChar c ++ cs)

/-- The text with its ASCII letters in upper case. -/
def asciiUpper (s : String) : String :=
  String.ofList (s.toList.map Char.toUpper)

end SwaggerCmdlets.Text
