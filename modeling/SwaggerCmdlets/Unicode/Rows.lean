/-! # Rows — character tables written as text

    A table of a character property is a text of rows: blanks and line ends
    stand between the rows, a comma between the numbers of a row, and each number
    is hexadecimal.  `rows` reads such a text; `inRanges` asks a table whose rows
    are ranges (one number, or a first and a last) for a code point. -/

namespace SwaggerCmdlets.Unicode

/-- The value of a hexadecimal digit of either case. -/
def hexDigit? (c : Char) : Option Nat :=
  let n := c.toNat
  if 0x30 ≤ n && n ≤ 0x39 then some (n - 0x30)
  else if 0x41 ≤ n && n ≤ 0x46 then some (n - 0x37)
  else if 0x61 ≤ n && n ≤ 0x66 then some (n - 0x57)
  else none

/-- The rows read so far, latest first, the open row, latest number first, and
    the open number. -/
structure RowReader where
  closed : List (List Nat)
  row : List Nat
  number : Option Nat

/-- Closes the open row, if a number stands in it. -/
def RowReader.close (r : RowReader) : RowReader :=
  match r.number with
  | some n => ⟨(n :: r.row).reverse :: r.closed, [], none⟩
  | none => r

/-- One character more. -/
def RowReader.next (r : RowReader) (c : Char) : RowReader :=
  if c = ',' then ⟨r.closed, r.number.toList ++ r.row, none⟩
  else match hexDigit? c with
    | some d => { r with number := some (16 * r.number.getD 0 + d) }
    | none => r.close

/-- The rows of a table text. -/
def rows (text : String) : List (List Nat) :=
  (text.toList.foldl RowReader.next ⟨[], [], none⟩).close.closed.reverse

/-- Whether a code point lies in one of the ranges of a table. -/
def inRanges (table : List (List Nat)) (n : Nat) : Bool :=
  table.any fun row =>
    match row with
    | [only] => n == only
    | [first, last] => first ≤ n && n ≤ last
    | _ => false

/-- A number makes the character whose code point it is; what is none makes the zero
    character. -/
theorem toNat_ofNat_or_eq_zero (n : Nat) : (Char.ofNat n).toNat = n ∨ Char.ofNat n = '\x00' := by
  by_cases hvalid : n.isValidChar
  · left
    rw [Char.ofNat, dif_pos hvalid]
    rfl
  · right
    rw [Char.ofNat, dif_neg hvalid]
    rfl

end SwaggerCmdlets.Unicode
