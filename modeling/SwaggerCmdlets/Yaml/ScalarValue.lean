import SwaggerCmdlets.Json.Value
import SwaggerCmdlets.Text.Utf8
import SwaggerCmdlets.Unicode.Rows
import SwaggerCmdlets.Yaml.Node

/-! # Scalars as values — what a text without quotes means

    A plain scalar is null, a truth value or a number if it looks like one, and a
    string otherwise.  Integers may have base 16, 8 or 2, and a decimal one with
    a leading zero is a string.  Integers of more than 64 bits are refused up to
    128 bits, and beyond that they are doubles.  A tag asks for one of the
    kinds; what is not finite counts as null. -/

namespace SwaggerCmdlets.Yaml

open Json

/-- Whether the text is a word for null. -/
def isNullWord (s : String) : Bool := ["null", "Null", "NULL", "~"].contains s

/-- The truth value of a word. -/
def bool? (s : String) : Option Bool :=
  if ["true", "True", "TRUE"].contains s then some true
  else if ["false", "False", "FALSE"].contains s then some false
  else none

/-! ## Integers -/

/-- The number that digits of a base stand for. -/
def numeral? (base : Nat) (cs : List Char) : Option Nat :=
  if cs.isEmpty then none
  else cs.foldl (fun n c => match n, Unicode.hexDigit? c with
    | some n, some d => if d < base then some (base * n + d) else none
    | _, _ => none) (some 0)

/-- Whether the characters are digits after a zero, perhaps after a sign. -/
def isZeroPadded (cs : List Char) : Bool :=
  let cs := match cs with
    | '-' :: rest | '+' :: rest => rest
    | _ => cs
  match cs with
  | '0' :: d :: rest => (d :: rest).all Char.isDigit
  | _ => false

/-- The number of digits after a mark of their base. -/
def based? : List Char → Option Nat
  | '0' :: 'x' :: rest => numeral? 16 rest
  | '0' :: 'o' :: rest => numeral? 8 rest
  | '0' :: 'b' :: rest => numeral? 2 rest
  | _ => none

/-- The magnitude of an integer without minus sign. -/
def positive? (cs : List Char) : Option Nat :=
  let digits := match cs with
    | '+' :: rest => rest
    | _ => cs
  (based? digits).or (if isZeroPadded cs then none else numeral? 10 digits)

/-- The magnitude of an integer with a minus sign. -/
def negative? (cs : List Char) : Option Nat :=
  match cs with
  | '-' :: digits => (based? digits).or (if isZeroPadded cs then none else numeral? 10 digits)
  | _ => none

/-- What an integer is worth. -/
inductive IntReading where
  | value (n : Number)
  /-- It has more than 64 bits, but not more than 128. -/
  | tooLong
  /-- It is no integer, or an even longer one. -/
  | none
deriving DecidableEq, Repr

/-- Reads an integer. -/
def readInt (cs : List Char) : IntReading :=
  match positive? cs, negative? cs with
  | some n, _ =>
    if n < Nat.pow 2 64 then .value (.natural n) else if n < Nat.pow 2 128 then .tooLong else .none
  | _, some 0 => .value (.natural 0)
  | _, some n =>
    if n ≤ Nat.pow 2 63 then .value (.negative n) else if n ≤ Nat.pow 2 127 then .tooLong else .none
  | _, _ => .none

/-! ## Doubles -/

/-- The exponent of a decimal: nothing, or a letter and digits. -/
def exponent? (cs : List Char) : Option Int :=
  match cs with
  | [] => some 0
  | c :: rest =>
    if c == 'e' || c == 'E' then
      match rest with
      | '-' :: digits => (numeral? 10 digits).map fun n => -(n : Int)
      | '+' :: digits => (numeral? 10 digits).map Int.ofNat
      | digits => (numeral? 10 digits).map Int.ofNat
    else none

/-- The double nearest to a decimal without sign, if it is not too large. -/
def decimal? (cs : List Char) : Option Double :=
  let whole := cs.takeWhile Char.isDigit
  let rest := cs.dropWhile Char.isDigit
  let (fraction, rest) := match rest with
    | '.' :: rest => (rest.takeWhile Char.isDigit, rest.dropWhile Char.isDigit)
    | _ => ([], rest)
  match numeral? 10 (whole ++ fraction), exponent? rest with
  | some n, some e => Double.ofDecimal? n (e - fraction.length)
  | _, _ => none

/-- The words for what is not finite. -/
def isInfinite (cs : List Char) : Bool :=
  [".inf", ".Inf", ".INF", "+.inf", "+.Inf", "+.INF", "-.inf", "-.Inf", "-.INF",
   ".nan", ".NaN", ".NAN"].any (·.toList == cs)

/-- The value of a double; null for what is not finite. -/
def readDouble? (cs : List Char) : Option Value :=
  if isInfinite cs then some .null
  else
    let real := fun x : Double => Value.number (.real x)
    match cs with
    | '+' :: rest => (decimal? rest).map real
    | '-' :: rest => (decimal? rest).map fun x => real x.neg
    | _ => (decimal? cs).map real

/-! ## Values -/

/-- The value of a plain scalar without tag. -/
def plainValue? (s : String) : Option Value :=
  let cs := s.toList
  if cs.isEmpty || isNullWord s then some .null
  else match bool? s with
    | some b => some (.bool b)
    | none =>
      match readInt cs with
      | .value n => some (.number n)
      | .tooLong => none
      | .none =>
        match if isZeroPadded cs then none else readDouble? cs with
        | some v => some v
        | none => some (.string s)

/-- A standard tag. -/
def standardTag (name : String) : List UInt8 :=
  Text.encodeUtf8 ("tag:yaml.org,2002:" ++ name).toList

/-- The value of a scalar under a tag. -/
def taggedValue? (tag : List UInt8) (s : String) (plain : Bool) : Option Value :=
  if tag = standardTag "bool" then (bool? s).map .bool
  else if tag = standardTag "int" then
    match readInt s.toList with
    | .value n => some (.number n)
    | _ => none
  else if tag = standardTag "float" then readDouble? s.toList
  else if tag = standardTag "null" then (if isNullWord s then some .null else none)
  else if tag.head? == some 0x21 && plain then plainValue? s
  else some (.string s)

/-- The value of a scalar. -/
def scalarValue? (props : Properties) (s : String) (plain : Bool) : Option Value :=
  match props.tag with
  | some tag => taggedValue? tag s plain
  | none => if plain then plainValue? s else some (.string s)

end SwaggerCmdlets.Yaml
