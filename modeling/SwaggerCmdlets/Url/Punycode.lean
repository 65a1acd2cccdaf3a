/-! # Punycode — labels of any script in ASCII

    A label is written with its ASCII characters first, then a hyphen if there
    are any, then digits in base 36 that say which other code points to insert
    where.  Each insertion is a number of variable length, whose digit
    thresholds follow a bias that adapts to the numbers written before. -/

namespace SwaggerCmdlets.Url.Punycode

/-- The character of a digit: letters, then figures. -/
def digitChar (d : Nat) : Char :=
  if d < 26 then Char.ofNat (0x61 + d) else Char.ofNat (0x16 + d)

/-- The value of a digit of either case. -/
def digitValue? (c : Char) : Option Nat :=
  let n := c.toNat
  if 0x61 ≤ n && n ≤ 0x7A then some (n - 0x61)
  else if 0x41 ≤ n && n ≤ 0x5A then some (n - 0x41)
  else if 0x30 ≤ n && n ≤ 0x39 then some (n - 0x16)
  else none

/-- The threshold of the digit at weight position `k`. -/
def threshold (k bias : Nat) : Nat :=
  if k ≤ bias then 1 else if bias + 26 ≤ k then 26 else k - bias

/-- Shrinks a large delta, counting the weight positions it takes. -/
def shrink : Nat → Nat → Nat → Nat × Nat
  | 0, delta, k => (delta, k)
  | fuel + 1, delta, k =>
    if 455 < delta then shrink fuel (delta / 35) (k + 36) else (delta, k)

/-- The bias after a number was written as the `count`-th. -/
def adapt (delta count : Nat) (first : Bool) : Nat :=
  let d := if first then delta / 700 else delta / 2
  let (d, k) := shrink 64 (d + d / count) 0
  k + 36 * d / (d + 38)

/-- The digits of a number. -/
def digitsOf (bias : Nat) : Nat → Nat → Nat → List Char
  | 0, _, _ => []
  | fuel + 1, k, q =>
    let t := threshold k bias
    if q < t then [digitChar q]
    else digitChar (t + (q - t) % (36 - t))
      :: digitsOf bias fuel (k + 36) ((q - t) / (36 - t))

/-- The state of an encoding. -/
structure Encoder where
  output : List Char
  delta : Nat
  bias : Nat
  written : Nat

/-- Passes one code point of the label while `m` is being inserted. -/
def Encoder.pass (basic m : Nat) (e : Encoder) (n : Nat) : Encoder :=
  if n < m then { e with delta := e.delta + 1 }
  else if n = m then
    { output := e.output ++ digitsOf e.bias 64 36 e.delta
      delta := 0
      bias := adapt e.delta (e.written + 1) (e.written == basic)
      written := e.written + 1 }
  else e

/-- Inserts the code points of a rising list, of which `from` is the least that
    may come. -/
def Encoder.insertAll (label : List Nat) (basic : Nat) :
    List Nat → Nat → Encoder → Encoder
  | [], _, e => e
  | m :: ms, least, e =>
    let e := { e with delta := e.delta + (m - least) * (e.written + 1) }
    let e := label.foldl (Encoder.pass basic m) e
    insertAll label basic ms (m + 1) { e with delta := e.delta + 1 }

/-- Puts a number into a rising list without repeats. -/
def insertRising (n : Nat) : List Nat → List Nat
  | [] => [n]
  | m :: ms =>
    if n < m then n :: m :: ms else if n = m then m :: ms else m :: insertRising n ms

/-- The ASCII writing of a label, without the prefix that marks it. -/
def encode (label : List Nat) : List Char :=
  let basic := label.filter (· < 0x80)
  let others := (label.filter (0x80 ≤ ·)).foldr insertRising []
  let start := basic.map Char.ofNat ++ (if basic.isEmpty then [] else ['-'])
  (Encoder.insertAll label basic.length others 0x80
    ⟨start, 0, 72, basic.length⟩).output

/-- Reads one number: its value and what follows it. -/
def readNumber (bias : Nat) : List Char → Nat → Nat → Nat → Option (Nat × List Char)
  | [], _, _, _ => none
  | c :: rest, k, weight, value =>
    match digitValue? c with
    | none => none
    | some d =>
      let value := value + d * weight
      let t := threshold k bias
      if 0xFFFFFFFF < value then none
      else if d < t then some (value, rest)
      else if 0xFFFFFFFF < weight * (36 - t) then none
      else readNumber bias rest (k + 36) (weight * (36 - t)) value

/-- Inserts the code points that the digits ask for. -/
def decodeDigits : Nat → List Char → List Nat → Nat → Nat → Nat → Option (List Nat)
  | _, [], label, _, _, _ => some label
  | 0, _ :: _, _, _, _, _ => none
  | fuel + 1, cs, label, n, i, bias =>
    match readNumber bias cs 36 1 i with
    | none => none
    | some (value, rest) =>
      let count := label.length + 1
      let n := n + value / count
      let place := value % count
      if 0x10FFFF < n || (0xD800 ≤ n && n ≤ 0xDFFF) then none
      else decodeDigits fuel rest (label.take place ++ n :: label.drop place) n
        (place + 1) (adapt (value - i) count (i == 0))

/-- The label whose ASCII writing this is. -/
def decode? (cs : List Char) : Option (List Nat) :=
  let afterHyphen := (cs.reverse.takeWhile (· ≠ '-')).reverse
  let basic := cs.take (cs.length - afterHyphen.length - 1)
  let digits := if basic.isEmpty then cs else afterHyphen
  if basic.any (0x80 ≤ ·.toNat) then none
  else decodeDigits (digits.length + 1) digits (basic.map Char.toNat) 0x80 0 72

end SwaggerCmdlets.Url.Punycode
