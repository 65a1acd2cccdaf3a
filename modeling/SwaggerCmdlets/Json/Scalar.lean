import SwaggerCmdlets.Json.Fault
import SwaggerCmdlets.Json.Value
import SwaggerCmdlets.Unicode.Rows

/-! # Words, strings and numbers — the leaves of a document

    Each reader takes the characters that are left and gives what it read with
    the rest.  Loops are bounded by the number of characters left, since each
    round takes one at least. -/

namespace SwaggerCmdlets.Json

open Text

/-- Leaves out blanks. -/
def skipBlanks (cs : List Char) : List Char :=
  cs.dropWhile fun c => c == ' ' || c == '\n' || c == '\t' || c == '\r'

/-- Reads the rest of a word. -/
def readIdent : List Char → List Char → Except Stop (List Char)
  | [], cs => .ok cs
  | _ :: _, [] => stopHere .endInValue []
  | w :: ws, c :: cs => if c = w then readIdent ws cs else stopNext .noIdent (c :: cs)

/-! ## Strings -/

/-- Four hexadecimal digits, which are looked for in four bytes. -/
def readHex (cs : List Char) : Read Nat :=
  match cs with
  | a :: b :: c :: d :: rest =>
    match [a, b, c, d].mapM Unicode.hexDigit? with
    | some digits => .ok (digits.foldl (fun n d => 16 * n + d) 0, rest)
    | none => .error ⟨.badEscape, byteLength cs - 4⟩
  | _ =>
    if byteLength cs < 4 then .error ⟨.endInString, 0⟩
    else .error ⟨.badEscape, byteLength cs - 4⟩

/-- The second half of a character that is written in two halves. -/
def readLowHalf (high : Nat) (cs : List Char) : Read Char :=
  match cs with
  | [] => stopHere .endInString []
  | '\\' :: [] => stopHere .endInString []
  | '\\' :: 'u' :: rest =>
    match readHex rest with
    | .error s => .error s
    | .ok (low, rest) =>
      if 0xDC00 ≤ low && low ≤ 0xDFFF then
        .ok (Char.ofNat ((high - 0xD800) * 0x400 + (low - 0xDC00) + 0x10000), rest)
      else stopHere .surrogate rest
  | '\\' :: rest => stopNext .pairEnd rest
  | _ => stopNext .pairEnd cs

/-- What follows `\u`. -/
def readCode (cs : List Char) : Read Char :=
  match readHex cs with
  | .error s => .error s
  | .ok (n, rest) =>
    if 0xDC00 ≤ n && n ≤ 0xDFFF then stopHere .surrogate rest
    else if 0xD800 ≤ n && n ≤ 0xDBFF then readLowHalf n rest
    else .ok (Char.ofNat n, rest)

/-- The character that a letter after a backslash stands for. -/
def escapeOf? (c : Char) : Option Char :=
  match c with
  | '"' => some '"'
  | '\\' => some '\\'
  | '/' => some '/'
  | 'b' => some '\x08'
  | 'f' => some '\x0c'
  | 'n' => some '\n'
  | 'r' => some '\r'
  | 't' => some '\t'
  | _ => none

/-- What follows a backslash. -/
def readEscape (cs : List Char) : Read Char :=
  match cs with
  | [] => stopHere .endInString []
  | 'u' :: rest => readCode rest
  | c :: rest =>
    match escapeOf? c with
    | some d => .ok (d, rest)
    | none => stopNext .badEscape cs

/-- The characters of a string up to its closing quote, latest first in
    `acc`. -/
def readChars : Nat → List Char → List Char → Read String
  | 0, _, cs => stopHere .endInString cs
  | limit + 1, acc, cs =>
    match cs with
    | [] => stopHere .endInString []
    | '"' :: rest => .ok (String.ofList acc.reverse, rest)
    | '\\' :: rest =>
      match readEscape rest with
      | .error s => .error s
      | .ok (c, rest) => readChars limit (c :: acc) rest
    | c :: rest =>
      if c.toNat < 0x20 then stopHere .controlCharacter rest
      else readChars limit (c :: acc) rest

/-- A string, after its opening quote. -/
def readString (cs : List Char) : Read String := readChars (cs.length + 1) [] cs

/-- What follows a backslash in a string that is not needed. -/
def skipEscape (cs : List Char) : Except Stop (List Char) :=
  match cs with
  | [] => stopHere .endInString []
  | 'u' :: rest => (readHex rest).map (·.2)
  | c :: rest => if (escapeOf? c).isSome then .ok rest else stopNext .badEscape cs

/-- The characters of a string that is not needed. -/
def skipChars : Nat → List Char → Except Stop (List Char)
  | 0, cs => stopHere .endInString cs
  | limit + 1, cs =>
    match cs with
    | [] => stopHere .endInString []
    | '"' :: rest => .ok rest
    | '\\' :: rest =>
      match skipEscape rest with
      | .error s => .error s
      | .ok rest => skipChars limit rest
    | c :: rest => if c.toNat < 0x20 then stopHere .controlCharacter cs else skipChars limit rest

/-- A string that is not needed, after its opening quote. -/
def skipString (cs : List Char) : Except Stop (List Char) := skipChars (cs.length + 1) cs

/-! ## Numbers

    The digits of a number make up an integer of at most 64 bits; digits that no
    longer fit are dropped, and the decimal exponent makes up for those before
    the point.  The double is that integer times or divided by a power of ten,
    rounded at each step. -/

/-- The value of a digit. -/
def digit (c : Char) : Nat := c.toNat - 0x30

/-- Whether a digit stands at the front. -/
def startsWithDigit (cs : List Char) : Bool := cs.head?.any Char.isDigit

/-- Takes digits as long as they fit. -/
def takeDigits (n : Nat) : List Char → Nat × List Char
  | [] => (n, [])
  | c :: cs =>
    if c.isDigit && n * 10 + digit c < Nat.pow 2 64 then takeDigits (n * 10 + digit c) cs
    else (n, c :: cs)

/-- The power of ten as a double. -/
def powerOfTen? (e : Nat) : Option Double := Double.ofNat? (Nat.pow 10 e)

/-- A magnitude times a power of ten; nothing if it is too large.  Small powers
    are reached in steps of `10 ^ -308`, of which two leave zero. -/
def scaleTen? : Nat → Double → Int → Option Double
  | 0, x, _ => some x
  | steps + 1, x, e =>
    if e.natAbs ≤ 308 then
      (powerOfTen? e.natAbs).bind fun p => if 0 ≤ e then Double.mul? x p else Double.div? x p
    else if x.isZero then some x
    else if 0 ≤ e then none
    else ((powerOfTen? 308).bind (Double.div? x)).bind (scaleTen? steps · (e + 308))

/-- The double of digits and exponent, read up to `cs`. -/
def realOf (negative : Bool) (digits : Nat) (e : Int) (cs : List Char) : Read Number :=
  match (Double.ofNat? digits).bind (scaleTen? 3 · e) with
  | some x => .ok (.real (if negative then x.neg else x), cs)
  | none => stopHere .numberRange cs

/-- Takes the digits of an exponent; nothing, with the rest after the digit that
    made it too large. -/
def takeExponent (n : Nat) : List Char → Option Nat × List Char
  | [] => (some n, [])
  | c :: cs =>
    if c.isDigit then
      if n * 10 + digit c < Nat.pow 2 31 then takeExponent (n * 10 + digit c) cs else (none, cs)
    else (some n, c :: cs)

/-- The exponent, after the letter that announces it. -/
def readExponent (negative : Bool) (digits : Nat) (e : Int) (cs : List Char) : Read Number :=
  let (below, cs) := match cs with
    | '+' :: rest => (false, rest)
    | '-' :: rest => (true, rest)
    | _ => (false, cs)
  match cs with
  | [] => stopHere .endInValue []
  | c :: _ =>
    if !c.isDigit then stopNext .badNumber cs
    else match takeExponent 0 cs with
      | (some n, rest) => realOf negative digits (if below then e - n else e + n) rest
      | (none, rest) =>
        if digits != 0 && !below then stopHere .numberRange rest
        else .ok (.real (if negative then Double.zero.neg else .zero), rest.dropWhile Char.isDigit)

/-- The fraction, after the point. -/
def readFraction (negative : Bool) (digits : Nat) (e : Int) (cs : List Char) : Read Number :=
  if startsWithDigit cs then
    let (digits, rest) := takeDigits digits cs
    let e := e - (cs.length - rest.length : Nat)
    match rest.dropWhile Char.isDigit with
    | 'e' :: rest | 'E' :: rest => readExponent negative digits e rest
    | rest => realOf negative digits e rest
  else stopNext (if cs.isEmpty then .endInValue else .badNumber) cs

/-- The integer of a sign and digits; minus zero is a double. -/
def integer (negative : Bool) (n : Nat) : Number :=
  if !negative then .natural n
  else if n = 0 then .real Double.zero.neg
  else if n ≤ Nat.pow 2 63 then .negative n
  else .real ((Double.ofNat? n).getD .zero).neg

/-- A number, after its sign. -/
def readNumber (negative : Bool) (cs : List Char) : Read Number :=
  match cs with
  | [] => stopHere .endInValue []
  | '0' :: rest =>
    if startsWithDigit rest then stopNext .badNumber rest
    else match rest with
      | '.' :: rest => readFraction negative 0 0 rest
      | 'e' :: rest | 'E' :: rest => readExponent negative 0 0 rest
      | _ => .ok (integer negative 0, rest)
  | c :: _ =>
    if !c.isDigit then stopNext .badNumber cs
    else
      let (digits, rest) := takeDigits 0 cs
      let e : Int := (rest.takeWhile Char.isDigit).length
      match rest.dropWhile Char.isDigit with
      | '.' :: rest => readFraction negative digits e rest
      | 'e' :: rest | 'E' :: rest => readExponent negative digits e rest
      | after => if startsWithDigit rest then realOf negative digits e after
        else .ok (integer negative digits, after)

/-- The exponent of a number that is not needed. -/
def skipExponent (cs : List Char) : Except Stop (List Char) :=
  let cs := match cs with
    | '+' :: rest | '-' :: rest => rest
    | _ => cs
  if startsWithDigit cs then .ok (cs.dropWhile Char.isDigit) else stopNext .badNumber cs

/-- A number that is not needed, after its sign: its range does not matter. -/
def skipNumber (cs : List Char) : Except Stop (List Char) :=
  let after := fun rest : List Char =>
    match rest with
    | '.' :: rest =>
      if startsWithDigit rest then
        match rest.dropWhile Char.isDigit with
        | 'e' :: rest | 'E' :: rest => skipExponent rest
        | rest => .ok rest
      else stopNext .badNumber rest
    | 'e' :: rest | 'E' :: rest => skipExponent rest
    | _ => .ok rest
  match cs with
  | '0' :: rest => if startsWithDigit rest then stopNext .badNumber rest else after rest
  | _ => if startsWithDigit cs then after (cs.dropWhile Char.isDigit) else stopNext .badNumber cs

end SwaggerCmdlets.Json
