import SwaggerCmdlets.Url.HostName
import SwaggerCmdlets.Url.Percent

/-! # Hosts — names, and numeric addresses of both versions

    The host of a special scheme is an ASCII name or, when its last part is a
    number, an address of version four; other schemes take a host as it is
    written, if none of its characters is forbidden.  Brackets enclose an
    address of version six. -/

namespace SwaggerCmdlets.Url

open Text Unicode

/-- Why a text is no address. -/
inductive Fault where
  | emptyHost
  | hostName
  | port
  | ipv4
  | ipv6
  | hostCharacter
  | relative
deriving DecidableEq, Repr

/-- The fault in words. -/
def Fault.message : Fault → String
  | .emptyHost => "empty host"
  | .hostName => "invalid international domain name"
  | .port => "invalid port number"
  | .ipv4 => "invalid IPv4 address"
  | .ipv6 => "invalid IPv6 address"
  | .hostCharacter => "invalid domain character"
  | .relative => "relative URL without a base"

/-- Where an address leads. -/
inductive Host where
  | name (text : String)
  | ipv4 (number : Nat)
  | ipv6 (pieces : List Nat)
deriving DecidableEq, Repr

namespace Host

/-! ## Version four -/

/-- The number that digits of a base stand for. -/
def numeral (base : Nat) (cs : List Char) : Nat :=
  cs.foldl (fun n c => base * n + (hexDigit? c).getD 0) 0

/-- Whether the characters are digits of the base. -/
def isNumeral (base : Nat) (cs : List Char) : Bool :=
  cs.all fun c => (hexDigit? c).any (· < base)

/-- A part of an address: hexadecimal after `0x`, octal after `0`, else
    decimal.  Nothing after such a mark is zero. -/
def part? (cs : List Char) : Option Nat :=
  match cs with
  | [] => none
  | '0' :: 'x' :: rest | '0' :: 'X' :: rest =>
    if isNumeral 16 rest then some (numeral 16 rest) else none
  | '0' :: c :: rest =>
    if isNumeral 8 (c :: rest) then some (numeral 8 (c :: rest)) else none
  | cs => if isNumeral 10 cs then some (numeral 10 cs) else none

/-- Whether the last part of a name, a final dot apart, is a number. -/
def endsInNumber (cs : List Char) : Bool :=
  let last := match (pieces '.' cs).reverse with
    | [] :: before :: _ => before
    | [[]] | [] => []
    | last :: _ => last
  (!last.isEmpty && isNumeral 10 last) || (part? last).isSome

/-- The address of a name that ends in a number: the last part fills the bytes
    that the parts before it leave. -/
def parseIpv4 (cs : List Char) : Except Fault Nat :=
  let parts := pieces '.' cs
  let parts := if parts.getLast? = some [] then parts.dropLast else parts
  if 4 < parts.length then .error .ipv4
  else match parts.mapM part? with
    | none => .error .ipv4
    | some numbers =>
      let before := numbers.dropLast
      let last := numbers.getLastD 0
      let room := Nat.pow 256 (4 - before.length)
      if before.any (255 < ·) || room ≤ last then .error .ipv4
      else .ok (before.foldl (fun n b => 256 * n + b) 0 * room + last)

/-! ## Version six -/

/-- One of the four bytes that may end an address of version six. -/
def byte? (cs : List Char) : Option Nat :=
  if cs.isEmpty || !isNumeral 10 cs || (cs.head? == some '0' && cs.length != 1)
      || 3 < cs.length || 255 < numeral 10 cs
  then none else some (numeral 10 cs)

/-- The two pieces of the four bytes that end an address. -/
def finalBytes? (cs : List Char) : Option (List Nat) :=
  match (pieces '.' cs).mapM byte? with
  | some [a, b, c, d] => some [256 * a + b, 256 * c + d]
  | _ => none

/-- Reads pieces up to the end.  `gap` is the number of pieces before the place
    where zeros are left out; one of those zeros is counted as a piece. -/
def readPieces : Nat → List Char → List Nat → Option Nat → Option (List Nat × Option Nat)
  | _, [], ps, gap => some (ps, gap)
  | 0, _ :: _, _, _ => none
  | fuel + 1, cs@(c :: rest), ps, gap =>
    if ps.length = 8 then none
    else if c = ':' then
      if gap.isSome then none
      else readPieces fuel rest (ps ++ [0]) (some (ps.length + 1))
    else
      let digits := (cs.take 4).takeWhile fun d => (hexDigit? d).isSome
      match cs.drop digits.length with
      | [] => some (ps ++ [numeral 16 digits], gap)
      | ':' :: after =>
        if after.isEmpty then none
        else readPieces fuel after (ps ++ [numeral 16 digits]) gap
      | '.' :: _ =>
        if digits.isEmpty || 6 < ps.length then none
        else (finalBytes? cs).map fun last => (ps ++ last, gap)
      | _ => none

/-- The eight pieces of an address, with the zeros put back. -/
def parseIpv6 (cs : List Char) : Except Fault (List Nat) :=
  let start := match cs with
    | ':' :: ':' :: rest => readPieces 9 rest [0] (some 1)
    | ':' :: _ | [] | [_] => none
    | cs => readPieces 9 cs [] none
  match start with
  | none => .error .ipv6
  | some (ps, none) => if ps.length = 8 then .ok ps else .error .ipv6
  | some (ps, some gap) =>
    .ok (ps.take gap ++ List.replicate (8 - ps.length) 0 ++ ps.drop gap)

/-- The length of the run of zeros at the front. -/
def zeroRun (ps : List Nat) : Nat := (ps.takeWhile (· == 0)).length

/-- The first longest run of zeros, as a place and a length. -/
def longestZeros (ps : List Nat) : Nat × Nat :=
  (List.range ps.length).foldl (fun (place, len) i =>
    if len < zeroRun (ps.drop i) then (i, zeroRun (ps.drop i)) else (place, len)) (0, 0)

/-- Pieces in hexadecimal with colons between them. -/
def hexPieces (ps : List Nat) : String :=
  ":".intercalate (ps.map fun p => String.ofList (Nat.toDigits 16 p))

/-- An address of version six; its longest run of at least two zeros is left
    out. -/
def ipv6Text (ps : List Nat) : String :=
  let (place, len) := longestZeros ps
  if len < 2 then hexPieces ps
  else hexPieces (ps.take place) ++ "::" ++ hexPieces (ps.drop (place + len))

/-- The host as addresses show it. -/
def text : Host → String
  | name s => s
  | ipv4 n =>
    ".".intercalate ([n / 0x1000000, n / 0x10000 % 256, n / 256 % 256, n % 256].map toString)
  | ipv6 ps => "[" ++ ipv6Text ps ++ "]"

/-! ## Reading a host -/

/-- The address in brackets, if the host starts with one. -/
def bracketed? (cs : List Char) : Option (Except Fault Host) :=
  match cs with
  | '[' :: rest =>
    some (match rest.reverse with
      | ']' :: inner => (parseIpv6 inner.reverse).map ipv6
      | _ => .error .ipv6)
  | _ => none

/-- The host of a special scheme. -/
def parse (cs : List Char) : Except Fault Host :=
  match bracketed? cs with
  | some host => host
  | none =>
    match (decodeUtf8? (unescape cs)).bind HostName.ascii? with
    | none => .error .hostName
    | some [] => .error .emptyHost
    | some ascii =>
      if endsInNumber ascii then (parseIpv4 ascii).map ipv4
      else .ok (name (String.ofList ascii))

/-- The characters that the host of no scheme may hold. -/
def isForbidden (c : Char) : Bool :=
  c.toNat == 0 || "\t\n\r #/:<>?@[\\]^|".toList.contains c

/-- The host of a scheme that is not special. -/
def parseAsWritten (cs : List Char) : Except Fault Host :=
  match bracketed? cs with
  | some host => host
  | none =>
    if cs.any isForbidden then .error .hostCharacter
    else .ok (name (String.ofList (escape controlSet cs)))

end Host

end SwaggerCmdlets.Url
