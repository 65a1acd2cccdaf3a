import SwaggerCmdlets.Text.Quoted
import SwaggerCmdlets.Text.Utf8

/-! # Faults — what is wrong with a text, and where

    A text that does not fit is refused with its first fault and the place of
    it: the line, and the number of bytes that stand before the place on that
    line.  While a text is read the place is kept as the number of bytes that
    are left. -/

namespace SwaggerCmdlets.Json

open Text

/-- What is wrong with a text. -/
inductive Fault where
  | endInList
  | endInObject
  | endInString
  | endInValue
  | noColon
  | noListSeparator
  | noObjectSeparator
  | noIdent
  | noValue
  | badEscape
  | badNumber
  | numberRange
  | controlCharacter
  | keyNoString
  | surrogate
  | trailingComma
  | trailingText
  | pairEnd
  | nesting
  /-- A value of another type than the expected one. -/
  | type (found expected : String)
  /-- A row of too few values. -/
  | length (found : Nat) (expected : String)
  /-- A field that is given twice. -/
  | duplicate (field : String)
deriving DecidableEq, Repr

/-- The fault in words. -/
def Fault.message : Fault → String
  | endInList => "EOF while parsing a list"
  | endInObject => "EOF while parsing an object"
  | endInString => "EOF while parsing a string"
  | endInValue => "EOF while parsing a value"
  | noColon => "expected `:`"
  | noListSeparator => "expected `,` or `]`"
  | noObjectSeparator => "expected `,` or `\x7d`"
  | noIdent => "expected ident"
  | noValue => "expected value"
  | badEscape => "invalid escape"
  | badNumber => "invalid number"
  | numberRange => "number out of range"
  | controlCharacter => "control character (\\u0000-\\u001F) found while parsing a string"
  | keyNoString => "key must be a string"
  | surrogate => "lone leading surrogate in hex escape"
  | trailingComma => "trailing comma"
  | trailingText => "trailing characters"
  | pairEnd => "unexpected end of hex escape"
  | nesting => "recursion limit exceeded"
  | type found expected => "invalid type: " ++ found ++ ", expected " ++ expected
  | length found expected => "invalid length " ++ toString found ++ ", expected " ++ expected
  | duplicate field => "duplicate field `" ++ field ++ "`"

/-- A fault, and how many bytes are left from its place on. -/
structure Stop where
  fault : Fault
  left : Nat
deriving DecidableEq, Repr

/-- What was read, and the characters after it. -/
abbrev Read (α : Type) := Except Stop (α × List Char)

/-- A fault at the front of the characters that are left. -/
def stopHere {α : Type} (fault : Fault) (cs : List Char) : Except Stop α :=
  .error ⟨fault, byteLength cs⟩

/-- A fault one byte further on, but not behind the end. -/
def stopNext {α : Type} (fault : Fault) (cs : List Char) : Except Stop α :=
  .error ⟨fault, byteLength cs - 1⟩

/-- Line and column of a place, given the bytes before it. -/
def lineAndColumn (before : List UInt8) : Nat × Nat :=
  before.foldl (fun place b => if b = 0x0A then (place.1 + 1, 0) else (place.1, place.2 + 1))
    (1, 0)

/-- The fault and its place in words. -/
def Stop.message (text : String) (s : Stop) : String :=
  let bytes := encodeUtf8 text.toList
  let (line, column) := lineAndColumn (bytes.take (bytes.length - s.left))
  s.fault.message ++ " at line " ++ toString line ++ " column " ++ toString column

end SwaggerCmdlets.Json
