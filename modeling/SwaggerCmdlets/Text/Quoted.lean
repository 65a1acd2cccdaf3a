import SwaggerCmdlets.Text.Lines
import SwaggerCmdlets.Unicode.QuotedData

/-! # Quoted text — texts shown inside messages

    A text inside a message stands in double quotes.  The quote, the backslash,
    tab, line end, carriage return and the zero character are written with a
    backslash; characters that cannot be seen on their own are written by their
    number. -/

namespace SwaggerCmdlets.Text

open Unicode

/-- The table of characters above 7F that are written by number. -/
def escapedTable : List (List Nat) := rows escapedRows

/-- Whether a quoted text shows the character by its number. -/
def isNumbered (c : Char) : Bool :=
  let n := c.toNat
  if n < 0x80 then n < 0x20 || n == 0x7F else inRanges escapedTable n

/-- The lower-case hexadecimal digits of a number, without leading zeros. -/
def hexDigits (n : Nat) : List Char :=
  Nat.toDigits 16 n

/-- One character of a quoted text. -/
def quoteChar (c : Char) : List Char :=
  if c = '\x00' then ['\\', '0']
  else if c = '\t' then ['\\', 't']
  else if c = '\r' then ['\\', 'r']
  else if c = '\n' then ['\\', 'n']
  else if c = '\\' then ['\\', '\\']
  else if c = '"' then ['\\', '"']
  else if isNumbered c then '\\' :: 'u' :: '\x7b' :: hexDigits c.toNat ++ ['\x7d']
  else [c]

/-- The text in double quotes, with what needs it escaped. -/
def quote (s : String) : String :=
  String.ofList ('"' :: s.toList.flatMap quoteChar ++ ['"'])

end SwaggerCmdlets.Text
