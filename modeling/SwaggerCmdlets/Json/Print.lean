import SwaggerCmdlets.Json.Value
import SwaggerCmdlets.Number.Shortest
import SwaggerCmdlets.Text.Lines
import SwaggerCmdlets.Text.Quoted

/-! # Values as text — without blanks, or line by line

    The short form holds no blanks.  The long form puts every item and every
    member on a line of its own, two blanks further to the right than what it
    stands in; what is empty stays on its line in both forms. -/

namespace SwaggerCmdlets.Json

open Text

/-- A character inside quotes. -/
def escapeChar (c : Char) : List Char :=
  if c = '"' then ['\\', '"']
  else if c = '\\' then ['\\', '\\']
  else if c = '\x08' then ['\\', 'b']
  else if c = '\t' then ['\\', 't']
  else if c = '\n' then ['\\', 'n']
  else if c = '\x0c' then ['\\', 'f']
  else if c = '\r' then ['\\', 'r']
  else if c.toNat < 0x10 then "\\u000".toList ++ hexDigits c.toNat
  else if c.toNat < 0x20 then "\\u00".toList ++ hexDigits c.toNat
  else [c]

/-- A text in quotes. -/
def quoted (s : String) : String :=
  String.ofList ('"' :: s.toList.flatMap escapeChar ++ ['"'])

/-- A number as text. -/
def Number.text : Number → String
  | natural n => toString n
  | negative n => "-" ++ toString n
  | real x => x.text

namespace Value

mutual

/-- The short form. -/
def short : Value → String
  | null => "null"
  | bool true => "true"
  | bool false => "false"
  | number n => n.text
  | string s => quoted s
  | array items => "[" ++ joinWith "," (shortItems items) ++ "]"
  | object members => "\x7b" ++ joinWith "," (shortMembers members) ++ "\x7d"

/-- The short forms of items. -/
def shortItems : List Value → List String
  | [] => []
  | v :: vs => v.short :: shortItems vs

/-- The short forms of members. -/
def shortMembers : List (String × Value) → List String
  | [] => []
  | (k, v) :: ms => (quoted k ++ ":" ++ v.short) :: shortMembers ms

end

/-- Puts parts that stand in brackets on lines of their own. -/
def block (opening closing : String) (depth : Nat) (parts : List String) : String :=
  let margin := fun n => "\n" ++ String.join (List.replicate n "  ")
  if parts.isEmpty then opening ++ closing
  else opening ++ joinWith "," (parts.map (margin (depth + 1) ++ ·)) ++ margin depth ++ closing

mutual

/-- The long form at a depth. -/
def longAt (depth : Nat) : Value → String
  | array items => block "[" "]" depth (longItems (depth + 1) items)
  | object members => block "\x7b" "\x7d" depth (longMembers (depth + 1) members)
  | v => v.short

/-- The long forms of items. -/
def longItems (depth : Nat) : List Value → List String
  | [] => []
  | v :: vs => longAt depth v :: longItems depth vs

/-- The long forms of members. -/
def longMembers (depth : Nat) : List (String × Value) → List String
  | [] => []
  | (k, v) :: ms => (quoted k ++ ": " ++ longAt depth v) :: longMembers depth ms

end

/-- The long form. -/
def long (v : Value) : String := longAt 0 v

end Value

end SwaggerCmdlets.Json
