import SwaggerCmdlets.Json.Scalar
import SwaggerCmdlets.Number.Shortest

/-! # Values from text — reading a document

    A document is read in one pass, and the first fault ends it.  Containers may
    be nested only so deep (`room` counts how many may still be opened), but not
    in parts that are not needed: those are only checked for their form, with a
    stack of the containers that are open. -/

namespace SwaggerCmdlets.Json

open Text

/-! ## Rows and members -/

/-- How an opened container reads on. -/
inductive Position where
  | first
  | later
deriving DecidableEq, Repr

/-- Steps to the next item of a list: the rest that it starts with, or the rest
    after the closing bracket. -/
def nextItem (p : Position) (cs : List Char) : Except Stop (List Char ⊕ List Char) :=
  match skipBlanks cs, p with
  | [], _ => stopHere .endInList []
  | ']' :: rest, _ => .ok (.inr rest)
  | ',' :: rest, .later =>
    match skipBlanks rest with
    | [] => stopHere .endInValue []
    | ']' :: after => stopNext .trailingComma (']' :: after)
    | item => .ok (.inl item)
  | item, .first => .ok (.inl item)
  | other, .later => stopNext .noListSeparator other

/-- Steps to the next key of an object: the rest after its opening quote, or the
    rest after the closing brace. -/
def nextKey (p : Position) (cs : List Char) : Except Stop (List Char ⊕ List Char) :=
  match skipBlanks cs, p with
  | [], _ => stopHere .endInObject []
  | '\x7d' :: rest, _ => .ok (.inr rest)
  | ',' :: rest, .later =>
    match skipBlanks rest with
    | [] => stopHere .endInValue []
    | '"' :: key => .ok (.inl key)
    | '\x7d' :: after => stopNext .trailingComma ('\x7d' :: after)
    | other => stopNext .keyNoString other
  | '"' :: key, .first => .ok (.inl key)
  | other, .first => stopNext .keyNoString other
  | other, .later => stopNext .noObjectSeparator other

/-- The colon after a key. -/
def readColon (cs : List Char) : Except Stop (List Char) :=
  match skipBlanks cs with
  | ':' :: rest => .ok rest
  | [] => stopHere .endInObject []
  | other => stopNext .noColon other

/-- Reads the items of a list up to its closing bracket, latest first in
    `acc`. -/
def readItems (item : List Char → Read Value) :
    Nat → Position → List Value → List Char → Read (List Value)
  | 0, _, _, cs => stopHere .endInList cs
  | limit + 1, p, acc, cs =>
    match nextItem p cs with
    | .error s => .error s
    | .ok (.inr rest) => .ok (acc.reverse, rest)
    | .ok (.inl rest) =>
      match item rest with
      | .error s => .error s
      | .ok (v, rest) => readItems item limit .later (v :: acc) rest

/-- Reads the members of an object up to its closing brace. -/
def readMembers (value : List Char → Read Value) :
    Nat → Position → Members → List Char → Read Members
  | 0, _, _, cs => stopHere .endInObject cs
  | limit + 1, p, acc, cs =>
    match nextKey p cs with
    | .error s => .error s
    | .ok (.inr rest) => .ok (acc, rest)
    | .ok (.inl rest) =>
      match readString rest with
      | .error s => .error s
      | .ok (key, rest) =>
        match readColon rest with
        | .error s => .error s
        | .ok rest =>
          match value rest with
          | .error s => .error s
          | .ok (v, rest) => readMembers value limit .later (acc.set key v) rest

/-! ## Values -/

/-- The word at the front, without its first letter, as a value. -/
def readWord (word : String) (v : Value) (cs : List Char) : Read Value :=
  (readIdent word.toList cs).map fun rest => (v, rest)

/-- Opens a container, if there is room. -/
def openWith {α : Type} (nested : Option (List Char → Read Value)) (cs : List Char)
    (read : (List Char → Read Value) → List Char → Read α) : Read α :=
  match nested with
  | some inner => read inner (cs.drop 1)
  | none => stopNext .nesting cs

/-- Reads a value whose items and members are read by `nested`. -/
def readWith (nested : Option (List Char → Read Value)) (cs : List Char) : Read Value :=
  match skipBlanks cs with
  | [] => stopHere .endInValue []
  | 'n' :: rest => readWord "ull" .null rest
  | 't' :: rest => readWord "rue" (.bool true) rest
  | 'f' :: rest => readWord "alse" (.bool false) rest
  | '-' :: rest => (readNumber true rest).map fun (n, rest) => (.number n, rest)
  | '"' :: rest => (readString rest).map fun (s, rest) => (.string s, rest)
  | '[' :: rest =>
    (openWith nested ('[' :: rest) fun inner cs => readItems inner (cs.length + 1) .first [] cs).map
      fun (items, rest) => (.array items, rest)
  | '\x7b' :: rest =>
    (openWith nested ('\x7b' :: rest) fun inner cs =>
      readMembers inner (cs.length + 1) .first [] cs).map
      fun (members, rest) => (.object members, rest)
  | cs =>
    if startsWithDigit cs then (readNumber false cs).map fun (n, rest) => (.number n, rest)
    else stopNext .noValue cs

/-- Reads a value in which `room` containers may be nested. -/
def readValue : Nat → List Char → Read Value
  | 0 => readWith none
  | room + 1 => readWith (some (readValue room))

/-! ## Parts that are not needed -/

/-- An open container. -/
inductive Frame where
  | list
  | object
deriving DecidableEq, Repr

/-- What comes next in a part that is not needed. -/
inductive Expect where
  | value
  | opened
  | after
deriving DecidableEq, Repr

/-- Steps over what stands before a value in a container: over a key and a colon
    in an object, over nothing in a list. -/
def skipToValue (frame : Frame) (cs : List Char) : Except Stop (List Char) :=
  match frame with
  | .list => .ok cs
  | .object =>
    match skipBlanks cs with
    | '"' :: rest => (skipString rest).bind readColon
    | [] => stopHere .endInObject []
    | other => stopNext .keyNoString other

/-- Steps over a value that is no container; a container is only opened. -/
def skipScalar (cs : List Char) : Except Stop (Option Frame × List Char) :=
  let scalar := Except.map fun rest : List Char => (none, rest)
  match cs with
  | [] => stopHere .endInValue []
  | 'n' :: rest => scalar (readIdent "ull".toList rest)
  | 't' :: rest => scalar (readIdent "rue".toList rest)
  | 'f' :: rest => scalar (readIdent "alse".toList rest)
  | '-' :: rest => scalar (skipNumber rest)
  | '"' :: rest => scalar (skipString rest)
  | '[' :: rest => .ok (some .list, rest)
  | '\x7b' :: rest => .ok (some .object, rest)
  | _ => if startsWithDigit cs then scalar (skipNumber cs) else stopNext .noValue cs

/-- Whether the character closes the container. -/
def closes (frame : Frame) (c : Char) : Bool :=
  match frame with
  | .list => c == ']'
  | .object => c == '\x7d'

/-- Steps over a value, with the containers that are open. -/
def skipFrom : Nat → Expect → List Frame → List Char → Except Stop (List Char)
  | 0, _, _, cs => stopHere .endInValue cs
  | limit + 1, .value, frames, cs =>
    match skipScalar (skipBlanks cs) with
    | .error s => .error s
    | .ok (some frame, rest) => skipFrom limit .opened (frame :: frames) rest
    | .ok (none, rest) => skipFrom limit .after frames rest
  | _ + 1, .after, [], cs => .ok cs
  | _ + 1, .opened, [], cs => .ok cs
  | limit + 1, expect, frame :: frames, cs =>
    let onValue := fun rest =>
      match skipToValue frame rest with
      | .error s => .error s
      | .ok rest => skipFrom limit .value (frame :: frames) rest
    match skipBlanks cs with
    | [] => stopHere (if frame = .list then .endInList else .endInObject) []
    | c :: rest =>
      if closes frame c then skipFrom limit .after frames rest
      else if expect = .opened then onValue (c :: rest)
      else if c = ',' then onValue rest
      else stopNext (if frame = .list then .noListSeparator else .noObjectSeparator) (c :: rest)

/-- Steps over a value that is not needed.  Each character is looked at in at
    most three rounds. -/
def skipValue (cs : List Char) : Except Stop (List Char) :=
  skipFrom (3 * cs.length + 3) .value [] cs

/-! ## Values of a type -/

/-- The fault of a value that has another type than the expected one.  A scalar
    is read first, and may have a fault of its own. -/
def wrongType {α : Type} (expected : String) (cs : List Char) : Read α :=
  let found := fun (what : String) (rest : List Char) => stopHere (.type what expected) rest
  let number := fun r : Read Number => match r with
    | .error s => .error s
    | .ok (.natural n, rest) => found ("integer `" ++ toString n ++ "`") rest
    | .ok (.negative n, rest) => found ("integer `-" ++ toString n ++ "`") rest
    | .ok (.real x, rest) => found ("floating point `" ++ x.text ++ "`") rest
  let word := fun (letters what : String) (rest : List Char) =>
    match readIdent letters.toList rest with
    | .error s => .error s
    | .ok rest => found what rest
  match cs with
  | 'n' :: rest => word "ull" "null" rest
  | 't' :: rest => word "rue" "boolean `true`" rest
  | 'f' :: rest => word "alse" "boolean `false`" rest
  | '-' :: rest => number (readNumber true rest)
  | '"' :: rest =>
    match readString rest with
    | .error s => .error s
    | .ok (s, rest) => found ("string " ++ quote s) rest
  | '[' :: _ => found "sequence" cs
  | '\x7b' :: _ => found "map" cs
  | _ => if startsWithDigit cs then number (readNumber false cs) else stopNext .noValue cs

/-- Reads a string and nothing else. -/
def readStringOnly (cs : List Char) : Read String :=
  match skipBlanks cs with
  | [] => stopHere .endInValue []
  | '"' :: rest => readString rest
  | other => wrongType "a string" other

/-- Reads an object and nothing else; `room` containers may be opened. -/
def readObjectOnly (room : Nat) (cs : List Char) : Read Members :=
  match skipBlanks cs, room with
  | [], _ => stopHere .endInValue []
  | '\x7b' :: rest, room + 1 => readMembers (readValue room) (rest.length + 1) .first [] rest
  | '\x7b' :: rest, 0 => stopNext .nesting ('\x7b' :: rest)
  | other, _ => wrongType "a map" other

/-- Reads a list and nothing else; `room` containers may be opened. -/
def readListOnly (room : Nat) (cs : List Char) : Read (List Value) :=
  match skipBlanks cs, room with
  | [], _ => stopHere .endInValue []
  | '[' :: rest, room + 1 => readItems (readValue room) (rest.length + 1) .first [] rest
  | '[' :: rest, 0 => stopNext .nesting ('[' :: rest)
  | other, _ => wrongType "a sequence" other

/-- Reads null as nothing, and all else by a reader. -/
def readOptional {α : Type} (read : List Char → Read α) (cs : List Char) : Read (Option α) :=
  match skipBlanks cs with
  | 'n' :: rest => (readIdent "ull".toList rest).map fun rest => (none, rest)
  | other => (read other).map fun (x, rest) => (some x, rest)

/-- Nothing but blanks may follow a document. -/
def readEnd (cs : List Char) : Except Stop Unit :=
  match skipBlanks cs with
  | [] => .ok ()
  | other => stopNext .trailingText other

/-- The value of a text. -/
def Value.ofText (text : String) : Except Stop Value :=
  match readValue 127 text.toList with
  | .error s => .error s
  | .ok (v, rest) => (readEnd rest).map fun () => v

end SwaggerCmdlets.Json
