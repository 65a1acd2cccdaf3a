import SwaggerCmdlets.Yaml.Document
import SwaggerCmdlets.Yaml.ScalarValue

/-! # Reading nodes — as texts, rows, members and values

    What an alias stands for is read again at each place.  So that this ends, a
    reading may follow only so many aliases, and lists and mappings may be nested
    only so deep.  A missing node counts as an empty row and as no members. -/

namespace SwaggerCmdlets.Yaml

open Json

/-- A reading, with the number of aliases that may still be followed. -/
abbrev Reading (α : Type) := StateT Nat Option α

namespace Document

/-- The node itself, or what it stands for. -/
def follow (d : Document) (n : LinkedNode) : Reading LinkedNode :=
  match n with
  | .alias number => do
    match ← get with
    | 0 => failure
    | left + 1 =>
      set left
      (d.target? number : Option LinkedNode)
  | n => pure n

/-- How many aliases a reading of the document may follow. -/
def aliasLimit (d : Document) : Nat := 100 * d.root.size

/-- Reads a text: a scalar of any kind. -/
def readText (d : Document) (n : LinkedNode) : Reading String := do
  match ← d.follow n with
  | .scalar _ text _ => pure text
  | _ => failure

/-- Whether a node is a plain scalar without text. -/
def isBlank (n : LinkedNode) : Bool :=
  match n with
  | .scalar _ text plain => plain && text == ""
  | _ => false

/-- Whether a tag is the program's own affair, which no value may have. -/
def isLocal (props : Properties) : Bool :=
  match props.tag with
  | some (0x21 :: rest) => (Text.decodeUtf8? (0x21 :: rest)).isSome
  | _ => false

/-- Reads the keys and values of a mapping. -/
def readPairs (d : Document) (inner : LinkedNode → Reading Value) :
    List (LinkedNode × LinkedNode) → Reading (List (String × Value))
  | [] => pure []
  | (k, v) :: ns => do
    let key ← d.readText k
    let value ← inner v
    return (key, value) :: (← readPairs d inner ns)

/-- Reads a value whose items and members are read by `nested`. -/
def readWith (d : Document) (nested : Option (LinkedNode → Reading Value)) (n : LinkedNode) :
    Reading Value := do
  match ← d.follow n with
  | .alias _ => failure
  | .scalar props text plain =>
    if isLocal props then failure else (scalarValue? props text plain : Option Value)
  | .list props items =>
    match nested with
    | some inner => if isLocal props then failure else return .array (← items.mapM inner)
    | none => failure
  | .mapping props pairs =>
    match nested with
    | some inner =>
      if isLocal props then failure
      else return .object (Members.ofPairs (← d.readPairs inner pairs))
    | none => failure

/-- Reads a value in which `room` lists and mappings may be nested. -/
def readValue (d : Document) : Nat → LinkedNode → Reading Value
  | 0 => d.readWith none
  | room + 1 => d.readWith (some (d.readValue room))

/-- Reads the items of a list. -/
def readItems (d : Document) (room : Nat) (n : LinkedNode) : Reading (List Value) := do
  match ← d.follow n with
  | .list _ items =>
    match room with
    | room + 1 => items.mapM (d.readValue room)
    | 0 => failure
  | n => if isBlank n then pure [] else failure

/-- Reads the members of a mapping. -/
def readMembers (d : Document) (room : Nat) (n : LinkedNode) : Reading Members := do
  match ← d.follow n with
  | .mapping _ pairs =>
    match room with
    | room + 1 => return Members.ofPairs (← d.readPairs (d.readValue room) pairs)
    | 0 => failure
  | n => if isBlank n then pure [] else failure

/-- Whether a node counts as nothing; it may not be tagged as null if it is
    not. -/
def isNothing? (n : LinkedNode) : Option Bool :=
  match n with
  | .scalar props text true =>
    match props.tag with
    | some tag =>
      if tag = standardTag "null" then (if isNullWord text then some true else none)
      else some false
    | none => some (text == "" || isNullWord text)
  | _ => some false

/-- Reads nothing, or by a reader. -/
def readOptional {α : Type} (d : Document) (read : LinkedNode → Reading α) (n : LinkedNode) :
    Reading (Option α) := do
  let n ← d.follow n
  match isNothing? n with
  | some true => pure none
  | some false => return some (← read n)
  | none => failure

end Document

end SwaggerCmdlets.Yaml
