import SwaggerCmdlets.Number.Double

/-! # Values — what documents are made of

    A document is a tree of values.  Objects keep their members in the order in
    which the keys first appear; a repeated key replaces the value and keeps the
    place.  Integers of 64 bits are exact, all other numbers are doubles. -/

namespace SwaggerCmdlets.Json

/-- A number. -/
inductive Number where
  /-- An integer below `2 ^ 64`. -/
  | natural (n : Nat)
  /-- The integer `-n`, down to `-2 ^ 63`. -/
  | negative (n : Nat)
  | real (x : Double)
deriving DecidableEq, Repr

/-- A value. -/
inductive Value where
  | null
  | bool (b : Bool)
  | number (n : Number)
  | string (s : String)
  | array (items : List Value)
  | object (members : List (String × Value))
deriving Repr

/-- The members of an object. -/
abbrev Members := List (String × Value)

namespace Members

/-- The value of a key. -/
def get? (ms : Members) (key : String) : Option Value :=
  (ms.find? (·.1 == key)).map (·.2)

/-- Sets a key: in its place, or at the end. -/
def set (key : String) (v : Value) : Members → Members
  | [] => [(key, v)]
  | m :: ms => if m.1 = key then (key, v) :: ms else m :: set key v ms

/-- The members that a row of pairs leaves. -/
def ofPairs (pairs : List (String × Value)) : Members :=
  pairs.foldl (fun ms (k, v) => ms.set k v) []

end Members

namespace Value

/-- The text of a string. -/
def string? : Value → Option String
  | string s => some s
  | _ => none

/-- The items of an array. -/
def array? : Value → Option (List Value)
  | array items => some items
  | _ => none

/-- The members of an object. -/
def object? : Value → Option Members
  | object members => some members
  | _ => none

/-- The value of a key, if the value is an object that has it. -/
def get? (v : Value) (key : String) : Option Value := v.object?.bind (·.get? key)

end Value

end SwaggerCmdlets.Json
