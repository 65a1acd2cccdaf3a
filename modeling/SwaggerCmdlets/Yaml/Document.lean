import SwaggerCmdlets.Yaml.Node

/-! # Documents — nodes with their aliases resolved

    An alias stands for the node that bore the anchor last, at the place of the
    alias.  Anchors are numbered by how many names there are so far; an anchor
    that is given again takes a new number, which a later name may take over
    from it.  Of several nodes with one number the one that starts last is
    meant. -/

namespace SwaggerCmdlets.Yaml

/-- A node whose aliases are numbers. -/
abbrev LinkedNode := Node Nat

/-- An anchored node: its number, its place among the anchored nodes, and the
    node. -/
structure Anchored where
  number : Nat
  place : Nat
  node : LinkedNode

/-- The anchors so far. -/
structure Anchors where
  numbers : List (String × Nat)
  places : Nat
  targets : List Anchored

namespace Anchors

/-- No anchors. -/
def empty : Anchors := ⟨[], 0, []⟩

/-- Gives a name its number. -/
def setNumber (name : String) (number : Nat) : List (String × Nat) → List (String × Nat)
  | [] => [(name, number)]
  | e :: es => if e.1 = name then (name, number) :: es else e :: setNumber name number es

/-- Notes the anchor of a node that starts. -/
def enter (a : Anchors) (anchor : Option String) : Anchors :=
  match anchor with
  | none => a
  | some name => { a with
      numbers := setNumber name a.numbers.length a.numbers
      places := a.places + 1 }

/-- Notes a node that has ended; `before` are the anchors from before it. -/
def leave (a before : Anchors) (anchor : Option String) (node : LinkedNode) : Anchors :=
  match anchor with
  | none => a
  | some _ => { a with targets := ⟨before.numbers.length, before.places, node⟩ :: a.targets }

/-- The number of a name. -/
def number? (a : Anchors) (name : String) : Option Nat :=
  (a.numbers.find? (·.1 == name)).map (·.2)

end Anchors

namespace Node

mutual

/-- Resolves the aliases of a node; nothing if one has no anchor before it. -/
def link (a : Anchors) : NamedNode → Option (LinkedNode × Anchors)
  | .alias name => (a.number? name).map fun n => (.alias n, a)
  | .scalar props text plain =>
    let node := .scalar props text plain
    some (node, (a.enter props.anchor).leave a props.anchor node)
  | .list props items =>
    match linkItems (a.enter props.anchor) items with
    | none => none
    | some (items, after) =>
      some (.list props items, after.leave a props.anchor (.list props items))
  | .mapping props pairs =>
    match linkPairs (a.enter props.anchor) pairs with
    | none => none
    | some (pairs, after) =>
      some (.mapping props pairs, after.leave a props.anchor (.mapping props pairs))

/-- Resolves the aliases of items. -/
def linkItems (a : Anchors) : List NamedNode → Option (List LinkedNode × Anchors)
  | [] => some ([], a)
  | n :: ns =>
    match link a n with
    | none => none
    | some (n, a) => (linkItems a ns).map fun (ns, a) => (n :: ns, a)

/-- Resolves the aliases of keys and values. -/
def linkPairs (a : Anchors) :
    List (NamedNode × NamedNode) → Option (List (LinkedNode × LinkedNode) × Anchors)
  | [] => some ([], a)
  | (k, v) :: ns =>
    match link a k with
    | none => none
    | some (k, a) =>
      match link a v with
      | none => none
      | some (v, a) => (linkPairs a ns).map fun (ns, a) => ((k, v) :: ns, a)

end

mutual

/-- The size of a node: one for each scalar and alias, two for each list and
    mapping. -/
def size : LinkedNode → Nat
  | .alias _ => 1
  | .scalar _ _ _ => 1
  | .list _ items => 2 + sizeItems items
  | .mapping _ pairs => 2 + sizePairs pairs

/-- The size of items. -/
def sizeItems : List LinkedNode → Nat
  | [] => 0
  | n :: ns => n.size + sizeItems ns

/-- The size of keys and values. -/
def sizePairs : List (LinkedNode × LinkedNode) → Nat
  | [] => 0
  | (k, v) :: ns => k.size + v.size + sizePairs ns

end

end Node

/-- A document: its node, and the nodes that aliases stand for. -/
structure Document where
  root : LinkedNode
  targets : List Anchored

namespace Document

/-- The document of a node. -/
def ofNode? (n : NamedNode) : Option Document :=
  (n.link .empty).map fun (root, a) => ⟨root, a.targets⟩

/-- The node that an alias stands for. -/
def target? (d : Document) (number : Nat) : Option LinkedNode :=
  ((d.targets.filter (·.number == number)).foldl
    (fun best t => match best with
      | some (b : Anchored) => if b.place < t.place then some t else some b
      | none => some t) none).map (·.node)

end Document

end SwaggerCmdlets.Yaml
