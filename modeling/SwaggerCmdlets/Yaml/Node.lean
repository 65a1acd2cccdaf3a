import SwaggerCmdlets.Yaml.Lexer

/-! # Nodes — the tree that tokens spell

    A node is a scalar, a list, a mapping or an alias of an anchored node, and it
    may have a tag.  Where a node is missing, an empty plain scalar stands in for
    it.  A text holds one document, which may be empty. -/

namespace SwaggerCmdlets.Yaml

/-- Tag and anchor of a node. -/
structure Properties where
  tag : Option (List UInt8)
  anchor : Option String
deriving DecidableEq, Repr

/-- A node; an alias says which anchored node it stands for. -/
inductive Node (α : Type) where
  | alias (target : α)
  | scalar (props : Properties) (text : String) (plain : Bool)
  | list (props : Properties) (items : List (Node α))
  | mapping (props : Properties) (pairs : List (Node α × Node α))

/-- A node whose aliases are names. -/
abbrev NamedNode := Node String

namespace Node

/-- No properties. -/
def bare : Properties := ⟨none, none⟩

/-- The node that stands in for a missing one. -/
def missing : NamedNode := .scalar bare "" true

/-- What handles stand for. -/
abbrev Handles := List (String × List UInt8)

/-- The handles that need no directive. -/
def standardHandles : Handles :=
  [("!", [0x21]), ("!!", Text.encodeUtf8 "tag:yaml.org,2002:".toList)]

/-- The tag of a handle and a suffix. -/
def expand? (handles : Handles) (handle : String) (suffix : List UInt8) : Option (List UInt8) :=
  if handle = "" then some suffix
  else (handles.find? (·.1 == handle)).map fun (_, expansion) => expansion ++ suffix

/-- Reads tag and anchor, in either order. -/
def readProperties (handles : Handles) : List Token → Option (Properties × List Token)
  | .anchor name :: .tag handle suffix :: ts =>
    (expand? handles handle suffix).map fun tag => (⟨some tag, some name⟩, ts)
  | .tag handle suffix :: .anchor name :: ts =>
    (expand? handles handle suffix).map fun tag => (⟨some tag, some name⟩, ts)
  | .anchor name :: ts => some (⟨none, some name⟩, ts)
  | .tag handle suffix :: ts =>
    (expand? handles handle suffix).map fun tag => (⟨some tag, none⟩, ts)
  | ts => some (bare, ts)

/-- Whether no node starts with the token, in a block. -/
def endsBlockPart (t : Token) : Bool :=
  match t with
  | .key | .value | .blockEnd => true
  | _ => false

/-- Whether no node starts with the token, in a flow list. -/
def endsListPart (t : Token) : Bool :=
  match t with
  | .comma | .closeSequence => true
  | _ => false

/-- Whether no node starts with the token, in a flow mapping. -/
def endsMappingPart (t : Token) : Bool :=
  match t with
  | .comma | .closeMapping => true
  | _ => false

/-- Where a node stands: whether blocks may start there, and whether a list may
    start there without more indentation. -/
structure Place where
  block : Bool
  dashes : Bool

/-- Any block may start. -/
def Place.inBlock : Place := ⟨true, false⟩

/-- Any block may start, and a list of dashes right away. -/
def Place.inMapping : Place := ⟨true, true⟩

/-- No block may start. -/
def Place.inFlow : Place := ⟨false, false⟩

mutual

/-- Reads a node. -/
def readNode (handles : Handles) : Nat → Place → List Token → Option (NamedNode × List Token)
  | 0, _, _ => none
  | _ + 1, _, .alias name :: ts => some (.alias name, ts)
  | limit + 1, place, ts =>
    match readProperties handles ts with
    | none => none
    | some (props, ts) =>
      match ts with
      | .dash :: _ =>
        if place.dashes then
          (readDashes handles limit false ts).map fun (items, ts) => (.list props items, ts)
        else finishEmpty props ts
      | .scalar text plain :: ts =>
        let props := if props.tag == some [0x21] then { props with tag := none } else props
        some (.scalar props text plain, ts)
      | .openSequence :: ts =>
        (readFlowItems handles limit true ts).map fun (items, ts) => (.list props items, ts)
      | .openMapping :: ts =>
        (readFlowPairs handles limit true ts).map fun (pairs, ts) => (.mapping props pairs, ts)
      | .blockSequence :: ts' =>
        if place.block then
          (readDashes handles limit true ts').map fun (items, ts) => (.list props items, ts)
        else finishEmpty props ts
      | .blockMapping :: ts' =>
        if place.block then
          (readPairs handles limit ts').map fun (pairs, ts) => (.mapping props pairs, ts)
        else finishEmpty props ts
      | _ => finishEmpty props ts

/-- Reads a node, or leaves it out before a token that no node starts with. -/
def readPart (handles : Handles) :
    Nat → (Token → Bool) → Place → List Token → Option (NamedNode × List Token)
  | 0, _, _, _ => none
  | limit + 1, ends, place, ts =>
    match ts with
    | t :: _ => if ends t then some (missing, ts) else readNode handles limit place ts
    | [] => none

/-- Reads items after dashes, which a block closes or just something else. -/
def readDashes (handles : Handles) :
    Nat → Bool → List Token → Option (List NamedNode × List Token)
  | 0, _, _ => none
  | limit + 1, closed, .dash :: ts =>
    let ends : Token → Bool := fun t =>
      t == .dash || t == .blockEnd || (!closed && endsBlockPart t)
    match readPart handles limit ends .inBlock ts with
    | none => none
    | some (item, ts) =>
      (readDashes handles limit closed ts).map fun (items, ts) => (item :: items, ts)
  | _ + 1, true, .blockEnd :: ts => some ([], ts)
  | _ + 1, true, _ => none
  | _ + 1, false, ts => some ([], ts)

/-- Reads keys and values up to the end of a block. -/
def readPairs (handles : Handles) :
    Nat → List Token → Option (List (NamedNode × NamedNode) × List Token)
  | 0, _ => none
  | limit + 1, .key :: ts =>
    match readPart handles limit endsBlockPart .inMapping ts with
    | none => none
    | some (key, ts) =>
      match readValue handles limit ts with
      | none => none
      | some (value, ts) =>
        (readPairs handles limit ts).map fun (pairs, ts) => ((key, value) :: pairs, ts)
  | _ + 1, .blockEnd :: ts => some ([], ts)
  | _ + 1, _ => none

/-- Reads the value of a key in a block. -/
def readValue (handles : Handles) : Nat → List Token → Option (NamedNode × List Token)
  | 0, _ => none
  | limit + 1, .value :: ts => readPart handles limit endsBlockPart .inMapping ts
  | _ + 1, ts => some (missing, ts)

/-- Reads the items of a flow list. -/
def readFlowItems (handles : Handles) :
    Nat → Bool → List Token → Option (List NamedNode × List Token)
  | 0, _, _ => none
  | _ + 1, _, .closeSequence :: ts => some ([], ts)
  | _ + 1, false, .comma :: .closeSequence :: ts => some ([], ts)
  | limit + 1, first, ts =>
    let item? := if first then some ts else match ts with
      | .comma :: ts => some ts
      | _ => none
    match item? with
    | none => none
    | some ts =>
      match readFlowItem handles limit ts with
      | none => none
      | some (item, ts) =>
        (readFlowItems handles limit false ts).map fun (items, ts) => (item :: items, ts)

/-- Reads an item of a flow list, which may be a mapping of one key. -/
def readFlowItem (handles : Handles) : Nat → List Token → Option (NamedNode × List Token)
  | 0, _ => none
  | limit + 1, .key :: ts =>
    let key? := match ts with
      | t :: rest =>
        -- a token that no key starts with counts as the key
        if t == Token.value || endsListPart t then some (missing, rest)
        else readNode handles limit .inFlow ts
      | [] => none
    match key? with
    | none => none
    | some (key, ts) =>
      let value? := match ts with
        | .value :: ts => readPart handles limit endsListPart .inFlow ts
        | _ => some (missing, ts)
      value?.map fun (value, ts) => (.mapping bare [(key, value)], ts)
  | limit + 1, ts => readNode handles limit .inFlow ts

/-- Reads the keys and values of a flow mapping. -/
def readFlowPairs (handles : Handles) :
    Nat → Bool → List Token → Option (List (NamedNode × NamedNode) × List Token)
  | 0, _, _ => none
  | _ + 1, _, .closeMapping :: ts => some ([], ts)
  | _ + 1, false, .comma :: .closeMapping :: ts => some ([], ts)
  | limit + 1, first, ts =>
    let pair? := if first then some ts else match ts with
      | .comma :: ts => some ts
      | _ => none
    match pair? with
    | none => none
    | some ts =>
      match readFlowPair handles limit ts with
      | none => none
      | some (pair, ts) =>
        (readFlowPairs handles limit false ts).map fun (pairs, ts) => (pair :: pairs, ts)

/-- Reads a key and a value of a flow mapping; a key that is not announced as
    one has no value. -/
def readFlowPair (handles : Handles) :
    Nat → List Token → Option ((NamedNode × NamedNode) × List Token)
  | 0, _ => none
  | limit + 1, .key :: ts =>
    match readPart handles limit (fun t => t == Token.value || endsMappingPart t) .inFlow ts with
    | none => none
    | some (key, ts) =>
      let value? := match ts with
        | .value :: ts => readPart handles limit endsMappingPart .inFlow ts
        | _ => some (missing, ts)
      value?.map fun (value, ts) => ((key, value), ts)
  | limit + 1, ts => (readNode handles limit .inFlow ts).map fun (key, ts) => ((key, missing), ts)

/-- Ends a node of which there are only properties. -/
def finishEmpty (props : Properties) (ts : List Token) : Option (NamedNode × List Token) :=
  if props = bare then none else some (.scalar props "" true, ts)

end

/-! ## Documents -/

/-- Reads directives. -/
def readDirectives (seen : Bool) (handles : Handles) :
    List Token → Option (Handles × List Token)
  | .version major minor :: ts =>
    if seen || major != 1 || (minor != 1 && minor != 2) then none
    else readDirectives true handles ts
  | .tagHandle handle expansion :: ts =>
    if handles.any (·.1 == handle) then none
    else readDirectives seen (handles ++ [(handle, expansion)]) ts
  | ts => some (handles ++ standardHandles, ts)

/-- Whether a token stands at the edge of a document. -/
def isEdge (t : Token) : Bool :=
  match t with
  | .version _ _ | .tagHandle _ _ | .documentStart | .documentEnd | .streamEnd => true
  | _ => false

/-- Reads the node of a document. -/
def readRoot (handles : Handles) (ts : List Token) : Option (NamedNode × List Token) :=
  readNode handles (6 * ts.length + 6) .inBlock ts

/-- Reads a document with a mark at its start. -/
def readMarked (ts : List Token) : Option (NamedNode × List Token) := do
  let (handles, ts) ← readDirectives false [] ts
  match ts with
  | .documentStart :: t :: ts =>
    if isEdge t then some (missing, t :: ts) else readRoot handles (t :: ts)
  | _ => none

/-- Whether nothing follows a document. -/
def isEnd (ts : List Token) : Bool :=
  ts.dropWhile (· == .documentEnd) == [.streamEnd]

/-- The node of a text; nothing inside if the text holds no document. -/
def ofText? (text : String) : Option (Option NamedNode) := do
  let ts ← tokens? text.toList
  match ts with
  | [.streamEnd] => some none
  | t :: _ =>
    let (node, rest) ← match t with
      | .version _ _ | .tagHandle _ _ | .documentStart => readMarked ts
      | _ => readRoot standardHandles ts
    if isEnd rest then some (some node) else none
  | [] => none

end Node

end SwaggerCmdlets.Yaml
