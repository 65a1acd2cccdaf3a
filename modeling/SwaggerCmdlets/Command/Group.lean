import SwaggerCmdlets.Command.Descriptor

/-! # Groups — descriptors with one action and one subject

    Descriptors that share action and subject become one command.  Groups stand
    in the order of their first members, and members in the order in which they
    were found.

    Within a group a parameter is common when every member declares its name,
    and optional otherwise; members count once per name. -/

namespace SwaggerCmdlets

/-- The descriptors of one command. -/
structure Group where
  action : Action
  subject : String
  members : List Descriptor
deriving DecidableEq, Repr

namespace Group

/-- The key that the members share. -/
def key (g : Group) : Action × String := (g.action, g.subject)

/-- Puts a descriptor into the group of its key, or into a new last group. -/
def insert (d : Descriptor) : List Group → List Group
  | [] => [⟨d.action, d.subject, [d]⟩]
  | g :: gs =>
    if g.key = d.key then { g with members := g.members ++ [d] } :: gs
    else g :: insert d gs

/-- The groups of a list of descriptors. -/
def ofDescriptors (ds : List Descriptor) : List Group :=
  ds.foldl (fun gs d => insert d gs) []

end Group

/-- A group's parameters, by how many members declare them. -/
structure ParameterSplit where
  common : List Parameter
  optional : List Parameter
deriving DecidableEq, Repr

namespace ParameterSplit

/-- Whether the member declares the name. -/
def declares (d : Descriptor) (name : String) : Bool :=
  d.parameters.any (·.name == name)

/-- Whether every member declares the name. -/
def isCommonName (members : List Descriptor) (name : String) : Bool :=
  members.all (declares · name)

/-- Adds a parameter to the part it belongs to, unless its name stands there. -/
def add (members : List Descriptor) (split : ParameterSplit) (p : Parameter) :
    ParameterSplit :=
  if p.isSubject then split
  else if isCommonName members p.name then
    { split with common := Parameter.addNew split.common p }
  else { split with optional := Parameter.addNew split.optional p }

/-- The parameters of the members, split. -/
def ofMembers (members : List Descriptor) : ParameterSplit :=
  (members.flatMap (·.parameters)).foldl (add members) ⟨[], []⟩

/-- Whether the name is that of an optional parameter. -/
def isOptional (split : ParameterSplit) (name : String) : Bool :=
  split.optional.any (·.name == name)

end ParameterSplit

end SwaggerCmdlets
