import SwaggerCmdlets.Command.Tree
import SwaggerCmdlets.Json.Print

/-! # Listings — the command tree as text and as a value

    As text, each command is a line with its name, followed by a line for each
    endpoint behind it.  As a value, nothing of the tree is left out. -/

namespace SwaggerCmdlets

open Json

/-- The line of a member. -/
def Descriptor.listing (d : Descriptor) : String :=
  "  " ++ d.action.method ++ " " ++ d.endpoint ++ " [" ++ d.setName ++ "]"

/-- The lines of a tree. -/
def CommandTree.listing (t : CommandTree) : List String :=
  t.commands.flatMap fun c => c.name :: c.members.map Descriptor.listing

/-- A parameter as a value. -/
def Parameter.toValue (p : Parameter) : Value :=
  .object [("name", .string p.name), ("ty", match p.type with
    | .switch => .string "Switch"
    | .named token => .object [("Named", .string token)])]

/-- A descriptor as a value. -/
def Descriptor.toValue (d : Descriptor) : Value :=
  .object [("action", .string d.action.label), ("subject", .string d.subject),
    ("endpoint", .string d.endpoint), ("parameters", .array (d.parameters.map Parameter.toValue)),
    ("parameter_set_name", .string d.setName)]

/-- A command as a value. -/
def Command.toValue (c : Command) : Value :=
  .object [("name", .string c.name), ("action", .string c.action.label),
    ("subject", .string c.subject), ("members", .array (c.members.map Descriptor.toValue))]

/-- A tree as a value. -/
def CommandTree.toValue (t : CommandTree) : Value :=
  .object [("base_uri", .string t.base), ("commands", .array (t.commands.map Command.toValue))]

end SwaggerCmdlets
