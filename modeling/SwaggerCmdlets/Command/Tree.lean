import SwaggerCmdlets.Command.Merge

/-! # The command tree — commands and the endpoints behind them

    For inspection, the commands of a module are listed with the descriptors
    that each was merged from, before anything is left out. -/

namespace SwaggerCmdlets

/-- One command and its members. -/
structure Command where
  name : String
  action : Action
  subject : String
  members : List Descriptor
deriving DecidableEq, Repr

/-- The commands of a module and the base address of their calls. -/
structure CommandTree where
  base : String
  commands : List Command
deriving DecidableEq, Repr

namespace CommandTree

/-- The command of a group. -/
def command (cmdletPrefix : String) (g : Group) : Command :=
  ⟨cmdletName g.action cmdletPrefix g.subject, g.action, g.subject, g.members⟩

/-- The tree of a list of descriptors. -/
def ofDescriptors (cmdletPrefix base : String) (ds : List Descriptor) : CommandTree :=
  ⟨base, (Group.ofDescriptors ds).map (command cmdletPrefix)⟩

end CommandTree

end SwaggerCmdlets
