import SwaggerCmdlets.Command.Group
import SwaggerCmdlets.Script.Function

/-! # Merging — one function for each group

    A group of one becomes a function that makes its call.  A larger group
    becomes a function that chooses among the members' calls by the optional
    parameters that are given: each member with optional parameters is a branch,
    in the order of the group, and of the members without any the last is the
    default.

    Common parameters are mandatory, switches apart, since a mandatory switch
    could never be left off.  When the members with optional parameters have
    more than one parameter set name, the optional parameters are tagged with
    the sets of the members that declare them. -/

namespace SwaggerCmdlets

/-- `<Verb>-<Prefix><Subject>`. -/
def cmdletName (action : Action) (cmdletPrefix subject : String) : String :=
  action.verb ++ "-" ++ cmdletPrefix ++ Text.capitalize subject

namespace ScriptParameter

/-- The declaration of a parameter.  Only a body keeps the type of its model. -/
def ofParameter (p : Parameter) : ScriptParameter :=
  let type := match p.type with
    | .switch => "Switch"
    | .named token => if p.isBody then token else "object"
  ⟨p.name, type, false, []⟩

/-- The declaration of a parameter that every call needs. -/
def ofCommon (p : Parameter) : ScriptParameter :=
  { ofParameter p with mandatory := !p.isSwitch }

end ScriptParameter

/-- The condition that a parameter is given. -/
def Condition.ofParameter (p : Parameter) : Condition :=
  if p.isSwitch then .present p.name else .notNull p.name

namespace Group

/-- The conditions under which a member's call is made. -/
def conditions (split : ParameterSplit) (d : Descriptor) : List Condition :=
  distinct ((d.parameters.filter fun p => split.isOptional p.name).map Condition.ofParameter)

/-- Whether the member needs no optional parameter. -/
def isPlain (split : ParameterSplit) (d : Descriptor) : Bool :=
  (conditions split d).isEmpty

/-- The set names of the members that declare optional parameters. -/
def optionalSets (split : ParameterSplit) (members : List Descriptor) : List String :=
  distinct ((members.filter fun d => d.parameters.any fun p => split.isOptional p.name).map
    (·.setName))

/-- The set names of the members that declare the name. -/
def setsDeclaring (members : List Descriptor) (name : String) : List String :=
  distinct ((members.filter (ParameterSplit.declares · name)).map (·.setName))

/-- Whether optional parameters are tagged with their sets. -/
def isTagged (split : ParameterSplit) (members : List Descriptor) : Bool :=
  1 < (optionalSets split members).length

/-- The parameters of a larger group's function: common ones, then optional
    ones. -/
def params (split : ParameterSplit) (members : List Descriptor) : List ScriptParameter :=
  split.common.map ScriptParameter.ofCommon
    ++ split.optional.map fun p =>
      { ScriptParameter.ofParameter p with
        sets := if isTagged split members then setsDeclaring members p.name else [] }

/-- The choice among the members' calls. -/
def dispatch (base : String) (split : ParameterSplit) (members : List Descriptor) :
    Dispatch :=
  { branches := (members.filter (!isPlain split ·)).map fun d =>
      ⟨conditions split d, Call.ofDescriptor base d⟩
    default := ((members.filter (isPlain split ·)).getLast?).map (Call.ofDescriptor base) }

/-- The members whose calls the default displaces: those without optional
    parameters, the last of them apart. -/
def displaced (split : ParameterSplit) (members : List Descriptor) : List Descriptor :=
  (members.filter (isPlain split ·)).dropLast

/-- The function of a group. -/
def function (cmdletPrefix base : String) (g : Group) : Function :=
  let name := cmdletName g.action cmdletPrefix g.subject
  match g.members with
  | [d] =>
    { name
      params := (d.parameters.filter (!·.isSubject)).map ScriptParameter.ofCommon
      body := .call (Call.ofDescriptor base d) }
  | members =>
    let split := ParameterSplit.ofMembers members
    { name
      params := params split members
      body := .dispatch (dispatch base split members) }

/-- The functions of the groups that descriptors form. -/
def functions (cmdletPrefix base : String) (ds : List Descriptor) : List Function :=
  (ofDescriptors ds).map (function cmdletPrefix base)

end Group

end SwaggerCmdlets
