import SwaggerCmdlets.Command.Action
import SwaggerCmdlets.Command.PathTemplate

/-! # Descriptors — one operation, understood as a command

    A descriptor is an operation together with what its path says: the action,
    the subject, the endpoint to call, the parameters with the subject entry
    first, and the name of the parameter set that leads to this endpoint. -/

namespace SwaggerCmdlets

/-- An operation as a description declares it. -/
structure Operation where
  method : String
  parameters : List Parameter
deriving DecidableEq, Repr

/-- One inferred command, before commands are merged. -/
structure Descriptor where
  action : Action
  subject : String
  endpoint : String
  parameters : List Parameter
  setName : String
deriving DecidableEq, Repr

namespace Descriptor

/-- Whether a call of the command sends a body. -/
def sendsBody (d : Descriptor) : Bool := d.parameters.any (·.isBody)

/-- The key that commands are merged by. -/
def key (d : Descriptor) : Action × String := (d.action, d.subject)

/-- Names the way that leads to the subject by the entries after the subject
    entry: the subject's identifier, with the type of the entry after it; a
    switch; or all of the subject. -/
def setNameOf (parameters : List Parameter) (subject : String) : String :=
  match parameters with
  | _ :: ⟨name, .switch⟩ :: _ => name
  | _ :: ⟨_, .named token⟩ :: rest =>
    if token = subject then
      match rest with
      | third :: _ => third.type.text ++ subject ++ "byID"
      | [] => subject ++ "byID"
    else "all" ++ subject
  | _ => "all" ++ subject

/-- The path's entries, then the declared parameters whose names are new. -/
def mergeParameters (entries declared : List Parameter) : List Parameter :=
  declared.foldl Parameter.addNew entries

/-- The descriptor of an operation at an endpoint, if its method is supported. -/
def ofOperation? (shape : PathShape) (endpoint : String) (op : Operation) :
    Option Descriptor :=
  (Action.ofMethod? op.method).map fun action =>
    let parameters := mergeParameters shape.entries op.parameters
    { action
      subject := shape.subject
      endpoint
      parameters
      setName := setNameOf parameters shape.subject }

end Descriptor

end SwaggerCmdlets
