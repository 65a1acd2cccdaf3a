import SwaggerCmdlets.Command.Merge
import SwaggerCmdlets.Text.Quoted

/-! # Notices — what a run reports on its way

    A notice says what has happened.  It has a level, a topic that it can be
    filtered by, and a text: a message and named details. -/

namespace SwaggerCmdlets

/-- How important a notice is, the most important first. -/
inductive Level where
  | error
  | warn
  | info
  | debug
  | trace
deriving DecidableEq, Repr

/-- The name of a level. -/
def Level.label : Level → String
  | error => "ERROR"
  | warn => "WARN"
  | info => "INFO"
  | debug => "DEBUG"
  | trace => "TRACE"

/-- How many levels are at least as important. -/
def Level.rank : Level → Nat
  | error => 1
  | warn => 2
  | info => 3
  | debug => 4
  | trace => 5

/-- Something that a run reports. -/
inductive Notice where
  /-- The base address is that of a local document. -/
  | localBase (base : String)
  | resolving (uri : String) (depth : Nat)
  | fetching (uri : String)
  | alreadyResolved (uri : String)
  | alreadyDeclared (name : String)
  | noSubject (path : String)
  | classified (d : Descriptor)
  | resolved (commands declarations : Nat)
  | merging (command : String) (members : Nat) (tagged : Bool)
  /-- The endpoint's call is given up for that of a later member. -/
  | displaced (command endpoint : String)
  | written (path : String)
deriving DecidableEq, Repr

namespace Notice

/-- The level of a notice. -/
def level : Notice → Level
  | localBase _ | noSubject _ | displaced _ _ => .warn
  | resolving _ _ | resolved _ _ | written _ => .info
  | fetching _ | alreadyResolved _ | alreadyDeclared _ | classified _ | merging _ _ _ => .debug

/-- The topic of a notice. -/
def topic : Notice → String
  | fetching _ => "swagger_pwsh::fetch"
  | alreadyDeclared _ => "swagger_pwsh::registry"
  | merging _ _ _ | displaced _ _ => "swagger_pwsh::aggregate"
  | _ => "swagger_pwsh::resolve"

/-- The message of a notice. -/
def message : Notice → String
  | localBase _ => "root document is not served over http, generated calls target this base "
      ++ "unless an API base override is set"
  | resolving _ _ => "resolving description document"
  | fetching _ => "fetching description document"
  | alreadyResolved _ => "document already resolved, skipping"
  | alreadyDeclared _ => "declaration already registered, keeping the first"
  | noSubject _ => "path names no subject, skipping its operations"
  | classified _ => "classified operation"
  | resolved _ _ => "description resolved"
  | merging _ _ _ => "merging command"
  | displaced _ _ => "several endpoints need no optional parameter, keeping the last"
  | written _ => "module written"

/-- The names of the details and their texts. -/
def details : Notice → List (String × String)
  | localBase base => [("base", base)]
  | resolving uri depth => [("uri", uri), ("depth", toString depth)]
  | fetching uri => [("uri", uri)]
  | alreadyResolved uri => [("uri", uri)]
  | alreadyDeclared name => [("name", Text.quote name)]
  | noSubject path => [("path", Text.quote path)]
  | classified d => [("endpoint", d.endpoint), ("action", d.action.label),
      ("subject", d.subject), ("parameter_set", d.setName)]
  | resolved commands declarations =>
    [("commands", toString commands), ("declarations", toString declarations)]
  | merging command members tagged => [("command", command), ("members", toString members),
      ("parameter_sets", if tagged then "true" else "false")]
  | displaced command endpoint => [("command", command), ("endpoint", endpoint)]
  | written path => [("path", path)]

/-- A notice as a line. -/
def line (n : Notice) : String :=
  n.level.label ++ " " ++ n.message
    ++ String.join (n.details.map fun (name, text) => " " ++ name ++ "=" ++ text)

/-- What the merging of a group reports. -/
def ofGroup (cmdletPrefix : String) (g : Group) : List Notice :=
  match g.members with
  | [_] => []
  | members =>
    let command := cmdletName g.action cmdletPrefix g.subject
    let split := ParameterSplit.ofMembers members
    .merging command members.length (Group.isTagged split members)
      :: (Group.displaced split members).map fun d => .displaced command d.endpoint

end Notice

end SwaggerCmdlets
