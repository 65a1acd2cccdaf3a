/-! # Type tokens — description types as script types

    A description names types that a script does not know.  Three primitive
    tokens and the token of arrays have fixed replacements; models without a
    declaration of their own are passed through as objects, the built-in ones
    and those that the user names.  Every other token stays as it is. -/

namespace SwaggerCmdlets

/-- The type tokens that are replaced, beyond the fixed ones. -/
structure TypeTable where
  passthrough : List String
deriving DecidableEq, Repr

namespace TypeTable

/-- The models that are always passed through. -/
def builtinPassthrough : List String :=
  ["IvWorkspaceDataContext", "DmSystem", "Farm", "AuthenticationSettings",
   "ConnectionBrokers", "ConnectorSettings", "DisplaySettings", "Downloads",
   "GeneralSettings", "LocalResourceSettings", "MiscellaneousSettings", "ProxyServer",
   "UserExperienceSettings", "UserInterfaceText", "ApplicationType", "ServerType",
   "ClientType", "WebsiteSettings", "WebsiteStatus"]

/-- The replacement of a token that no list of models names. -/
def primitive (token : String) : String :=
  match token with
  | "boolean" => "bool"
  | "integer" => "int"
  | "Guid" => "string"
  | "array" => "object"
  | token => token

/-- The script type of a token. -/
def normalize (t : TypeTable) (token : String) : String :=
  if t.passthrough.contains token || builtinPassthrough.contains token then "object"
  else primitive token

end TypeTable

end SwaggerCmdlets
