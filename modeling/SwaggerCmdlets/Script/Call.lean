import SwaggerCmdlets.Command.Descriptor
import SwaggerCmdlets.Url.Parse

/-! # Calls — the requests that commands send

    A command calls its endpoint below the base address, with each placeholder
    `{name}` of the endpoint turned into a reference to the variable of that
    name.  An endpoint that is an address on its own is called as it is. -/

namespace SwaggerCmdlets

/-- One request. -/
structure Call where
  uri : String
  method : String
  sendsBody : Bool
deriving DecidableEq, Repr

namespace Call

/-- The endpoint with its placeholders turned into variable references. -/
def references (endpoint : List Char) : List Char :=
  endpoint.flatMap fun c =>
    if c = '\x7b' then ['$', '(', '$'] else if c = '\x7d' then [')'] else [c]

/-- Two texts with exactly one slash where they meet. -/
def joinSlash (base path : List Char) : List Char :=
  Text.trimEndOf '/' base ++ '/' :: Text.trimStartOf '/' path

/-- The address that a call of the endpoint is sent to. -/
def target (base endpoint : String) : String :=
  let filled := references endpoint.toList
  if Url.isAbsolute endpoint then String.ofList filled
  else String.ofList (joinSlash base.toList filled)

/-- The call that a descriptor stands for. -/
def ofDescriptor (base : String) (d : Descriptor) : Call :=
  ⟨target base d.endpoint, d.action.method, d.sendsBody⟩

/-- The call as a line of script. -/
def line (call : Call) : String :=
  "$response = Invoke-RestMethod -Uri \"" ++ call.uri ++ "\" -Method " ++ call.method
    ++ " -ContentType 'application/json' -Headers @\x7baccept=\"Application/JSON\";"
    ++ "Authorization=\"Token\" + $global:AuthToken.Token\x7d"
    ++ (if call.sendsBody then " -Body $($body | ConvertTo-JSON)" else "")

end Call

end SwaggerCmdlets
