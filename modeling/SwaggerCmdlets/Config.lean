import SwaggerCmdlets.Insertion
import SwaggerCmdlets.Script.TypeTable
import SwaggerCmdlets.Text.Pieces

/-! # Configuration — what the user chooses

    Explicit choices win; what is left open is filled from the environment.  A
    value that is blank does not count as given by the environment, but an
    explicit empty value does count.  Passed-through models are collected from
    both. -/

namespace SwaggerCmdlets

open Text

/-- The user's choices. -/
structure Config where
  /-- Stands between verb and subject of every command name. -/
  cmdletPrefix : String
  /-- Models that are passed through besides the built-in ones. -/
  passthrough : List String
  /-- The base address of generated calls, instead of the document's. -/
  apiBase : Option String
  /-- The token that documents are fetched with. -/
  token : Option String
  /-- Headers that documents are fetched with. -/
  headers : List (String × String)
deriving DecidableEq, Repr

/-- The values of environment variables. -/
abbrev Environment := String → Option String

namespace Config

/-- The configuration with nothing but a name part chosen. -/
def ofPrefix (cmdletPrefix : String) : Config := ⟨cmdletPrefix, [], none, none, []⟩

/-- The variable that holds the base address. -/
def apiBaseVariable : String := "SWAGGER_PWSH_API_URL"

/-- The variable that holds the token. -/
def tokenVariable : String := "SWAGGER_PWSH_TOKEN"

/-- The variable that lists passed-through models. -/
def passthroughVariable : String := "SWAGGER_PWSH_PASSTHROUGH_MODELS"

/-- The items of a list with commas, trimmed, without empty ones. -/
def listItems (s : String) : List String :=
  ((splitText ',' s).map trim).filter (· ≠ "")

/-- Name and value of `NAME:VALUE` or `NAME=VALUE`; a colon anywhere takes
    precedence. -/
def namedValue? (s : String) : Option (String × String) :=
  let both := fun (k, v) => (trim (String.ofList k), trim (String.ofList v))
  match splitFirst ':' s.toList with
  | some parts => some (both parts)
  | none => (splitFirst '=' s.toList).map both

/-- The explicit value, else the environment's unless it is blank. -/
def fill (explicit given : Option String) : Option String :=
  match explicit with
  | some v => some v
  | none => given.filter fun v => trim v ≠ ""

/-- Appends the names that are not there yet. -/
def addModels (models names : List String) : List String :=
  names.foldl insertNew models

/-- The configuration filled from an environment. -/
def withEnvironment (c : Config) (env : Environment) : Config :=
  { c with
    apiBase := fill c.apiBase (env apiBaseVariable)
    token := fill c.token (env tokenVariable)
    passthrough := match env passthroughVariable with
      | some list => addModels c.passthrough (listItems list)
      | none => c.passthrough }

/-- The table of type tokens. -/
def typeTable (c : Config) : TypeTable := ⟨c.passthrough⟩

end Config

end SwaggerCmdlets
