import SwaggerCmdlets.Description.Basic

/-! # Fields — the keys of a description

    Four keys are known, one of them under two names; all others are not
    needed.  A description may also be a row of values in the order of the
    fields, of which the last two may be missing. -/

namespace SwaggerCmdlets.Description

open Json

/-- A part of a description. -/
inductive Field where
  | version
  | basePath
  | models
  | apis
deriving DecidableEq, Repr

namespace Field

/-- The field of a key. -/
def ofKey? (key : String) : Option Field :=
  match key with
  | "swaggerVersion" | "schemaVersion" => some .version
  | "basePath" => some .basePath
  | "models" => some .models
  | "apis" => some .apis
  | _ => none

/-- The key of a field. -/
def key : Field → String
  | version => "swaggerVersion"
  | basePath => "basePath"
  | models => "models"
  | apis => "apis"

end Field

/-- A description that is being read, and the fields that it has. -/
structure Draft where
  given : List Field
  description : Description

/-- Nothing is read yet. -/
def Draft.empty : Draft := ⟨[], .empty⟩

end SwaggerCmdlets.Description
