import SwaggerCmdlets.Description.Entry
import SwaggerCmdlets.Generate.Failure
import SwaggerCmdlets.Json.Print
import SwaggerCmdlets.Text.Pieces

/-! # Descriptions — what a document says

    A description states the version of its form, a base path for its endpoints,
    models and entries; each of them may be missing.  Only one version is
    supported, whether it is written as a text or as a number. -/

namespace SwaggerCmdlets

open Json

/-- A description. -/
structure Description where
  version : Option Value
  basePath : Option String
  models : Members
  apis : List Value
deriving Repr

namespace Description

/-- The description that says nothing. -/
def empty : Description := ⟨none, none, [], []⟩

/-- The supported version. -/
def knownVersion : String := "1.2"

/-- The version as text, if it is a text or a number. -/
def versionText (d : Description) : Option String :=
  match d.version with
  | some (.string s) => some s
  | some (.number n) => some n.text
  | _ => none

/-- Fails unless the version is the supported one. -/
def requireVersion (d : Description) (uri : String) : Except Failure Unit :=
  if d.versionText = some knownVersion then .ok ()
  else .error (.version uri (d.versionText.getD "<missing>"))

/-- What stands before each endpoint's path: the base path without slashes at
    its end. -/
def endpointPrefix (d : Description) : String :=
  String.ofList (Text.trimEndOf '/' (d.basePath.getD "").toList)

/-- The failure that an entry's fault means. -/
def entryFailure (uri : String) : EntryFault → Failure
  | .noPath => .malformed uri "api entry without a path"
  | .noMethod path => .method "<missing>" path

/-- The entries of a description. -/
def entries (d : Description) (uri : String) : Except Failure (List Entry) :=
  (Entry.listOf d.apis).mapError (entryFailure uri)

end Description

end SwaggerCmdlets
