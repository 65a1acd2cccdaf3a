import SwaggerCmdlets.Url.Basic

/-! # Failures — why no module comes out

    A run either succeeds as a whole or stops at its first failure, and then
    nothing is written.  A failure has a message, and those with a cause also
    have the messages of the causes, the nearest one first. -/

namespace SwaggerCmdlets

/-- Why a document could not be fetched. -/
inductive FetchFailure where
  /-- The server was not reached. -/
  | request
  /-- The server refused. -/
  | status (code : Nat)
  /-- The file was not read. -/
  | io (reason : String)
  /-- Documents of the scheme cannot be fetched. -/
  | scheme (scheme : String)
deriving DecidableEq, Repr

/-- The message of a failed fetch. -/
def FetchFailure.message : FetchFailure → String
  | request => "HTTP request failed"
  | status code => "HTTP " ++ toString code
  | io _ => "failed to read document"
  | scheme name => "unsupported URI scheme: " ++ name

/-- What lies behind a failed fetch, as far as it is known. -/
def FetchFailure.causes : FetchFailure → List String
  | io reason => [reason]
  | _ => []

/-- Why a run stopped. -/
inductive Failure where
  /-- No document was named. -/
  | noUri
  /-- The document's name is no address. -/
  | invalidUri (uri : String) (fault : Url.Fault)
  /-- The document has another version than the supported one. -/
  | version (uri found : String)
  /-- The operation has a method that no action belongs to. -/
  | method (method path : String)
  /-- The document could not be fetched. -/
  | retrieval (uri : String) (failure : FetchFailure)
  /-- The document's text is no description. -/
  | malformed (uri reason : String)
  /-- The document refers back to itself. -/
  | cyclic (uri : String)
  /-- The module could not be written. -/
  | write (path reason : String)
  /-- The documents are nested more deeply than the source allows. -/
  | nesting (uri : String)
deriving DecidableEq, Repr

namespace Failure

/-- The message of a failure. -/
def message : Failure → String
  | noUri => "no document URI was supplied"
  | invalidUri uri _ => "invalid document URI: " ++ uri
  | version uri found =>
    "unsupported swagger version " ++ found ++ " in " ++ uri ++ " (only 1.2 is supported)"
  | method verb path => "unsupported method " ++ verb ++ " on " ++ path
  | retrieval uri _ => "could not retrieve " ++ uri
  | malformed uri reason => "malformed description document " ++ uri ++ ": " ++ reason
  | cyclic uri => "cyclic document reference back to " ++ uri
  | write path _ => "failed to write module to " ++ path
  | nesting uri => "documents nested too deeply at " ++ uri

/-- The messages of what lies behind a failure. -/
def causes : Failure → List String
  | invalidUri _ fault => [fault.message]
  | retrieval _ failure => failure.message :: failure.causes
  | write _ reason => [reason]
  | _ => []

end Failure

end SwaggerCmdlets
