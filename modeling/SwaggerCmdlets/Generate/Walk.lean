import SwaggerCmdlets.Generate.Session

/-! # The walk — reading a document and all that it refers to

    Documents are read depth first and in the order of their entries: a
    reference stands for everything that the document it leads to contributes,
    and only the first reference to a document contributes.  A document that is
    still being read may not be referred to.

    The walk ends because documents that are being read are all different; how
    many of them there can be is known of the source (`nesting`). -/

namespace SwaggerCmdlets

/-- Where documents come from. -/
structure Source where
  fetch : Url → Except FetchFailure String
  /-- More than the documents that can be read at one time. -/
  nesting : Nat

namespace Source

/-- A list of documents by address; all others are missing. -/
abbrev Listing := List (String × Except FetchFailure String)

/-- The document of an address in a list. -/
def Listing.get (docs : Listing) (uri : String) : Except FetchFailure String :=
  match docs.find? (·.1 == uri) with
  | some (_, answer) => answer
  | none => .error (.status 404)

/-- The source that a list of documents is. -/
def ofListing (docs : Listing) : Source := ⟨fun u => docs.get u.text, docs.length + 1⟩

/-- The description at an address. -/
def load (src : Source) (u : Url) : Except Failure Description :=
  match src.fetch u with
  | .error failure => .error (.retrieval u.text failure)
  | .ok text =>
    match Description.parse u.text text with
    | .error failure => .error failure
    | .ok d => (d.requireVersion u.text).map fun () => d

end Source

namespace Walk

/-- Adds the descriptors of operations, up to the first one with an unsupported
    method. -/
def addOperations (shape : PathShape) (endpoint : String) :
    List Operation → Session → Outcome
  | [], s => ⟨s, none⟩
  | op :: ops, s =>
    match Descriptor.ofOperation? shape endpoint op with
    | some d => addOperations shape endpoint ops (s.addDescriptor d)
    | none => ⟨s, some (.method op.method endpoint)⟩

/-- Adds the descriptors of an endpoint. -/
def addEndpoint (endpointPrefix path : String) (ops : List Operation) (s : Session) :
    Outcome :=
  match PathTemplate.shape? path with
  | none => ⟨s.note (.noSubject path), none⟩
  | some shape => addOperations shape (endpointPrefix ++ path) ops s

/-- Follows a reference, one level further down. -/
def descend (visit : Url → Session → Outcome) (u : Url) (reference : String) (s : Session) :
    Outcome :=
  (visit (Locate.child u reference) { s with depth := s.depth + 1 }).mapSession
    fun s => { s with depth := s.depth - 1 }

/-- Goes through the entries of a document. -/
def entries (visit : Url → Session → Outcome) (u : Url) (endpointPrefix : String) :
    List Entry → Session → Outcome
  | [], s => ⟨s, none⟩
  | .reference path :: es, s =>
    (descend visit u path s).andThen (entries visit u endpointPrefix es)
  | .endpoint path ops :: es, s =>
    (addEndpoint endpointPrefix path ops s).andThen (entries visit u endpointPrefix es)

/-- Goes through a description. -/
def description (visit : Url → Session → Outcome) (u : Url) (d : Description) (s : Session) :
    Outcome :=
  let s := (s.register d.models).start u.text
  match d.entries u.text with
  | .error failure => ⟨s, some failure⟩
  | .ok es => (entries visit u d.endpointPrefix es s).andThen fun s => ⟨s.complete u.text, none⟩

/-- Reads a document that is neither active nor completed. -/
def fresh (src : Source) (visit : Url → Session → Outcome) (explicit : Option String) (u : Url)
    (s : Session) : Outcome :=
  let s := (s.chooseBase explicit u).request u
  match src.load u with
  | .error failure => ⟨s, some failure⟩
  | .ok d => description visit u d s

/-- Reads a document, unless that is done. -/
def visit (src : Source) (explicit : Option String) : Nat → Url → Session → Outcome
  | 0, u, s => ⟨s, some (.nesting u.text)⟩
  | room + 1, u, s =>
    if u.text ∈ s.active then ⟨s, some (.cyclic u.text)⟩
    else if u.text ∈ s.completed then ⟨s.note (.alreadyResolved u.text), none⟩
    else fresh src (visit src explicit room) explicit u s

end Walk

end SwaggerCmdlets
