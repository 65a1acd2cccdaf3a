import SwaggerCmdlets.Config
import SwaggerCmdlets.Description.Parse
import SwaggerCmdlets.Generate.Locate
import SwaggerCmdlets.Generate.Notice
import SwaggerCmdlets.Generate.Registry

/-! # Sessions — what a run has gathered

    All documents of a run share one session: the descriptors and declarations
    found so far, the documents that are being read (`active`, the innermost
    first) and those that are done with (`completed`).  Each request for a
    document is noted with the state in which it was made. -/

namespace SwaggerCmdlets

/-- A request for a document, and the state in which it was made. -/
structure Request where
  uri : String
  depth : Nat
  active : List String
  completed : List String
deriving DecidableEq, Repr

/-- What a run has gathered. -/
structure Session where
  descriptors : List Descriptor
  registry : Registry
  depth : Nat
  active : List String
  completed : List String
  base : Option String
  requests : List Request
  notices : List Notice
deriving DecidableEq, Repr

namespace Session

/-- Nothing is gathered. -/
def empty : Session := ⟨[], .empty, 0, [], [], none, [], []⟩

/-- Reports a notice. -/
def note (s : Session) (n : Notice) : Session := { s with notices := s.notices ++ [n] }

/-- The base address of generated calls. -/
def baseAddress (s : Session) : String := s.base.getD ""

/-- Chooses the base address, unless it is chosen: the user's, or else that of
    the first document. -/
def chooseBase (s : Session) (explicit : Option String) (u : Url) : Session :=
  match s.base, explicit with
  | some _, _ => s
  | none, some base => { s with base := some base }
  | none, none =>
    let s := { s with base := some u.origin }
    if u.isWeb then s else s.note (.localBase u.origin)

/-- Asks for a document. -/
def request (s : Session) (u : Url) : Session :=
  let s := (s.note (.resolving u.text s.depth)).note (.fetching u.text)
  { s with requests := s.requests ++ [⟨u.text, s.depth, s.active, s.completed⟩] }

/-- Declares the models of a document. -/
def register (s : Session) (models : Json.Members) : Session :=
  { s with
    registry := s.registry.registerSection models
    notices := s.notices
      ++ (s.registry.repeated (declarationsOf models)).map .alreadyDeclared }

/-- Starts with the entries of a document. -/
def start (s : Session) (uri : String) : Session := { s with active := uri :: s.active }

/-- Is done with the document that was started last. -/
def complete (s : Session) (uri : String) : Session :=
  { s with active := s.active.tail, completed := uri :: s.completed }

/-- Adds a descriptor. -/
def addDescriptor (s : Session) (d : Descriptor) : Session :=
  ({ s with descriptors := s.descriptors ++ [d] }).note (.classified d)

end Session

/-- A session, and why it ended if it did not succeed. -/
structure Outcome where
  session : Session
  failure : Option Failure
deriving DecidableEq, Repr

namespace Outcome

/-- Goes on with the session, unless it ended. -/
def andThen (o : Outcome) (next : Session → Outcome) : Outcome :=
  match o.failure with
  | none => next o.session
  | some _ => o

/-- Changes the session. -/
def mapSession (o : Outcome) (f : Session → Session) : Outcome := { o with session := f o.session }

end Outcome

end SwaggerCmdlets
