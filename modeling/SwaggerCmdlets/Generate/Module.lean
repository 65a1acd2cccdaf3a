import SwaggerCmdlets.Command.Tree
import SwaggerCmdlets.Generate.Walk
import SwaggerCmdlets.Script.ModuleText
import SwaggerCmdlets.Script.TypeUse

/-! # Modules — from a document's name to a module's text

    A module holds the declarations, a constructor for each model, and the
    commands, with type tokens normalized in the whole text.  It is written in
    one go, and only if everything before that has succeeded. -/

namespace SwaggerCmdlets

namespace Session

/-- The commands of a session, for inspection. -/
def commands (s : Session) (cmdletPrefix : String) : CommandTree :=
  CommandTree.ofDescriptors cmdletPrefix s.baseAddress s.descriptors

/-- The pieces of the module of a session. -/
def pieces (s : Session) (cmdletPrefix : String) : List Piece :=
  s.registry.declarations.map .declaration
    ++ s.registry.models.map (fun m => .function (m.newFunction cmdletPrefix))
    ++ (Group.functions cmdletPrefix s.baseAddress s.descriptors).map .function

/-- The text of the module of a session. -/
def script (s : Session) (c : Config) : String :=
  TypeUse.normalize c.typeTable (moduleText (s.pieces c.cmdletPrefix))

/-- What the rendering of a session reports. -/
def renderNotices (s : Session) (c : Config) : List Notice :=
  (Group.ofDescriptors s.descriptors).flatMap (Notice.ofGroup c.cmdletPrefix)

end Session

/-- What runs start from: the user's choices, the source of documents, and the
    directory that local paths are resolved against. -/
structure Setup where
  config : Config
  source : Source
  cwd : Option String

/-- The result of a run, with the session as far as it came. -/
structure Run (α : Type) where
  session : Session
  result : Except Failure α

namespace Setup

/-- Reads the named document and all that it refers to. -/
def gather (g : Setup) (document : String) : Run Session :=
  match Locate.root g.cwd document with
  | .error failure => ⟨.empty, .error failure⟩
  | .ok u =>
    let o := Walk.visit g.source g.config.apiBase g.source.nesting u .empty
    match o.failure with
    | some failure => ⟨o.session, .error failure⟩
    | none =>
      let s := o.session.note
        (.resolved o.session.descriptors.length o.session.registry.declarations.length)
      ⟨s, .ok s⟩

/-- The text of the module of the named document. -/
def compose (g : Setup) (document : String) : Run String :=
  let run := g.gather document
  match run.result with
  | .error failure => ⟨run.session, .error failure⟩
  | .ok s => ⟨{ s with notices := s.notices ++ s.renderNotices g.config }, .ok (s.script g.config)⟩

/-- What writes texts: nothing, or the reason why it could not. -/
abbrev Writer := String → String → Option String

/-- A run that writes, and what it has given to the writer. -/
structure Written where
  session : Session
  result : Except Failure Unit
  handed : List (String × String)

/-- Writes the module of the named document. -/
def writeModule (g : Setup) (document path : String) (write : Writer) : Written :=
  let run := g.compose document
  match run.result with
  | .error failure => ⟨run.session, .error failure, []⟩
  | .ok text =>
    match write path text with
    | some reason => ⟨run.session, .error (.write path reason), [(path, text)]⟩
    | none => ⟨run.session.note (.written path), .ok (), [(path, text)]⟩

end Setup

end SwaggerCmdlets
