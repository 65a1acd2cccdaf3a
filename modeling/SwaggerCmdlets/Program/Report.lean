import SwaggerCmdlets.Command.Listing
import SwaggerCmdlets.Generate.Fetch
import SwaggerCmdlets.Generate.Module
import SwaggerCmdlets.Log.Filter
import SwaggerCmdlets.Program.Invocation

/-! # Reports — what the program answers

    A run of the program ends with a code, texts on two channels, and the files
    that it has written.  Everything that it needs to know of the world around
    it is given: variables, the working directory, files to read, and whether a
    file can be written. -/

namespace SwaggerCmdlets.Program

/-- The world around the program. -/
structure World where
  environment : Environment
  cwd : Option String
  readText : Files.Bytes → Except String String
  /-- Why a text cannot be written to a path, if it cannot. -/
  refuses : Setup.Writer

/-- What a run of the program answers. -/
structure Report where
  code : Nat
  output : List String
  errors : List String
  written : List (String × String)
  /-- The documents that were asked for. -/
  requests : List String
deriving DecidableEq, Repr

/-- The name and the number of the program. -/
def versionLine : String := "swagger-pwsh 0.1.0"

/-- The variable that the filter of notices is read from. -/
def logVariable : String := "SWAGGER_PWSH_LOG"

/-- A message and what lies behind it, on one line. -/
def chain (context : String) (messages : List String) : String :=
  Text.joinWith ": " (("error: " ++ context) :: messages)

/-- A failure behind its context, on one line. -/
def failureLine (context : String) (f : Failure) : String :=
  chain context (f.message :: f.causes)

/-- The answer to a command line that is not carried out. -/
def haltReport (halt : Halt) : Report :=
  match halt with
  | .usage => ⟨2, [], [], [], []⟩
  | .help => ⟨0, [], [], [], []⟩
  | .version => ⟨0, [versionLine], [], [], []⟩

/-- The answer of a run that failed. -/
def failed (shown : List String) (line : String) (requests : List Request) : Report :=
  ⟨1, [], shown ++ [line], [], requests.map (·.uri)⟩

/-- The parts of headers; the first text that is none is an error. -/
def readHeaders : List String → Except String (List (String × String))
  | [] => .ok []
  | h :: hs =>
    match Config.namedValue? h with
    | none => .error h
    | some pair => (readHeaders hs).map (pair :: ·)

/-- What runs start from. -/
def setup (w : World) (c : Config) : Setup :=
  ⟨c.withEnvironment w.environment, .ofFiles w.readText, w.cwd⟩

/-- Writes a module. -/
def generate (w : World) (g : Setup) (filter : Log.Filter) (document out : String) : Report :=
  let run := g.writeModule document out w.refuses
  let shown := filter.complaints ++ filter.lines run.session.notices
  match run.result with
  | .error f =>
    failed shown (failureLine ("generate module from " ++ document) f) run.session.requests
  | .ok () => ⟨0, [out], shown, run.handed, run.session.requests.map (·.uri)⟩

/-- Lists commands. -/
def list (g : Setup) (filter : Log.Filter) (document : String) (json : Bool) : Report :=
  let run := g.gather document
  let shown := filter.complaints ++ filter.lines run.session.notices
  match run.result with
  | .error f => failed shown (failureLine ("resolve " ++ document) f) run.session.requests
  | .ok s =>
    let tree := s.commands g.config.cmdletPrefix
    ⟨0, if json then [tree.toValue.long] else tree.listing, shown, [], s.requests.map (·.uri)⟩

/-- The choices of a command line. -/
def Invocation.config (i : Invocation) (headers : List (String × String)) : Config :=
  let cmdletPrefix := match i.task with
    | .generate _ cmdletPrefix _ => cmdletPrefix
    | .list _ cmdletPrefix _ => cmdletPrefix
  ⟨cmdletPrefix, i.passthrough, i.apiBase, none, headers⟩

/-- Carries out a command line. -/
def run (w : World) (args : List String) : Report :=
  match Invocation.ofArguments args with
  | .error halt => haltReport halt
  | .ok i =>
    let filter := Log.Filter.ofSetting (w.environment logVariable) i.verbose
    match readHeaders i.headers with
    | .error h =>
      failed filter.complaints (chain ("invalid header " ++ h ++ ", expected NAME:VALUE") []) []
    | .ok headers =>
      let g := setup w (i.config headers)
      match i.task with
      | .generate document _ out => generate w g filter document out
      | .list document _ json => list g filter document json

/-- Carries out a command line of the second program, which reports no
    notices. -/
def dump (w : World) (args : List String) : Report :=
  match Dump.ofArguments args with
  | .error halt => haltReport halt
  | .ok d =>
    let g := setup w (.ofPrefix d.cmdletPrefix)
    let run := g.gather d.document
    match run.result with
    | .error f => failed [] (failureLine ("resolve " ++ d.document) f) run.session.requests
    | .ok s =>
      let content := (s.commands g.config.cmdletPrefix).toValue.long
      let requests := s.requests
      match w.refuses d.out content with
      | some reason => failed [] (chain ("write " ++ d.out) [reason]) requests
      | none => ⟨0, [], [], [(d.out, content)], requests.map (·.uri)⟩

end SwaggerCmdlets.Program
