import SwaggerCmdlets.Program.Arguments

/-! # Invocations — what the program is asked to do

    The program writes a module or lists its commands.  Some options may stand
    before or after the name of the subcommand; what is given after it replaces
    what is given before it. -/

namespace SwaggerCmdlets.Program

/-- What is to be done. -/
inductive Task where
  | generate (document cmdletPrefix out : String)
  | list (document cmdletPrefix : String) (json : Bool)
deriving DecidableEq, Repr

/-- A task and how it is to be done. -/
structure Invocation where
  headers : List String
  passthrough : List String
  apiBase : Option String
  verbose : Bool
  task : Task
deriving DecidableEq, Repr

namespace Invocation

/-- The options that may stand anywhere. -/
def commonOptions : List OptionSpec :=
  [⟨"header", none, .many⟩, ⟨"passthrough-model", none, .many⟩, ⟨"api-url", none, .single⟩,
   ⟨"verbose", some 'v', .flag⟩]

/-- What may stand before the subcommand. -/
def rootSpec : CommandSpec := ⟨commonOptions, 0, ["generate", "list"], true⟩

/-- What may stand after `generate`. -/
def generateSpec : CommandSpec :=
  ⟨commonOptions ++ [⟨"prefix", none, .single⟩, ⟨"out", none, .path⟩], 1, [], false⟩

/-- What may stand after `list`. -/
def listSpec : CommandSpec :=
  ⟨commonOptions ++ [⟨"prefix", none, .single⟩, ⟨"json", none, .flag⟩], 1, [], false⟩

/-- The task that a subcommand and what is given to it stand for. -/
def task? (name : String) (g : Given) : Option Task :=
  if name = "generate" then
    match g.words, g.value? "prefix", g.value? "out" with
    | [document], some cmdletPrefix, some out => some (.generate document cmdletPrefix out)
    | _, _, _ => none
  else
    match g.words with
    | [document] => some (.list document ((g.value? "prefix").getD "") (g.has "json"))
    | _ => none

/-- The values after the subcommand, or those before it if there are none. -/
def later (before after : Given) (name : String) : List String :=
  if (after.all name).isEmpty then before.all name else after.all name

/-- Reads a command line. -/
def ofArguments (args : List String) : Except Halt Invocation := do
  match ← readArguments rootSpec .none args with
  | (_, none) => throw .usage
  | (before, some (name, rest)) =>
    let spec := if name = "generate" then generateSpec else listSpec
    let (after, _) ← readArguments spec .none rest
    match task? name after with
    | none => throw .usage
    | some task =>
      return {
        headers := later before after "header"
        passthrough := later before after "passthrough-model"
        apiBase := (later before after "api-url").head?
        verbose := before.has "verbose" || after.has "verbose"
        task }

end Invocation

/-- What the second program is asked to do: to write the command tree. -/
structure Dump where
  document : String
  cmdletPrefix : String
  out : String
deriving DecidableEq, Repr

/-- What the second program's command line may hold. -/
def Dump.spec : CommandSpec :=
  ⟨[⟨"document", none, .single⟩, ⟨"out", none, .single⟩, ⟨"prefix", none, .single⟩], 0, [], false⟩

/-- Reads the second program's command line. -/
def Dump.ofArguments (args : List String) : Except Halt Dump := do
  let (given, _) ← readArguments spec .none args
  match given.value? "document", given.value? "out" with
  | some document, some out => return ⟨document, (given.value? "prefix").getD "", out⟩
  | _, _ => throw .usage

end SwaggerCmdlets.Program
