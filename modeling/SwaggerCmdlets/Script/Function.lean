import SwaggerCmdlets.Script.Body

/-! # Functions — commands as script

    A function declares its parameters, each with its attributes on lines of
    their own, and runs its body when it begins. -/

namespace SwaggerCmdlets

open Text

/-- A declared parameter of a function. -/
structure ScriptParameter where
  name : String
  type : String
  mandatory : Bool
  sets : List String
deriving DecidableEq, Repr

namespace ScriptParameter

/-- The lines of a declaration: attributes, then type and name. -/
def lines (p : ScriptParameter) : List String :=
  (if p.mandatory then ["[Parameter(Mandatory=$true)]"] else [])
    ++ p.sets.map (fun set => "[Parameter(ParameterSetName='" ++ set ++ "')]")
    ++ ["[" ++ p.type ++ "]$" ++ p.name]

/-- The lines of several declarations, with a comma after each but the last. -/
def listLines : List ScriptParameter → List String
  | [] => []
  | [p] => p.lines
  | p :: ps => p.lines.dropLast ++ [p.lines.getLastD "" ++ ","] ++ listLines ps

end ScriptParameter

/-- A function of the module. -/
structure Function where
  name : String
  params : List ScriptParameter
  body : Body
deriving DecidableEq, Repr

namespace Function

/-- The lines of a function. -/
def lines (f : Function) : List String :=
  ["function " ++ f.name, "\x7b", indent 1 "param("]
    ++ (ScriptParameter.listLines f.params).map (indent 2)
    ++ [indent 1 ")", indent 1 "Begin", indent 1 "\x7b"]
    ++ f.body.lines.map (indent 2)
    ++ [indent 1 "\x7d", "\x7d"]

/-- The text of a function. -/
def text (f : Function) : String := unlines f.lines

end Function

end SwaggerCmdlets
