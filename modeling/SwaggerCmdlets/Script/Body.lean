import SwaggerCmdlets.Script.Call
import SwaggerCmdlets.Text.Lines

/-! # Bodies — what a function does

    A function makes one call, chooses between calls by the parameters that it
    was given, or builds an object.  A choice tests its branches in order and
    takes the first whose conditions all hold; the default comes last, and
    without branches it is simply made. -/

namespace SwaggerCmdlets

open Text

/-- A test of one parameter. -/
inductive Condition where
  /-- The parameter has a value. -/
  | notNull (name : String)
  /-- The switch is given. -/
  | present (name : String)
deriving DecidableEq, Repr

/-- The parameter that is tested. -/
def Condition.name : Condition → String
  | notNull name => name
  | present name => name

/-- The test as script. -/
def Condition.text : Condition → String
  | notNull name => "($($" ++ name ++ ") -ne $null)"
  | present name => "($" ++ name ++ ".IsPresent)"

/-- A call and the conditions under which it is made. -/
structure Branch where
  conditions : List Condition
  call : Call
deriving DecidableEq, Repr

/-- The conditions of a branch as script. -/
def Branch.test (b : Branch) : String :=
  joinWith " -and " (b.conditions.map Condition.text)

/-- A choice between calls. -/
structure Dispatch where
  branches : List Branch
  default : Option Call
deriving DecidableEq, Repr

namespace Dispatch

/-- The call that is made when exactly the named parameters are given. -/
def select (d : Dispatch) (given : String → Bool) : Option Call :=
  match d.branches.find? fun b => b.conditions.all (given ·.name) with
  | some b => some b.call
  | none => d.default

/-- The lines of a block that holds one call. -/
def block (call : Call) : List String :=
  ["\x7b", step ++ call.line, "\x7d"]

/-- The lines of the branches after the first. -/
def laterLines (branches : List Branch) : List String :=
  branches.flatMap fun b => ("elseif (" ++ b.test ++ ")") :: block b.call

/-- The lines of the choice. -/
def lines (d : Dispatch) : List String :=
  match d.branches with
  | [] => d.default.toList.map Call.line
  | first :: later =>
    ("if (" ++ first.test ++ ")") :: block first.call ++ laterLines later
      ++ (match d.default with
          | some call => "else" :: block call
          | none => [])

end Dispatch

/-- What a function does. -/
inductive Body where
  | call (call : Call)
  | dispatch (dispatch : Dispatch)
  | construct (typeName : String) (fields : List String)
deriving DecidableEq, Repr

/-- The lines of a body; the last one is what the function returns. -/
def Body.lines : Body → List String
  | .call c => [c.line, "$response"]
  | .dispatch d => d.lines ++ ["$response"]
  | .construct typeName fields =>
    ("$obj = New-Object " ++ typeName ++ ";")
      :: fields.map (fun f => "$obj." ++ f ++ " = $" ++ f ++ ";") ++ ["$obj"]

end SwaggerCmdlets
