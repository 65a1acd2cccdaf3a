import SwaggerCmdlets.Text.Capital

/-! # Actions — what a command does to its subject

    An operation's method decides the action, and the action decides the verb
    that the command's name starts with.  Methods are read without regard to
    ASCII case, and four of them are supported. -/

namespace SwaggerCmdlets

/-- What a command does to its subject. -/
inductive Action where
  | read
  | replace
  | create
  | delete
deriving DecidableEq, Repr

namespace Action

/-- The action of a method, if the method is supported. -/
def ofMethod? (method : String) : Option Action :=
  match Text.asciiUpper method with
  | "GET" => some read
  | "PUT" => some replace
  | "POST" => some create
  | "DELETE" => some delete
  | _ => none

/-- The method of a call that performs the action. -/
def method : Action → String
  | read => "GET"
  | replace => "PUT"
  | create => "POST"
  | delete => "DELETE"

/-- The verb of a command that performs the action. -/
def verb : Action → String
  | read => "Get"
  | replace => "Set"
  | create => "Add"
  | delete => "Remove"

/-- The action's own name. -/
def label : Action → String
  | read => "Read"
  | replace => "Replace"
  | create => "Create"
  | delete => "Delete"

/-- Every action is the action of its own method. -/
theorem ofMethod?_method (a : Action) : ofMethod? a.method = some a := by
  cases a <;> decide

end Action

end SwaggerCmdlets
