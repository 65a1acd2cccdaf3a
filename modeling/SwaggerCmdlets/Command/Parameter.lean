import SwaggerCmdlets.Insertion

/-! # Parameters — the named inputs of a command

    A parameter has a name and a type; the type is a type token or marks a
    switch, which is only present or absent.  Two names are reserved: `noun`
    carries the subject of a path, `body` the body of a request. -/

namespace SwaggerCmdlets

/-- The type of a parameter. -/
inductive ParameterType where
  | named (token : String)
  | switch
deriving DecidableEq, Repr

/-- The text that a type contributes to a parameter set's name. -/
def ParameterType.text : ParameterType → String
  | .named token => token
  | .switch => "SwitchParam"

/-- A named input of a command. -/
structure Parameter where
  name : String
  type : ParameterType
deriving DecidableEq, Repr

namespace Parameter

/-- The name that carries the subject. -/
def subjectName : String := "noun"

/-- The name that carries a request's body. -/
def bodyName : String := "body"

/-- The entry that carries the subject of a path. -/
def subject (noun : String) : Parameter := ⟨subjectName, .named noun⟩

/-- Whether the entry carries the subject, which is no input. -/
def isSubject (p : Parameter) : Bool := p.name == subjectName

/-- Whether the parameter is a request's body. -/
def isBody (p : Parameter) : Bool := p.name == bodyName

/-- Whether the parameter is a switch. -/
def isSwitch (p : Parameter) : Bool := p.type == .switch

/-- Appends a parameter unless its name is taken. -/
def addNew (ps : List Parameter) (p : Parameter) : List Parameter :=
  insertBy Parameter.name ps p

end Parameter

end SwaggerCmdlets
