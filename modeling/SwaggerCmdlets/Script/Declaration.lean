import SwaggerCmdlets.Script.Function

/-! # Declarations — types of the module

    A module declares a class for each model and an enumeration for each list of
    values, both as type definitions.  Each model also has a function that
    builds an instance of it from its properties. -/

namespace SwaggerCmdlets

open Text

/-- A class: its properties with their type tokens, in order. -/
structure Model where
  name : String
  properties : List (String × String)
deriving DecidableEq, Repr

/-- An enumeration: its values, in order. -/
structure Enumeration where
  name : String
  values : List String
deriving DecidableEq, Repr

/-- A type that the module declares. -/
inductive Declaration where
  | model (decl : Model)
  | enum (decl : Enumeration)
deriving DecidableEq, Repr

/-- The lines around a type definition. -/
def typeLines (inner : List String) : List String :=
  "Add-Type -Language CSharp @\"" :: inner ++ ["\"@"]

/-- The lines of a class. -/
def Model.lines (m : Model) : List String :=
  typeLines ([indent 1 ("public class " ++ m.name ++ "\x7b")]
    ++ m.properties.map (fun (name, type) => indent 2 ("public " ++ type ++ " " ++ name ++ ";"))
    ++ [indent 1 "\x7d"])

/-- The lines of values, with a comma after each but the last; no values leave
    an empty line. -/
def Enumeration.valueLines : List String → List String
  | [] => [""]
  | [v] => [v]
  | v :: vs => (v ++ ",") :: valueLines vs

/-- The lines of an enumeration. -/
def Enumeration.lines (e : Enumeration) : List String :=
  typeLines ([indent 1 ("public enum " ++ e.name), indent 1 "\x7b"]
    ++ (Enumeration.valueLines e.values).map (indent 2)
    ++ [indent 1 "\x7d"])

namespace Declaration

/-- The declared name. -/
def name : Declaration → String
  | model m => m.name
  | enum e => e.name

/-- The lines of a declaration. -/
def lines : Declaration → List String
  | model m => m.lines
  | enum e => e.lines

/-- The text of a declaration. -/
def text (d : Declaration) : String := unlines d.lines

/-- The class, if the declaration is one. -/
def model? : Declaration → Option Model
  | model m => some m
  | enum _ => none

end Declaration

/-- The function that builds an instance of a model. -/
def Model.newFunction (cmdletPrefix : String) (m : Model) : Function :=
  { name := "New-" ++ cmdletPrefix ++ m.name
    params := m.properties.map fun (name, type) => ⟨name, type, false, []⟩
    body := .construct m.name (m.properties.map (·.1)) }

end SwaggerCmdlets
