import SwaggerCmdlets.Description.Entry
import SwaggerCmdlets.Insertion
import SwaggerCmdlets.Json.Print
import SwaggerCmdlets.Script.Declaration

/-! # The registry — types declared so far

    Models and enumerations share their names, and the first declaration of a
    name stays.  A section of models is a row of declarations: for each model
    the enumerations that its properties carry, then the model itself.

    A property is typed by its token.  One that lists values is typed by an
    enumeration of them: named by the token, or by model and property where the
    token is that of a primitive type. -/

namespace SwaggerCmdlets

open Json

/-- The tokens that cannot name an enumeration. -/
def plainTokens : List String := ["string", "integer", "number", "boolean"]

/-- A listed value as the name of a case: strings as they are. -/
def caseName (v : Value) : String :=
  match v with
  | .string s => s
  | v => v.short

/-- A property as a model declares it: its type, and its enumeration if it
    lists values. -/
structure Property where
  name : String
  type : String
  enumeration : Option Enumeration
deriving DecidableEq, Repr

namespace Property

/-- The type of a property that lists values. -/
def enumType (model property token : String) : String :=
  if plainTokens.contains token then Text.capitalize model ++ Text.capitalize property
  else token

/-- A property of a model; one whose specification is no object is an object. -/
def ofSpec (model property : String) (spec : Value) : Property :=
  match spec with
  | .object ms =>
    let token := declaredType ms
    match (Members.get? ms "enum").bind Value.array? with
    | some values =>
      let type := enumType model property token
      ⟨property, type, some ⟨type, values.map caseName⟩⟩
    | none => ⟨property, token, none⟩
  | _ => ⟨property, "object", none⟩

end Property

/-- The properties of a model. -/
def propertiesOf (model : String) (v : Value) : List Property :=
  (((v.get? "properties").bind Value.object?).getD []).map fun (property, spec) =>
    Property.ofSpec model property spec

/-- What a model declares: its enumerations, and then itself. -/
def declarationsOfModel (model : String) (v : Value) : List Declaration :=
  let properties := propertiesOf model v
  properties.filterMap (fun p => p.enumeration.map .enum)
    ++ [.model ⟨model, properties.map fun p => (p.name, p.type)⟩]

/-- What a section of models declares. -/
def declarationsOf (models : Members) : List Declaration :=
  models.flatMap fun (model, v) => declarationsOfModel model v

/-- What a registry is given: a section of models, or a single type. -/
inductive Registration where
  | models (members : Members)
  | model (decl : Model)
  | enumeration (decl : Enumeration)
deriving Repr

/-- The types declared so far, in order. -/
structure Registry where
  declarations : List Declaration
deriving DecidableEq, Repr

namespace Registry

/-- Nothing is declared. -/
def empty : Registry := ⟨[]⟩

/-- Whether the name is declared. -/
def contains (r : Registry) (name : String) : Bool := r.declarations.any (·.name == name)

/-- Adds a declaration, unless its name is declared. -/
def register (r : Registry) (d : Declaration) : Registry :=
  ⟨insertBy Declaration.name r.declarations d⟩

/-- Adds a declaration, and tells whether its name was new. -/
def declare (r : Registry) (d : Declaration) : Registry × Bool :=
  (r.register d, !r.contains d.name)

/-- Adds declarations one after the other. -/
def registerAll (r : Registry) (ds : List Declaration) : Registry := ds.foldl register r

/-- Adds what a section of models declares. -/
def registerSection (r : Registry) (models : Members) : Registry :=
  r.registerAll (declarationsOf models)

/-- Takes up a registration.  One of a single declaration is answered with whether
    its name was new; a section of models is not answered. -/
def perform (r : Registry) : Registration → Registry × Option Bool
  | .models ms => (r.registerSection ms, none)
  | .model m => (r.declare (.model m)).map id some
  | .enumeration e => (r.declare (.enum e)).map id some

/-- Takes up registrations one after the other. -/
def performAll (r : Registry) (gs : List Registration) : Registry :=
  gs.foldl (fun r g => (r.perform g).1) r

/-- The names among declarations that are declared already when it is their
    turn. -/
def repeated (r : Registry) : List Declaration → List String
  | [] => []
  | d :: ds =>
    if r.contains d.name then d.name :: r.repeated ds else (r.register d).repeated ds

/-- The declared models, in order. -/
def models (r : Registry) : List Model := r.declarations.filterMap Declaration.model?

theorem mem_models {r : Registry} {m : Model} : m ∈ r.models ↔ .model m ∈ r.declarations := by
  rw [models, List.mem_filterMap]
  constructor
  · rintro ⟨d, hd, hm⟩
    cases d with
    | model c =>
        obtain rfl := Option.some.inj hm
        exact hd
    | enum e => exact nomatch hm
  · intro h
    exact ⟨.model m, h, rfl⟩

theorem registerAll_nil (r : Registry) : r.registerAll [] = r := rfl

theorem registerAll_cons (r : Registry) (d : Declaration) (ds : List Declaration) :
    r.registerAll (d :: ds) = (r.register d).registerAll ds := rfl

theorem registerAll_append (r : Registry) (ds es : List Declaration) :
    r.registerAll (ds ++ es) = (r.registerAll ds).registerAll es :=
  List.foldl_append

theorem register_of_contains {r : Registry} {d : Declaration} (h : r.contains d.name = true) :
    r.register d = r :=
  congrArg Registry.mk (if_pos h)

end Registry

end SwaggerCmdlets
