import SwaggerCmdlets.Description.Field
import SwaggerCmdlets.Yaml.Reading

/-! # Loose text — descriptions in YAML

    In this form a description may be written without quotes and braces.  It is
    a mapping of its fields, a row of them, or nothing at all. -/

namespace SwaggerCmdlets.Description

open Json Yaml

/-- The lists and mappings that may be open inside a description. -/
def looseRoom : Nat := 127

/-- Reads the value of a field. -/
def looseField (doc : Document) (draft : Draft) (field : Field) (n : LinkedNode) :
    Reading Draft := do
  let given := field :: draft.given
  let d := draft.description
  match field with
  | .version => return ⟨given, { d with version := ← doc.readOptional (doc.readValue looseRoom) n }⟩
  | .basePath => return ⟨given, { d with basePath := ← doc.readOptional doc.readText n }⟩
  | .models => return ⟨given, { d with models := ← doc.readMembers looseRoom n }⟩
  | .apis => return ⟨given, { d with apis := ← doc.readItems looseRoom n }⟩

/-- Reads the fields of a mapping. -/
def looseFields (doc : Document) (draft : Draft) :
    List (LinkedNode × LinkedNode) → Reading Draft
  | [] => pure draft
  | (k, v) :: ns => do
    match Field.ofKey? (← doc.readText k) with
    | none => looseFields doc draft ns
    | some field =>
      if field ∈ draft.given then failure
      else looseFields doc (← looseField doc draft field v) ns

/-- Reads the fields of a row, of which two are needed. -/
def looseRow (doc : Document) (done : Nat) (draft : Draft) :
    List Field → List LinkedNode → Reading Draft
  | field :: fields, n :: ns => do
    looseRow doc (done + 1) (← looseField doc draft field n) fields ns
  | _, [] => if done < 2 then failure else pure draft
  | [], _ :: _ => failure

/-- Reads a description. -/
def looseDraft (doc : Document) : Reading Draft := do
  match doc.root with
  | .mapping _ pairs => looseFields doc .empty pairs
  | .list _ items => looseRow doc 0 .empty [.version, .basePath, .models, .apis] items
  | n => if Document.isBlank n then pure .empty else failure

/-- The description of a loose text, if it is one. -/
def ofYaml? (text : String) : Option Description := do
  match ← Node.ofText? text with
  | none => return .empty
  | some node =>
    let doc ← Document.ofNode? node
    let (draft, _) ← (looseDraft doc).run doc.aliasLimit
    return draft.description

end SwaggerCmdlets.Description
