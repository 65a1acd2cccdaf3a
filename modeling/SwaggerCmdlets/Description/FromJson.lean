import SwaggerCmdlets.Description.Field
import SwaggerCmdlets.Json.Reader

/-! # Strict text — descriptions read in one pass

    Each field is read as what it must be, so that a wrong type is found at its
    place, before anything that is wrong further on. -/

namespace SwaggerCmdlets.Description

open Json Text

/-- What is expected at the place of a description. -/
def expected : String := "struct ApiDocument"

/-- The containers that may be open inside a description. -/
def innerRoom : Nat := 126

/-- Reads the value of a field. -/
def readField (draft : Draft) (field : Field) (cs : List Char) : Read Draft :=
  let given := field :: draft.given
  let d := draft.description
  match field with
  | .version => (readOptional (readValue innerRoom) cs).map fun (v, rest) =>
    (⟨given, { d with version := v }⟩, rest)
  | .basePath => (readOptional readStringOnly cs).map fun (s, rest) =>
    (⟨given, { d with basePath := s }⟩, rest)
  | .models => (readObjectOnly innerRoom cs).map fun (ms, rest) =>
    (⟨given, { d with models := ms }⟩, rest)
  | .apis => (readListOnly innerRoom cs).map fun (vs, rest) =>
    (⟨given, { d with apis := vs }⟩, rest)

/-- Where a field that is given twice is noticed: after its key, and after the
    brace if the object ends there. -/
def afterKey (cs : List Char) : List Char :=
  match skipBlanks cs with
  | '\x7d' :: rest => rest
  | other => other

/-- Reads the fields of an object. -/
def readFields : Nat → Position → Draft → List Char → Read Draft
  | 0, _, _, cs => stopHere .endInObject cs
  | limit + 1, p, draft, cs =>
    match nextKey p cs with
    | .error s => .error s
    | .ok (.inr rest) => .ok (draft, rest)
    | .ok (.inl rest) =>
      match readString rest with
      | .error s => .error s
      | .ok (key, rest) =>
        match Field.ofKey? key with
        | none =>
          match (readColon rest).bind skipValue with
          | .error s => .error s
          | .ok rest => readFields limit .later draft rest
        | some field =>
          if field ∈ draft.given then stopHere (.duplicate field.key) (afterKey rest)
          else match (readColon rest).bind (readField draft field) with
            | .error s => .error s
            | .ok (draft, rest) => readFields limit .later draft rest

/-- What follows a row of all fields. -/
def readRowEnd (draft : Draft) (cs : List Char) : Read Draft :=
  match skipBlanks cs with
  | [] => stopHere .endInList []
  | ']' :: rest => .ok (draft, rest)
  | ',' :: rest =>
    match skipBlanks rest with
    | ']' :: after => stopNext .trailingComma (']' :: after)
    | other => stopNext .trailingText other
  | other => stopNext .trailingText other

/-- Reads the fields of a row: `done` of them are read, of which two are
    needed. -/
def readRow (done : Nat) (p : Position) (draft : Draft) (cs : List Char) :
    List Field → Read Draft
  | [] => readRowEnd draft cs
  | field :: fields =>
    match nextItem p cs with
    | .error s => .error s
    | .ok (.inr rest) =>
      if done < 2 then stopHere (.length done (expected ++ " with 4 elements")) rest
      else .ok (draft, rest)
    | .ok (.inl rest) =>
      match readField draft field rest with
      | .error s => .error s
      | .ok (draft, rest) => readRow (done + 1) .later draft rest fields

/-- Reads a description. -/
def readDraft (cs : List Char) : Read Draft :=
  match skipBlanks cs with
  | [] => stopHere .endInValue []
  | '\x7b' :: rest => readFields (rest.length + 1) .first .empty rest
  | '[' :: rest => readRow 0 .first .empty rest [.version, .basePath, .models, .apis]
  | other => wrongType expected other

/-- The description of a strict text. -/
def ofJson (text : String) : Except Stop Description :=
  match readDraft text.toList with
  | .error s => .error s
  | .ok (draft, rest) => (readEnd rest).map fun () => draft.description

end SwaggerCmdlets.Description
