import SwaggerCmdlets.Command.Descriptor
import SwaggerCmdlets.Json.Value

/-! # Entries — the rows of a description

    An entry has a path.  Without operations it refers to another document;
    with them it is an endpoint.  Operations that are not given as a list count
    as none.  An operation has a method, and parameters of which those without
    a name are left out; a body needs no name. -/

namespace SwaggerCmdlets

open Json

/-- An entry of a description. -/
inductive Entry where
  | reference (path : String)
  | endpoint (path : String) (operations : List Operation)
deriving DecidableEq, Repr

/-- What is wrong with an entry. -/
inductive EntryFault where
  | noPath
  | noMethod (path : String)
deriving DecidableEq, Repr

/-- The token of a type: that of `type`, and only without it that of `$ref`. -/
def declaredType (spec : Members) : String :=
  (((spec.get? "type").or (spec.get? "$ref")).bind Value.string?).getD "object"

/-- A declared parameter. -/
def Parameter.ofValue? (v : Value) : Option Parameter :=
  v.object?.bind fun spec =>
    let isBody := (spec.get? "paramType").bind Value.string? == some "body"
    let name := if isBody then some bodyName else (spec.get? "name").bind Value.string?
    name.map fun name => ⟨name, .named (declaredType spec)⟩

/-- A declared operation. -/
def Operation.ofValue? (v : Value) : Option Operation :=
  ((v.get? "method").bind Value.string?).map fun method =>
    let declared := ((v.get? "parameters").bind Value.array?).getD []
    ⟨method, declared.filterMap Parameter.ofValue?⟩

/-- The operations of an endpoint. -/
def Operation.listOf? : List Value → Option (List Operation)
  | [] => some []
  | v :: vs =>
    match ofValue? v, listOf? vs with
    | some op, some ops => some (op :: ops)
    | _, _ => none

/-- A declared entry. -/
def Entry.ofValue (v : Value) : Except EntryFault Entry :=
  match v.object?.bind fun spec => (spec.get? "path").bind Value.string? with
  | none => .error .noPath
  | some path =>
    match v.get? "operations" with
    | none => .ok (.reference path)
    | some operations =>
      match Operation.listOf? (operations.array?.getD []) with
      | some ops => .ok (.endpoint path ops)
      | none => .error (.noMethod path)

/-- The entries of a row of values, up to the first fault. -/
def Entry.listOf : List Value → Except EntryFault (List Entry)
  | [] => .ok []
  | v :: vs =>
    match ofValue v with
    | .error fault => .error fault
    | .ok entry => (listOf vs).map (entry :: ·)

end SwaggerCmdlets
