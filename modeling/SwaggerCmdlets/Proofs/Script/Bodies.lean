import SwaggerCmdlets.Proofs.Description.Entries
import SwaggerCmdlets.Proofs.Path.EntryNames
import SwaggerCmdlets.Script.Call

/-! # Bodies — which calls send one

    A body is told by its name from the moment it is read: a call sends one if its
    descriptor has a parameter of the reserved name `body`.  An operation that declares
    a body has such a parameter.  So has one that declares another parameter under this
    name, and any operation on a path that has a typed placeholder `body` or makes a
    bare segment `body` a keyword.  There is no other way to it
    (`Call.sendsBody_iff`). -/

namespace SwaggerCmdlets

open Json
open Parameter (bodyName subjectName)
open PathTemplate (shape? segments stretches entriesOf Types Switches)

variable {v : Value} {vs : List Value} {ps : List Parameter} {op : Operation} {d : Descriptor}
  {shape : PathShape} {path : String}

/-- One of the parameters that the operation declares is a body. -/
def DeclaresBody (v : Value) : Prop := ∃ p ∈ v.itemsUnder "parameters", IsBodySpec p

/-- One of the parameters that the operation declares has the reserved name. -/
def DeclaresBodyName (v : Value) : Prop :=
  ∃ p ∈ v.itemsUnder "parameters", p.get? "name" = some (.string bodyName)

/-- Bodies and parameters that are called so are listed under the reserved name. -/
theorem Parameter.bodyName_mem_iff (h : ListedBy vs ps) :
    bodyName ∈ ps.map (·.name)
      ↔ ∃ v ∈ vs, IsBodySpec v ∨ v.get? "name" = some (.string bodyName) := by
  induction h with
  | nil => simp
  | left_out hv _ ih =>
      rw [List.exists_mem_cons_iff, ih]
      exact (or_iff_right fun hor => hor.elim hv.1 (hv.2 bodyName)).symm
  | declared hv _ ih =>
      rw [List.exists_mem_cons_iff, List.map_cons, List.mem_cons, ih]
      refine or_congr_left ?_
      cases hv with
      | body hbody => exact iff_of_true rfl (.inl hbody)
      | named hbody hname =>
          rw [or_iff_right hbody, hname, Option.some_inj, Value.string.injEq, eq_comm]

/-- An operation has a parameter of the reserved name if it declares a body or another
    parameter of this name. -/
theorem Operation.bodyName_mem_iff (h : DeclaredBy v op) :
    bodyName ∈ op.parameters.map (·.name) ↔ DeclaresBody v ∨ DeclaresBodyName v := by
  rw [Parameter.bodyName_mem_iff h.parameters, DeclaresBody, DeclaresBodyName]
  simp only [and_or_left, exists_or]

theorem Descriptor.sendsBody_iff_mem : d.sendsBody = true ↔ bodyName ∈ d.names :=
  Parameter.any_name_iff

/-- A descriptor has the names of its path's entries and those of its operation's
    parameters. -/
theorem Descriptor.mem_names_iff {n endpoint : String}
    (h : ofOperation? shape endpoint op = some d) :
    n ∈ d.names ↔ n ∈ shape.entries.map (·.name) ∨ n ∈ op.parameters.map (·.name) := by
  obtain ⟨action, -, rfl⟩ := Option.map_eq_some_iff.mp h
  exact Parameter.mem_names_foldl_addNew op.parameters shape.entries

theorem PathTemplate.entries_of_shape? (h : shape? path = some shape) :
    shape.entries = entriesOf (stretches (segments path)) := by
  rw [shape?_eq] at h
  obtain ⟨first, -, rfl⟩ := Option.map_eq_some_iff.mp h
  rfl

namespace Call

/-- An operation with a supported method, on a path with a subject, is called with a body
    exactly if it declares a body, or another parameter called `body`, or if its path makes
    a placeholder or a keyword of this name a parameter. -/
theorem sendsBody_iff (base endpoint : String) (hshape : shape? path = some shape) {method : String}
    (hmethod : v.get? "method" = some (.string method))
    (hsupported : (Action.ofMethod? method).isSome = true) :
    ∃ op d, Operation.ofValue? v = some op ∧ Descriptor.ofOperation? shape endpoint op = some d
      ∧ ((ofDescriptor base d).sendsBody = true ↔
        DeclaresBody v ∨ DeclaresBodyName v
          ∨ Types bodyName (stretches (segments path))
          ∨ Switches bodyName (stretches (segments path))) := by
  obtain ⟨action, haction⟩ := Option.isSome_iff_exists.mp hsupported
  obtain ⟨op, hop⟩ : ∃ op, Operation.ofValue? v = some op := by
    rw [← Option.ne_none_iff_exists', Ne, Operation.ofValue?_eq_none_iff]
    exact fun hnone => hnone method hmethod
  have hdeclared := Operation.ofValue?_eq_some_iff.mp hop
  obtain rfl : op.method = method := by
    have hsame := hdeclared.method.symm.trans hmethod
    exact Value.string.inj (Option.some.inj hsame)
  obtain ⟨d, hd⟩ : ∃ d, Descriptor.ofOperation? shape endpoint op = some d := by
    rw [Descriptor.ofOperation?, haction]
    exact ⟨_, rfl⟩
  refine ⟨op, d, hop, hd, ?_⟩
  have hnames : bodyName ≠ subjectName := by decide
  show d.sendsBody = true ↔ _
  rw [Descriptor.sendsBody_iff_mem, Descriptor.mem_names_iff hd,
    PathTemplate.entries_of_shape? hshape, PathTemplate.mem_names_entriesOf_iff hnames,
    Operation.bodyName_mem_iff hdeclared, or_comm, or_assoc]

/-- A body among other parameters, one of them no object, on a path with a placeholder. -/
theorem sendsBody_farmWidgets :
    let path := "/v1/farms/\x7bfarm\x7d/widgets"
    let payload : Value := .object
      [("name", .string "payload"), ("paramType", .string "body"), ("type", .string "Widget")]
    let v : Value := .object [("method", .string "post"),
      ("parameters", .array [.string "limit", .object [("name", .string "farm")], payload])]
    ∃ shape op d, shape? path = some shape ∧ Operation.ofValue? v = some op
      ∧ Descriptor.ofOperation? shape path op = some d ∧ DeclaresBody v
      ∧ (ofDescriptor "http://h" d).sendsBody = true := by
  intro path payload v
  let shape : PathShape := ⟨"widgets", [.subject "widgets", ⟨"farm", .named "farms"⟩]⟩
  have hshape : shape? path = some shape := by decide +kernel
  have hmethod : v.get? "method" = some (.string "post") := rfl
  have hdeclares : DeclaresBody v := by
    refine ⟨payload, ?_, rfl⟩
    show payload ∈ [.string "limit", .object [("name", .string "farm")], payload]
    simp
  obtain ⟨op, d, hop, hd, hbody⟩ :=
    sendsBody_iff "http://h" path hshape hmethod (by decide +kernel)
  exact ⟨shape, op, d, hshape, hop, hd, hdeclares, hbody.mpr (.inl hdeclares)⟩

/-- A parameter that is called so, a placeholder and a keyword: none of them is declared as
    a body, and each is sent as one. -/
theorem sendsBody_undeclared :
    let named : Value := .object [("method", .string "POST"), ("parameters",
      .array [.object [("name", .string "body"), ("type", .string "Widget")]])]
    let bare : Value := .object [("method", .string "GET")]
    ∀ input ∈ [("/widgets", named), ("/widgets/\x7bbody\x7d", bare), ("/widgets/body", bare)],
      ¬ DeclaresBody input.2
        ∧ ∃ shape op d, shape? input.1 = some shape ∧ Operation.ofValue? input.2 = some op
          ∧ Descriptor.ofOperation? shape input.1 op = some d
          ∧ (ofDescriptor "http://h" d).sendsBody = true := by
  intro named bare
  have hnamed : ¬ DeclaresBody named := by
    rintro ⟨p, hp, hbody⟩
    obtain rfl := List.mem_singleton.mp hp
    exact nomatch hbody
  have hbare : ¬ DeclaresBody bare := by
    rintro ⟨p, hp, -⟩
    exact nomatch hp
  have hsends : ∀ path v, ((shape? path).bind fun shape => (Operation.ofValue? v).bind fun op =>
      (Descriptor.ofOperation? shape path op).map (·.sendsBody)) = some true →
      ∃ shape op d, shape? path = some shape ∧ Operation.ofValue? v = some op
        ∧ Descriptor.ofOperation? shape path op = some d
        ∧ (ofDescriptor "http://h" d).sendsBody = true := by
    intro path v h
    obtain ⟨shape, hshape, h⟩ := Option.bind_eq_some_iff.mp h
    obtain ⟨op, hop, h⟩ := Option.bind_eq_some_iff.mp h
    obtain ⟨d, hd, hbody⟩ := Option.map_eq_some_iff.mp h
    exact ⟨shape, op, d, hshape, hop, hd, hbody⟩
  simp only [List.forall_mem_cons]
  refine ⟨⟨hnamed, hsends _ _ ?_⟩, ⟨hbare, hsends _ _ ?_⟩, ⟨hbare, hsends _ _ ?_⟩,
    List.forall_mem_nil _⟩
  · decide +kernel
  · decide +kernel
  · decide +kernel

end Call

end SwaggerCmdlets
