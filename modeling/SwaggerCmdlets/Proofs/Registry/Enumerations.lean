import Mathlib.Data.List.Forall2
import SwaggerCmdlets.Proofs.Registry.Registrations

/-! # Enumerations — the values that a property lists

    A section of models lays claim to names: each model with the enumerations of
    its properties and then with itself (`mem_declarationsOf`).  Of the claims to
    one name the registry keeps the first (`mem_registerSection`), whatever kind
    of type it is for.

    So a property that lists values always has the name of a declared type as its
    own, but these are its values only where the first claim to the name is for
    them (`registerSection_keeps_first`).  Two properties with one token, a model
    that is called like a model and its property together, and two pairs of a
    model and a property that are one word together do lose values
    (`registerSection_loses_values`). -/

namespace SwaggerCmdlets

open Json

variable {ms : Members} {model n : String} {v : Value} {m : Model} {d : Declaration}

/-- The values that the specification of a property lists. -/
def listed? (spec : Value) : Option (List Value) := (spec.get? "enum").bind Value.array?

/-- The specifications of a model's properties. -/
def specsOf (v : Value) : Members := ((v.get? "properties").bind Value.object?).getD []

/-- The enumeration of listed values. -/
def Enumeration.ofValues (name : String) (values : List Value) : Enumeration :=
  ⟨name, values.map caseName⟩

/-- The class that a model declares. -/
def Model.ofValue (model : String) (v : Value) : Model :=
  ⟨model, (propertiesOf model v).map fun p => (p.name, p.type)⟩

/-- What a section lays claim to first under a name. -/
def firstClaim? (ms : Members) (n : String) : Option Declaration :=
  (declarationsOf ms).find? (·.name == n)

/-! ## What a section lays claim to -/

theorem Property.name_ofSpec (model property : String) (spec : Value) :
    (ofSpec model property spec).name = property := by
  fun_cases ofSpec model property spec with
  | case1 => rfl
  | case2 => rfl
  | case3 => rfl

/-- A property has an enumeration, of its type's name, if it lists values. -/
theorem Property.enumeration_ofSpec (model property : String) (spec : Value) :
    (ofSpec model property spec).enumeration
      = (listed? spec).map (.ofValues (ofSpec model property spec).type) := by
  fun_cases ofSpec model property spec with
  | case1 members token values hvalues type =>
      have hlisted : listed? (.object members) = some values := hvalues
      rw [hlisted]
      rfl
  | case2 members token hnone =>
      have hlisted : listed? (.object members) = none := hnone
      rw [hlisted]
      rfl
  | case3 spec hspec =>
      -- only objects have members
      have hlisted : listed? spec = none := by
        cases spec with
        | object members => exact absurd rfl (hspec members)
        | _ => rfl
      rw [hlisted]
      rfl

/-- The properties of a model's class are those of the model, in order. -/
theorem Model.properties_ofValue (model : String) (v : Value) :
    (Model.ofValue model v).properties
      = (specsOf v).map fun spec => (spec.1, (Property.ofSpec model spec.1 spec.2).type) := by
  have hproperties : (Model.ofValue model v).properties = (specsOf v).map fun spec =>
      ((Property.ofSpec model spec.1 spec.2).name, (Property.ofSpec model spec.1 spec.2).type) :=
    List.map_map
  rw [hproperties]
  exact List.map_congr_left fun spec _ => by rw [Property.name_ofSpec]

/-- A model declares its class, and an enumeration for each of its properties that
    lists values. -/
theorem mem_declarationsOfModel :
    d ∈ declarationsOfModel model v ↔
      d = .model (.ofValue model v)
        ∨ ∃ spec ∈ specsOf v, ∃ values ∈ listed? spec.2,
          d = .enum (.ofValues (Property.ofSpec model spec.1 spec.2).type values) := by
  have hproperties : propertiesOf model v
    = (specsOf v).map fun spec => Property.ofSpec model spec.1 spec.2 := rfl
  rw [declarationsOfModel, List.mem_append, List.mem_singleton, or_comm]
  refine or_congr Iff.rfl ?_
  rw [hproperties, List.mem_filterMap]
  constructor
  · rintro ⟨p, hp, hd⟩
    obtain ⟨spec, hspec, rfl⟩ := List.mem_map.mp hp
    rw [Property.enumeration_ofSpec, Option.map_map] at hd
    obtain ⟨values, hvalues, rfl⟩ := Option.map_eq_some_iff.mp hd
    exact ⟨spec, hspec, values, hvalues, rfl⟩
  · rintro ⟨spec, hspec, values, hvalues, rfl⟩
    refine ⟨_, List.mem_map_of_mem hspec, ?_⟩
    rw [Property.enumeration_ofSpec, Option.mem_def.mp hvalues]
    rfl

/-- A model declares one class only. -/
theorem model_of_mem_declarationsOfModel (h : .model m ∈ declarationsOfModel model v) :
    m = .ofValue model v := by
  rcases mem_declarationsOfModel.mp h with hm | ⟨spec, -, values, -, hm⟩
  · exact Declaration.model.inj hm
  · exact nomatch hm

/-- A section lays claim to the names of its models, and to the types of their
    properties that list values. -/
theorem mem_declarationsOf :
    d ∈ declarationsOf ms ↔ ∃ model v, (model, v) ∈ ms
      ∧ (d = .model (.ofValue model v)
        ∨ ∃ spec ∈ specsOf v, ∃ values ∈ listed? spec.2,
          d = .enum (.ofValues (Property.ofSpec model spec.1 spec.2).type values)) := by
  rw [declarationsOf, List.mem_flatMap]
  constructor
  · rintro ⟨⟨model, v⟩, hmem, hd⟩
    exact ⟨model, v, hmem, mem_declarationsOfModel.mp hd⟩
  · rintro ⟨model, v, hmem, hd⟩
    exact ⟨(model, v), hmem, mem_declarationsOfModel.mpr hd⟩

/-- A section lays claim to the class of each of its models. -/
theorem model_mem_declarationsOf {entry : String × Value} (h : entry ∈ ms) :
    .model (.ofValue entry.1 entry.2) ∈ declarationsOf ms :=
  mem_declarationsOf.mpr ⟨entry.1, entry.2, h, Or.inl rfl⟩

theorem firstClaim?_cons (model : String) (v : Value) (ms : Members) (n : String) :
    firstClaim? ((model, v) :: ms) n
      = ((declarationsOfModel model v).find? (·.name == n)).or (firstClaim? ms n) :=
  List.find?_append

/-- Where the first claim to a name is for a class, it is that of the first model that
    is called so. -/
theorem get?_of_firstClaim? (h : firstClaim? ms n = some (.model m)) :
    ∃ v, Members.get? ms n = some v ∧ m = .ofValue n v := by
  induction ms with
  | nil => exact nomatch h
  | cons entry ms ih =>
      obtain ⟨model, v⟩ := entry
      rw [firstClaim?_cons] at h
      rw [Members.get?, List.find?_cons]
      cases hfind : (declarationsOfModel model v).find? (·.name == n) with
      | some d =>
          rw [hfind, Option.some_or] at h
          obtain rfl := Option.some.inj h
          obtain rfl := model_of_mem_declarationsOfModel (List.mem_of_find?_eq_some hfind)
          obtain rfl : model = n := key_of_find? hfind
          rw [beq_self_eq_true]
          exact ⟨v, rfl, rfl⟩
      | none =>
          rw [hfind, Option.none_or] at h
          -- the model would lay claim to the name with its class
          have hne : model ≠ n := by
            rintro rfl
            have hmem : Declaration.model (.ofValue model v) ∈ declarationsOfModel model v :=
              mem_declarationsOfModel.mpr (Or.inl rfl)
            exact List.find?_eq_none.mp hfind _ hmem (beq_self_eq_true model)
          rw [beq_false_of_ne hne]
          exact ih h

/-! ## What is kept of it -/

namespace Registry

/-- A registry that is given a section keeps the first claim to each name. -/
theorem mem_registerSection :
    d ∈ (empty.registerSection ms).declarations ↔ firstClaim? ms d.name = some d := by
  rw [registerSection, declarations_registerAll]
  exact mem_foldl_insertBy

/-- Every name that a section lays claim to is declared, as the first claim to it has it. -/
theorem exists_mem_registerSection (h : d ∈ declarationsOf ms) :
    ∃ first ∈ (empty.registerSection ms).declarations,
      first.name = d.name ∧ firstClaim? ms d.name = some first := by
  cases hfirst : firstClaim? ms d.name with
  | none => exact absurd (beq_self_eq_true d.name) (List.find?_eq_none.mp hfirst d h)
  | some first =>
      have hname : first.name = d.name := key_of_find? hfirst
      refine ⟨first, mem_registerSection.mpr ?_, hname, rfl⟩
      rw [hname, hfirst]

/-- What becomes of the values that a property of the type lists: the type is
    declared, as what the section lays claim to first under its name, and its values
    are those of the property if that claim is for them. -/
structure KeepsFirst (r : Registry) (ms : Members) (type : String) (values : List Value) :
    Prop where
  claimed : .enum (.ofValues type values) ∈ declarationsOf ms
  declared : ∃ d ∈ r.declarations, d.name = type ∧ firstClaim? ms type = some d
  kept_iff : .enum (.ofValues type values) ∈ r.declarations ↔
    firstClaim? ms type = some (.enum (.ofValues type values))

theorem keepsFirst_of_claimed {type : String} {values : List Value}
    (h : .enum (.ofValues type values) ∈ declarationsOf ms) :
    (empty.registerSection ms).KeepsFirst ms type values where
  claimed := h
  declared := exists_mem_registerSection h
  kept_iff := mem_registerSection

/-- Every class that a section of models leaves declared is that of the first model of
    its name, property by property, and for each property that lists values its type is
    declared as what the section lays claim to first under this name. -/
theorem registerSection_keeps_first (ms : Members) :
    let r := empty.registerSection ms
    r.names.Nodup ∧ ∀ m ∈ r.models, ∃ v, Members.get? ms m.name = some v
      ∧ List.Forall₂
        (fun spec property => property.1 = spec.1
          ∧ ∀ values ∈ listed? spec.2, r.KeepsFirst ms property.2 values)
        (specsOf v) m.properties := by
  intro r
  have hempty : Registry.empty.names.Nodup := List.nodup_nil
  refine ⟨nodup_names_registerAll hempty (declarationsOf ms), ?_⟩
  intro m hm
  have hfirst : firstClaim? ms m.name = some (.model m) :=
    mem_registerSection.mp (mem_models.mp hm)
  obtain ⟨v, hget, hvalue⟩ := get?_of_firstClaim? hfirst
  refine ⟨v, hget, ?_⟩
  have hproperties : m.properties = (specsOf v).map fun spec =>
      ((Property.ofSpec m.name spec.1 spec.2).name,
        (Property.ofSpec m.name spec.1 spec.2).type) := by
    rw [hvalue]
    exact List.map_map
  rw [hproperties, List.forall₂_map_right_iff, List.forall₂_same]
  intro spec hspec
  refine ⟨Property.name_ofSpec m.name spec.1 spec.2, ?_⟩
  intro values hvalues
  -- its own claim is among those of the section, first or not
  refine keepsFirst_of_claimed (mem_declarationsOf.mpr ⟨m.name, v, ?_, Or.inr ?_⟩)
  · obtain ⟨⟨model, w⟩, hfind, rfl⟩ := Option.map_eq_some_iff.mp hget
    obtain rfl : model = m.name := key_of_find? hfind
    exact List.mem_of_find?_eq_some hfind
  · exact ⟨spec, hspec, values, hvalues, rfl⟩

/-- The property of the model lists values, and its type is not declared as their
    enumeration. -/
def LosesValues (ms : Members) (model property : String) : Prop :=
  ∃ m ∈ (empty.registerSection ms).models, m.name = model
    ∧ ∃ v ∈ Members.get? ms model, ∃ spec ∈ specsOf v, spec.1 = property
      ∧ ∃ values ∈ listed? spec.2, ∃ q ∈ m.properties, q.1 = property
        ∧ .enum (.ofValues q.2 values) ∉ (empty.registerSection ms).declarations

instance (ms : Members) (model property : String) : Decidable (LosesValues ms model property) :=
  inferInstanceAs (Decidable (∃ _ ∈ _, _ ∧ _))

/-- Two properties may have one token, a model may have the name that is made for
    an enumeration, and such a name may be made for two properties. -/
theorem registerSection_loses_values :
    let listing (type : String) (value : String) : Value :=
      .object [("type", .string type), ("enum", .array [.string value])]
    let having (property : String) (spec : Value) : Value :=
      .object [("properties", .object [(property, spec)])]
    let oneToken : Members := [("Order", having "state" (listing "State" "open")),
      ("Invoice", having "state" (listing "State" "paid"))]
    let madeForModel : Members := [("WidgetStatus", .object []),
      ("Widget", having "status" (listing "string" "active"))]
    let madeTwice : Members := [("Order", having "lineStatus" (listing "string" "open")),
      ("OrderLine", having "status" (listing "string" "paid"))]
    LosesValues oneToken "Invoice" "state" ∧ LosesValues madeForModel "Widget" "status"
      ∧ LosesValues madeTwice "OrderLine" "status" := by
  decide +kernel

end Registry

end SwaggerCmdlets
