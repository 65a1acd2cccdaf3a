import SwaggerCmdlets.Proofs.Registry.Enumerations

/-! # Property types — the key that types a property

    Two keys of a specification can name a type, `$ref` and `type`.  For a property
    one would take the reference where there is one (`referencedType`), but the
    registry reads properties as parameters are read: by `type` where there is such a
    key, whatever stands under it, and by `$ref` only where there is none
    (`TypedByKey`).

    So both ways agree on every property but those with a reference and a `type` that
    does not name the same type, and of these the reference is lost
    (`registerSection_types_properties`, `registerSection_ignores_reference`). -/

namespace SwaggerCmdlets

open Json

variable {spec : Value}

/-- The text under a key. -/
def textUnder? (spec : Value) (key : String) : Option String := (spec.get? key).bind Value.string?

/-- The type that the text under `$ref` names, and only without it that under `type`. -/
def referencedType (spec : Value) : String :=
  ((textUnder? spec "$ref").or (textUnder? spec "type")).getD "object"

/-- A specification types by the key `type`, and only without it by `$ref`.  Where
    there are a reference and the key, and the key is not for the same type, this is not
    the type that the reference names. -/
structure TypedByKey (spec : Value) (type : String) : Prop where
  by_key : ∀ t, spec.get? "type" = some t → type = t.string?.getD "object"
  by_reference : spec.get? "type" = none → type = (textUnder? spec "$ref").getD "object"
  agrees_iff : type = referencedType spec ↔
    ∀ reference, textUnder? spec "$ref" = some reference →
      ∀ t, spec.get? "type" = some t → t.string?.getD "object" = reference

/-- Without the key, the reference is the type. -/
theorem typedByKey_of_none (h : spec.get? "type" = none) :
    TypedByKey spec ((textUnder? spec "$ref").getD "object") where
  by_key := by
    intro t ht
    exact nomatch h.symm.trans ht
  by_reference := fun _ => rfl
  agrees_iff := by
    have htext : textUnder? spec "type" = none := by rw [textUnder?, h, Option.bind_none]
    rw [referencedType, htext, Option.or_none]
    refine ⟨fun _ reference _ t ht => ?_, fun _ => rfl⟩
    exact nomatch h.symm.trans ht

/-- With the key, the reference does not count. -/
theorem typedByKey_of_some {t : Value} (h : spec.get? "type" = some t) :
    TypedByKey spec (t.string?.getD "object") where
  by_key := by
    intro t' ht'
    rw [Option.some.inj (h.symm.trans ht')]
  by_reference := fun hnone => nomatch h.symm.trans hnone
  agrees_iff := by
    have htext : textUnder? spec "type" = t.string? := by rw [textUnder?, h, Option.bind_some]
    rw [referencedType, htext]
    cases textUnder? spec "$ref" with
    | none =>
        rw [Option.none_or]
        refine ⟨fun _ reference hreference => ?_, fun _ => rfl⟩
        exact nomatch hreference
    | some reference =>
        show t.string?.getD "object" = reference ↔ _
        constructor
        · intro heq reference' hreference t' ht'
          rw [← Option.some.inj hreference, ← Option.some.inj (h.symm.trans ht'), heq]
        · intro hall
          exact hall reference rfl t h

/-- Without listed values, a property is typed by its specification alone. -/
theorem Property.type_ofSpec (model property : String) (h : listed? spec = none) :
    (ofSpec model property spec).type
      = (((spec.get? "type").or (spec.get? "$ref")).bind Value.string?).getD "object" := by
  fun_cases ofSpec model property spec with
  | case1 members token values hvalues type =>
      have hlisted : listed? (.object members) = some values := hvalues
      exact absurd (hlisted.symm.trans h) (Option.some_ne_none values)
  | case2 members token hnone => rfl
  | case3 spec hspec =>
      -- only objects have members
      cases spec with
      | object members => exact absurd rfl (hspec members)
      | _ => rfl

theorem Property.typedByKey_ofSpec (model property : String) (h : listed? spec = none) :
    TypedByKey spec (ofSpec model property spec).type := by
  rw [type_ofSpec model property h]
  cases hkey : spec.get? "type" with
  | none =>
      rw [Option.none_or]
      exact typedByKey_of_none hkey
  | some t =>
      rw [Option.some_or, Option.bind_some]
      exact typedByKey_of_some hkey

namespace Registry

/-- A section of models leaves the name of each of them declared, as what it lays claim
    to first under the name.  Every class that it leaves declared has the properties of
    the first model of its name, in order, and those of them without listed values are
    typed by the key `type`, or without it by `$ref`. -/
theorem registerSection_types_properties (ms : Members) :
    let r := empty.registerSection ms
    (∀ entry ∈ ms, ∃ d ∈ r.declarations, d.name = entry.1 ∧ firstClaim? ms entry.1 = some d)
      ∧ ∀ m ∈ r.models, ∃ v, Members.get? ms m.name = some v
        ∧ List.Forall₂
          (fun spec property => property.1 = spec.1
            ∧ (listed? spec.2 = none → TypedByKey spec.2 property.2))
          (specsOf v) m.properties := by
  intro r
  constructor
  · intro entry hentry
    exact exists_mem_registerSection (model_mem_declarationsOf hentry)
  · intro m hm
    have hfirst : firstClaim? ms m.name = some (.model m) :=
      mem_registerSection.mp (mem_models.mp hm)
    obtain ⟨v, hget, hvalue⟩ := get?_of_firstClaim? hfirst
    refine ⟨v, hget, ?_⟩
    rw [hvalue, Model.properties_ofValue, List.forall₂_map_right_iff, List.forall₂_same]
    intro spec _
    exact ⟨rfl, Property.typedByKey_ofSpec _ _⟩

/-- One property has a reference only, and the specification of the other is no object. -/
theorem registerSection_types_properties_widget :
    let owner : Value := .object [("$ref", .string "Owner")]
    let ms : Members :=
      [("Widget", .object [("properties", .object [("owner", owner), ("size", .string "long")])])]
    let m : Model := ⟨"Widget", [("owner", "Owner"), ("size", "object")]⟩
    m ∈ (empty.registerSection ms).models
      ∧ TypedByKey owner "Owner" ∧ TypedByKey (.string "long") "object" := by
  intro owner ms m
  have hm : m ∈ (empty.registerSection ms).models := by decide +kernel
  refine ⟨hm, ?_⟩
  obtain ⟨v, hv, hall⟩ := (registerSection_types_properties ms).2 m hm
  obtain rfl := Option.some.inj hv
  cases hall with
  | cons howner hall =>
      cases hall with
      | cons hsize _ => exact ⟨howner.2 rfl, hsize.2 rfl⟩

/-- One property is a text by its `type` although it refers to a class, and another one,
    whose `type` is a list, is an object although it refers to a class. -/
theorem registerSection_ignores_reference :
    let owner : Value := .object [("type", .string "string"), ("$ref", .string "Owner")]
    let size : Value := .object [("type", .array [.string "string"]), ("$ref", .string "Size")]
    let ms : Members :=
      [("Widget", .object [("properties", .object [("owner", owner), ("size", size)])])]
    listed? owner = none ∧ listed? size = none
      ∧ referencedType owner = "Owner" ∧ referencedType size = "Size"
      ∧ (empty.registerSection ms).declarations
        = [.model ⟨"Widget", [("owner", "string"), ("size", "object")]⟩] := by
  decide +kernel

end Registry

end SwaggerCmdlets
