import Mathlib.Data.List.Induction
import SwaggerCmdlets.Proofs.Registry.Enumerations

/-! # Sections — what a section of models adds

    A registry takes up what has a new name, each name once and as it stands first
    (`declarations_registerAll_eq`).  Whatever it takes up, it takes up when exactly
    what stands before it is declared (`registerAll_split`).

    A section hands over its models one after the other, and before each of them the
    enumerations of its properties (`declarationsOf_cons`).  So a model that is added
    stands after the types of its properties that list values
    (`registerSection_declares_first`).  But the enumerations do not wait for what
    becomes of the model: where its name is declared already, and the model is left
    out, those of them that have new names are added all the same
    (`registerSection_of_declared`, `registerSection_adds_for_declared`). -/

namespace SwaggerCmdlets

open Json

variable {ms : Members} {m : Model} {d : Declaration} {before after : List Declaration}

/-- The enumerations of a model's properties, in order. -/
def enumerationsOfModel (model : String) (v : Value) : List Enumeration :=
  (specsOf v).filterMap fun spec =>
    (listed? spec.2).map (.ofValues (Property.ofSpec model spec.1 spec.2).type)

/-- The enumerations of a section of models, in order. -/
def enumerationsOf (ms : Members) : List Enumeration :=
  ms.flatMap fun entry => enumerationsOfModel entry.1 entry.2

/-! ## What a section hands over -/

/-- A model hands over its enumerations, and then itself. -/
theorem declarationsOfModel_eq (model : String) (v : Value) :
    declarationsOfModel model v
      = (enumerationsOfModel model v).map .enum ++ [.model (.ofValue model v)] := by
  have hproperties : propertiesOf model v
      = (specsOf v).map fun spec => Property.ofSpec model spec.1 spec.2 := rfl
  rw [declarationsOfModel, enumerationsOfModel, hproperties, List.filterMap_map,
    List.map_filterMap]
  refine congrArg (· ++ _) (List.filterMap_congr fun spec _ => ?_)
  rw [Function.comp_apply, Property.enumeration_ofSpec]

theorem declarationsOf_cons (model : String) (v : Value) (ms : Members) :
    declarationsOf ((model, v) :: ms)
      = (enumerationsOfModel model v).map .enum
        ++ .model (.ofValue model v) :: declarationsOf ms := by
  show declarationsOfModel model v ++ declarationsOf ms = _
  rw [declarationsOfModel_eq, List.append_assoc]
  rfl

theorem enumerationsOf_cons (model : String) (v : Value) (ms : Members) :
    enumerationsOf ((model, v) :: ms) = enumerationsOfModel model v ++ enumerationsOf ms := rfl

/-- What is not in the first of two lists stands in the second one. -/
theorem append_split_of_not_mem {α : Type} {xs ys front rest : List α} {x : α} (hx : x ∉ xs)
    (h : xs ++ ys = front ++ x :: rest) : ∃ mid, front = xs ++ mid ∧ ys = mid ++ x :: rest := by
  rcases List.append_eq_append_iff.mp h with ⟨mid, hfront, hys⟩ | ⟨other, hxs, hrest⟩
  · exact ⟨mid, hfront, hys⟩
  · cases other with
    | nil => exact ⟨[], by rw [hxs, List.append_nil, List.append_nil], hrest.symm⟩
    | cons y other =>
        obtain ⟨rfl, -⟩ := List.cons_eq_cons.mp hrest
        exact absurd (hxs ▸ List.mem_append_right _ List.mem_cons_self) hx

/-- A class among what a section hands over is that of one of its models.  Before it
    stand what the models before that one hand over, and its own enumerations. -/
theorem declarationsOf_split (h : declarationsOf ms = before ++ .model m :: after) :
    ∃ front model v rest, ms = front ++ (model, v) :: rest ∧ m = .ofValue model v
      ∧ before = declarationsOf front ++ (enumerationsOfModel model v).map .enum := by
  induction ms generalizing before with
  | nil => exact absurd h.symm (List.append_ne_nil_of_right_ne_nil _ (List.cons_ne_nil _ _))
  | cons entry ms ih =>
      obtain ⟨model, v⟩ := entry
      rw [declarationsOf_cons] at h
      have hnot : Declaration.model m ∉ (enumerationsOfModel model v).map .enum := by simp
      obtain ⟨mid, rfl, hrest⟩ := append_split_of_not_mem hnot h
      cases mid with
      | nil =>
          obtain ⟨hm, -⟩ := List.cons_eq_cons.mp hrest
          refine ⟨[], model, v, ms, rfl, (Declaration.model.inj hm).symm, ?_⟩
          rw [List.append_nil]
          rfl
      | cons first mid =>
          obtain ⟨rfl, htail⟩ := List.cons_eq_cons.mp hrest
          obtain ⟨front, model', v', rest, rfl, hm, rfl⟩ := ih htail
          refine ⟨(model, v) :: front, model', v', rest, rfl, hm, ?_⟩
          rw [declarationsOf_cons, List.append_assoc]
          rfl

namespace Registry

variable {r : Registry}

/-- Of declarations those with new names, each name once and as it stands first. -/
def additions (r : Registry) (ds : List Declaration) : List Declaration :=
  (ds.filter fun d => !r.contains d.name).eraseDupsBy fun d e => d.name == e.name

/-! ## What is added -/

theorem contains_register_of_new (h : ¬ r.contains d.name = true) (n : String) :
    (r.register d).contains n = (r.contains n || d.name == n) := by
  rw [contains, declarations_register_of_new h, List.any_append, List.any_cons, List.any_nil,
    Bool.or_false]
  rfl

theorem additions_cons_of_contains (h : r.contains d.name = true) (ds : List Declaration) :
    r.additions (d :: ds) = r.additions ds := by
  rw [additions, List.filter_cons_of_neg (by simp [h]), additions]

theorem additions_cons_of_new (h : ¬ r.contains d.name = true) (ds : List Declaration) :
    r.additions (d :: ds) = d :: (r.register d).additions ds := by
  rw [additions, List.filter_cons_of_pos (by simp [h]), List.eraseDupsBy_cons,
    List.filter_filter, additions]
  refine congrArg (fun es : List Declaration => d :: es.eraseDupsBy _) ?_
  -- what comes after `d` has a new name if it has neither a declared one nor that of `d`
  refine List.filter_congr fun e _ => ?_
  rw [contains_register_of_new h, Bool.not_or, Bool.and_comm, Bool.decide_eq_false,
    BEq.comm (a := d.name)]

/-- Registering appends what has a new name. -/
theorem declarations_registerAll_eq (r : Registry) (ds : List Declaration) :
    (r.registerAll ds).declarations = r.declarations ++ r.additions ds := by
  induction ds generalizing r with
  | nil => exact (List.append_nil _).symm
  | cons d ds ih =>
      rw [registerAll_cons, ih]
      by_cases h : r.contains d.name = true
      · rw [register_of_contains h, additions_cons_of_contains h]
      · rw [declarations_register_of_new h, additions_cons_of_new h, List.append_assoc]
        rfl

/-- Whatever is added is added when exactly what stands before it is declared, and its
    name is not. -/
theorem registerAll_split {ds : List Declaration}
    (h : (r.registerAll ds).declarations = r.declarations ++ before ++ d :: after) :
    ∃ front rest, ds = front ++ d :: rest
      ∧ (r.registerAll front).declarations = r.declarations ++ before
      ∧ ¬ (r.registerAll front).contains d.name = true := by
  induction ds using List.reverseRecOn generalizing after with
  | nil =>
      have hlength := congrArg List.length h
      simp [registerAll_nil] at hlength
  | append_singleton ds e ih =>
      have hlast : r.registerAll (ds ++ [e]) = (r.registerAll ds).register e :=
        registerAll_append r ds [e]
      rw [hlast] at h
      by_cases hc : (r.registerAll ds).contains e.name = true
      · rw [register_of_contains hc] at h
        obtain ⟨front, rest, rfl, hfront⟩ := ih h
        exact ⟨front, rest ++ [e], by simp, hfront⟩
      · rw [declarations_register_of_new hc] at h
        rcases List.eq_nil_or_concat after with rfl | ⟨after, x, rfl⟩
        · obtain ⟨hds, he⟩ := List.append_inj' h rfl
          obtain ⟨rfl, -⟩ := List.cons_eq_cons.mp he
          exact ⟨ds, [], rfl, hds, hc⟩
        · rw [List.concat_eq_append, ← List.cons_append, ← List.append_assoc] at h
          obtain ⟨front, rest, rfl, hfront⟩ := ih (List.append_inj' h rfl).1
          exact ⟨front, rest ++ [e], by simp, hfront⟩

/-! ## Models that come after what they use -/

/-- A model of the section can come after what is declared: its name is new, and each of
    its properties that lists values is typed by what is declared. -/
structure ComesAfter (declared : List Declaration) (ms : Members) (m : Model) : Prop where
  new : ∀ d ∈ declared, d.name ≠ m.name
  typed : ∃ v, Members.get? ms m.name = some v
    ∧ List.Forall₂
      (fun spec property => property.1 = spec.1
        ∧ ((listed? spec.2).isSome = true → ∃ d ∈ declared, d.name = property.2))
      (specsOf v) m.properties

/-- The first model of a name is the one that a section has under the name. -/
theorem get?_append_cons {front rest : Members} {model : String} {v : Value}
    (h : ∀ entry ∈ front, entry.1 ≠ model) :
    Members.get? (front ++ (model, v) :: rest) model = some v := by
  have hfront : front.find? (·.1 == model) = none := by
    rw [List.find?_eq_none]
    intro entry hentry heq
    exact h entry hentry (eq_of_beq heq)
  rw [Members.get?, List.find?_append, hfront, Option.none_or, List.find?_cons, beq_self_eq_true]
  rfl

/-- A model whose name is new comes after what is declared if that has the names of the
    models before it in the section, and of its own enumerations. -/
theorem comesAfter_ofValue {front rest : Members} {model : String} {v : Value}
    {declared : List Declaration} (hnew : ∀ d ∈ declared, d.name ≠ model)
    (hfront : ∀ entry ∈ front, ∃ d ∈ declared, d.name = entry.1)
    (henums : ∀ e ∈ enumerationsOfModel model v, ∃ d ∈ declared, d.name = e.name) :
    ComesAfter declared (front ++ (model, v) :: rest) (.ofValue model v) where
  new := hnew
  typed := by
    refine ⟨v, get?_append_cons ?_, ?_⟩
    · intro entry hentry heq
      obtain ⟨d, hd, hname⟩ := hfront entry hentry
      exact hnew d hd (hname.trans heq)
    · rw [Model.properties_ofValue, List.forall₂_map_right_iff, List.forall₂_same]
      intro spec hspec
      refine ⟨rfl, fun hlisted => ?_⟩
      obtain ⟨values, hvalues⟩ := Option.isSome_iff_exists.mp hlisted
      exact henums (.ofValues _ values) (List.mem_filterMap.mpr ⟨spec, hspec, by rw [hvalues]; rfl⟩)

/-- A section of models only appends.  Every model that it appends comes after what its
    properties with listed values are typed by, declared before or by the section
    itself; and all names of its models are declared then. -/
theorem registerSection_declares_first (r : Registry) (ms : Members) :
    ∃ added, (r.registerSection ms).declarations = r.declarations ++ added
      ∧ (∀ before m after, added = before ++ .model m :: after →
        ComesAfter (r.declarations ++ before) ms m)
      ∧ ∀ entry ∈ ms, (r.registerSection ms).contains entry.1 = true := by
  obtain ⟨added, hadded⟩ := prefix_registerAll r (declarationsOf ms)
  refine ⟨added, hadded.symm, ?_, ?_⟩
  · rintro before m after rfl
    rw [← List.append_assoc] at hadded
    obtain ⟨given, rest, hsplit, hgiven, hnew⟩ := registerAll_split hadded.symm
    rw [← hgiven]
    -- all that was handed over before the model is declared, kept or not
    have hdeclared : ∀ d ∈ given, ∃ e ∈ (r.registerAll given).declarations, e.name = d.name := by
      intro d hd
      exact List.mem_map.mp (contains_iff.mp (contains_registerAll hd))
    obtain ⟨front, model, v, others, rfl, rfl, rfl⟩ := declarationsOf_split hsplit
    refine comesAfter_ofValue ?_ ?_ ?_
    · intro d hd hname
      exact hnew (contains_iff.mpr (List.mem_map.mpr ⟨d, hd, hname⟩))
    · intro entry hentry
      exact hdeclared _ (List.mem_append_left _ (model_mem_declarationsOf hentry))
    · intro e he
      exact hdeclared (.enum e) (List.mem_append_right _ (List.mem_map_of_mem he))
  · intro entry hentry
    exact contains_registerAll (model_mem_declarationsOf hentry)

/-! ## Models that are declared already -/

/-- Of models that are declared already, a section adds the enumerations. -/
theorem registerSection_eq (h : ∀ entry ∈ ms, r.contains entry.1 = true) :
    r.registerSection ms = r.registerAll ((enumerationsOf ms).map .enum) := by
  induction ms generalizing r with
  | nil => rfl
  | cons entry ms ih =>
      obtain ⟨model, v⟩ := entry
      obtain ⟨hmodel, hms⟩ := List.forall_mem_cons.mp h
      have hkeeps : ∀ n, r.contains n = true →
          (r.registerAll ((enumerationsOfModel model v).map .enum)).contains n = true :=
        fun n hn => contains_of_prefix (prefix_registerAll r _) hn
      have hdrop : (r.registerAll ((enumerationsOfModel model v).map .enum)).register
          (.model (.ofValue model v)) = r.registerAll ((enumerationsOfModel model v).map .enum) :=
        register_of_contains (hkeeps model hmodel)
      rw [registerSection, declarationsOf_cons, registerAll_append, registerAll_cons, hdrop,
        enumerationsOf_cons, List.map_append, registerAll_append]
      exact ih fun entry hentry => hkeeps entry.1 (hms entry hentry)

/-- A section all of whose models are declared already adds those of their enumerations
    that have new names, each name once and as it stands first; it changes nothing if
    none of them has a new name. -/
theorem registerSection_of_declared (h : ∀ entry ∈ ms, r.contains entry.1 = true) :
    (r.registerSection ms).declarations
        = r.declarations ++ r.additions ((enumerationsOf ms).map .enum)
      ∧ (r.registerSection ms = r ↔ ∀ e ∈ enumerationsOf ms, r.contains e.name = true) := by
  rw [registerSection_eq h]
  refine ⟨declarations_registerAll_eq r _, ?_, ?_⟩
  · intro heq e he
    have hdeclared := contains_registerAll (r := r) (List.mem_map_of_mem (f := Declaration.enum) he)
    rw [heq] at hdeclared
    exact hdeclared
  · intro hall
    refine registerAll_of_contains fun d hd => ?_
    obtain ⟨e, he, rfl⟩ := List.mem_map.mp hd
    exact hall e he

/-- The model of a second section is declared already.  Of its enumerations one is too,
    and the other one is added. -/
theorem registerSection_of_declared_widget :
    let listing (value : String) : Value :=
      .object [("type", .string "string"), ("enum", .array [.string value])]
    let r := empty.registerSection
      [("Widget", .object [("properties", .object [("status", listing "active")])])]
    let ms : Members := [("Widget", .object
      [("properties", .object [("status", listing "retired"), ("kind", listing "small")])])]
    (∀ entry ∈ ms, r.contains entry.1 = true)
      ∧ (r.registerSection ms).declarations
        = r.declarations ++ [.enum ⟨"WidgetKind", ["small"]⟩] := by
  intro listing r ms
  have h : ∀ entry ∈ ms, r.contains entry.1 = true := by decide +kernel
  refine ⟨h, (registerSection_of_declared h).1.trans ?_⟩
  decide +kernel

/-- The only model of a section is declared already, and yet the section adds the
    enumeration of a property that the declared model does not have. -/
theorem registerSection_adds_for_declared :
    let status : Value := .object [("type", .string "string"), ("enum", .array [.string "active"])]
    let ms : Members := [("Widget", .object [("properties", .object [("status", status)])])]
    let r := empty.registerSection [("Widget", .object [])]
    (∀ entry ∈ ms, r.contains entry.1 = true)
      ∧ (r.registerSection ms).declarations ≠ r.declarations
      ∧ (r.registerSection ms).declarations
        = [.model ⟨"Widget", []⟩, .enum ⟨"WidgetStatus", ["active"]⟩] := by
  decide +kernel

end Registry

end SwaggerCmdlets
