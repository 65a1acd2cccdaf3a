import SwaggerCmdlets.Proofs.Registry.Names

/-! # Registrations — what a registry keeps

    A registration only appends (`prefix_perform`), and only what has a new name.
    What a section of models declares does not depend on the registry that it is
    given to.  All of it is therefore declared from then on
    (`contains_performAll`), and the section adds nothing when it comes again
    (`registerAll_of_contains`). -/

namespace SwaggerCmdlets

/-- The declarations that are registered, in order. -/
def Registration.declarations : Registration → List Declaration
  | .models ms => declarationsOf ms
  | .model m => [.model m]
  | .enumeration e => [.enum e]

/-- The declaration, if it is a single one that is registered. -/
def Registration.single? : Registration → Option Declaration
  | .models _ => none
  | .model m => some (.model m)
  | .enumeration e => some (.enum e)

namespace Registry

variable {r : Registry} {d : Declaration} {n : String}

/-! ## One declaration after the other -/

theorem declarations_register_of_new (h : ¬ r.contains d.name = true) :
    (r.register d).declarations = r.declarations ++ [d] :=
  insertBy_of_not_mem _ (contains_iff.not.mp h)

theorem prefix_register (r : Registry) (d : Declaration) :
    r.declarations <+: (r.register d).declarations := by
  by_cases h : r.contains d.name = true
  · exact ⟨[], by rw [register_of_contains h, List.append_nil]⟩
  · rw [declarations_register_of_new h]
    exact List.prefix_append _ _

theorem prefix_registerAll (r : Registry) (ds : List Declaration) :
    r.declarations <+: (r.registerAll ds).declarations := by
  induction ds generalizing r with
  | nil => exact List.prefix_refl _
  | cons d ds ih =>
      rw [registerAll_cons]
      exact (prefix_register r d).trans (ih (r.register d))

/-- What has been declared once stays declared. -/
theorem contains_of_prefix {r' : Registry} (h : r.declarations <+: r'.declarations)
    (hn : r.contains n = true) : r'.contains n = true := by
  rw [contains_iff] at hn ⊢
  exact (h.map Declaration.name).subset hn

/-- All that is registered is declared then. -/
theorem contains_registerAll {ds : List Declaration} (h : d ∈ ds) :
    (r.registerAll ds).contains d.name = true := by
  rw [contains_iff, names_registerAll, mem_foldl_insertNew]
  exact Or.inr (List.mem_map_of_mem h)

/-- What is declared already adds nothing. -/
theorem registerAll_of_contains {ds : List Declaration}
    (h : ∀ d ∈ ds, r.contains d.name = true) : r.registerAll ds = r := by
  induction ds with
  | nil => rfl
  | cons d ds ih =>
      obtain ⟨hd, hds⟩ := List.forall_mem_cons.mp h
      rw [registerAll_cons, register_of_contains hd]
      exact ih hds

/-- The answer to a declaration tells whether it was appended. -/
theorem declare_answer (r : Registry) (d : Declaration) :
    ((r.declare d).2 = true ↔ (r.declare d).1.declarations = r.declarations ++ [d])
      ∧ ((r.declare d).2 = false ↔ (r.declare d).1 = r) := by
  show ((!r.contains d.name) = true ↔ (r.register d).declarations = r.declarations ++ [d])
    ∧ ((!r.contains d.name) = false ↔ r.register d = r)
  have hlonger : r.declarations ≠ r.declarations ++ [d] := by simp
  by_cases h : r.contains d.name = true
  · rw [register_of_contains h, h]
    exact ⟨iff_of_false Bool.false_ne_true hlonger, iff_of_true rfl rfl⟩
  · -- what is appended makes the registry longer, and so another one
    have hdecl := declarations_register_of_new h
    rw [Bool.not_eq_true] at h
    have hne : r.register d ≠ r := by
      intro heq
      rw [heq] at hdecl
      exact hlonger hdecl
    rw [h]
    exact ⟨iff_of_true rfl hdecl, iff_of_false Bool.false_ne_true.symm hne⟩

/-! ## One registration after the other -/

variable {g : Registration} {gs : List Registration}

theorem perform_fst (r : Registry) (g : Registration) :
    (r.perform g).1 = r.registerAll g.declarations := by
  cases g with
  | models ms => rfl
  | model m => rfl
  | enumeration e => rfl

theorem performAll_append (r : Registry) (gs hs : List Registration) :
    r.performAll (gs ++ hs) = (r.performAll gs).performAll hs :=
  List.foldl_append

theorem performAll_cons (r : Registry) (g : Registration) (gs : List Registration) :
    r.performAll (g :: gs) = (r.perform g).1.performAll gs := rfl

/-- A registration only appends. -/
theorem prefix_perform (r : Registry) (g : Registration) :
    r.declarations <+: (r.perform g).1.declarations := by
  rw [perform_fst]
  exact prefix_registerAll r g.declarations

theorem prefix_performAll (r : Registry) (gs : List Registration) :
    r.declarations <+: (r.performAll gs).declarations := by
  induction gs generalizing r with
  | nil => exact List.prefix_refl _
  | cons g gs ih =>
      rw [performAll_cons]
      exact (prefix_perform r g).trans (ih (r.perform g).1)

/-- Registrations repeat no name. -/
theorem nodup_names_performAll (h : r.names.Nodup) (gs : List Registration) :
    (r.performAll gs).names.Nodup := by
  induction gs generalizing r with
  | nil => exact h
  | cons g gs ih =>
      rw [performAll_cons]
      refine ih ?_
      rw [perform_fst]
      exact nodup_names_registerAll h g.declarations

/-- All that has been registered is declared, whatever was registered after it. -/
theorem contains_performAll (hg : g ∈ gs) (hd : d ∈ g.declarations) :
    (r.performAll gs).contains d.name = true := by
  obtain ⟨before, after, rfl⟩ := List.append_of_mem hg
  rw [performAll_append, performAll_cons, perform_fst]
  exact contains_of_prefix (prefix_performAll _ after) (contains_registerAll hd)

/-- The answer to a registration of a single declaration. -/
theorem perform_answer (h : g.single? = some d) :
    ((r.perform g).2 = some true ↔ (r.perform g).1.declarations = r.declarations ++ [d])
      ∧ ((r.perform g).2 = some false ↔ (r.perform g).1 = r) := by
  have hperform : r.perform g = (r.declare d).map id some := by
    cases g with
    | models ms => exact nomatch h
    | model m =>
        obtain rfl : Declaration.model m = d := Option.some.inj h
        rfl
    | enumeration e =>
        obtain rfl : Declaration.enum e = d := Option.some.inj h
        rfl
  rw [hperform, Prod.map_fst, Prod.map_snd, Option.some_inj, Option.some_inj]
  exact declare_answer r d

/-- At every moment of a sequence of registrations that starts from nothing, no two
    declarations share a name, and the names are what the registry contains.  The
    next registration, whatever it is, only appends, and its names are declared then;
    one of a single declaration is answered with whether that was appended; and a
    section of models that has been registered before changes nothing. -/
theorem performAll_keeps (gs : List Registration) :
    let r := Registry.empty.performAll gs
    r.names.Nodup
      ∧ (∀ n, r.contains n = true ↔ ∃ d ∈ r.declarations, d.name = n)
      ∧ (∀ g, r.declarations <+: (r.perform g).1.declarations
        ∧ ∀ d ∈ g.declarations, (r.perform g).1.contains d.name = true)
      ∧ (∀ g d, g.single? = some d →
        ((r.perform g).2 = some true ↔ (r.perform g).1.declarations = r.declarations ++ [d])
          ∧ ((r.perform g).2 = some false ↔ (r.perform g).1 = r))
      ∧ ∀ ms, .models ms ∈ gs → (r.perform (.models ms)).1 = r := by
  intro r
  have hempty : Registry.empty.names.Nodup := List.nodup_nil
  refine ⟨nodup_names_performAll hempty gs, ?_, ?_, fun g d hg => perform_answer hg, ?_⟩
  · intro n
    rw [contains_iff, names, List.mem_map]
  · intro g
    refine ⟨prefix_perform r g, fun d hd => ?_⟩
    rw [perform_fst]
    exact contains_registerAll hd
  · intro ms hms
    rw [perform_fst]
    exact registerAll_of_contains fun d hd => contains_performAll hms hd

/-- The enumeration of a property takes the name of a model that is declared, and adds
    nothing. -/
example :
    let status : Json.Value := .object [("type", .string "string"), ("enum", .array [.string "on"])]
    let widget : Json.Value := .object [("properties", .object [("status", status)])]
    (Registry.empty.performAll [.model ⟨"WidgetStatus", []⟩, .models [("widget", widget)]]).names
      = ["WidgetStatus", "widget"] := by
  decide +kernel

end Registry

end SwaggerCmdlets
