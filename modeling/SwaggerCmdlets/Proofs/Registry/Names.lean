import SwaggerCmdlets.Proofs.Insertion
import SwaggerCmdlets.Proofs.Walk.Covering

/-! # Registry names — what a registry declares

    A registry takes up a declaration only if its name is new, so that its names
    are those that it was given, without repeats (`names_registerAll`).  All that
    a run declares goes through the registry of its session, and so no two
    declarations of a session have one name (`gather_nodup_names`). -/

namespace SwaggerCmdlets

namespace Registry

variable {r : Registry}

/-- The declared names, in order. -/
def names (r : Registry) : List String := r.declarations.map Declaration.name

theorem contains_iff {n : String} : r.contains n = true ↔ n ∈ r.names := any_key_iff _

/-- Of the declarations with one name a registry keeps the first. -/
theorem declarations_registerAll (r : Registry) (ds : List Declaration) :
    (r.registerAll ds).declarations = ds.foldl (insertBy Declaration.name) r.declarations := by
  induction ds generalizing r with
  | nil => rfl
  | cons d ds ih => rw [registerAll_cons, ih, register, List.foldl_cons]

/-- Registering adds names, unless they are declared. -/
theorem names_registerAll (r : Registry) (ds : List Declaration) :
    (r.registerAll ds).names = (ds.map Declaration.name).foldl insertNew r.names := by
  rw [names, declarations_registerAll]
  exact map_foldl_insertBy _ ds r.declarations

/-- Registering repeats no name. -/
theorem nodup_names_registerAll (h : r.names.Nodup) (ds : List Declaration) :
    (r.registerAll ds).names.Nodup := by
  rw [names_registerAll]
  exact nodup_foldl_insertNew h (ds.map Declaration.name)

/-- The names of the models stand among the declared names, in order. -/
theorem names_models_sublist (r : Registry) :
    (r.models.map (·.name)).Sublist r.names := by
  obtain ⟨ds⟩ := r
  show ((ds.filterMap Declaration.model?).map (·.name)).Sublist (ds.map Declaration.name)
  induction ds with
  | nil => exact .slnil
  | cons d ds ih =>
      cases d with
      | model m => exact ih.cons_cons m.name
      | enum e => exact ih.cons e.name

end Registry

/-- No two declarations of a session that a run has gathered have one name. -/
theorem gather_nodup_names {g : Setup} {document : String} {s : Session}
    (h : (g.gather document).result = .ok s) : s.registry.names.Nodup := by
  obtain ⟨root, s', -, hvisit, rfl⟩ := gather_eq_ok_iff.mp h
  obtain ⟨o, -, hcov, -⟩ := visit_root_covers hvisit
  -- the registry is what the steps of the walk declare, one after the other
  have hsteps : ∀ (steps : List Outline.Step) (r : Registry), r.names.Nodup →
      (steps.foldl Outline.Step.declare r).names.Nodup := by
    intro steps
    induction steps with
    | nil => exact fun r hr => hr
    | cons step steps ih =>
        intro r hr
        cases step with
        | document u d => exact ih _ (Registry.nodup_names_registerAll hr _)
        | endpoint _ _ _ => exact ih r hr
  show s'.registry.names.Nodup
  rw [hcov.registry]
  exact hsteps _ .empty List.nodup_nil

end SwaggerCmdlets
