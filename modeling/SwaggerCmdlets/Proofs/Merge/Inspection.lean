import SwaggerCmdlets.Command.Tree
import SwaggerCmdlets.Proofs.Merge.Partition
import SwaggerCmdlets.Proofs.Merge.Requirements
import SwaggerCmdlets.Proofs.Merge.Variables

/-! # Inspection — what a listing of commands shows

    The command tree and the functions of a module walk the same groups, but
    only the functions leave members out: where several members of a group need
    no optional parameter, the call of the last of them is the default and those
    of the others are not made (`IsDisplaced`).  All other members' calls are
    made (`function_calls_perm`), so that the tree lists what the functions call
    and the displaced members besides (`tree_agrees_with_functions`). -/

namespace SwaggerCmdlets

namespace Group

variable {base : String} {members after : List Descriptor} {d : Descriptor}

/-- A later member is the default in place of `d`: both have no optional names. -/
def IsDisplaced (members after : List Descriptor) (d : Descriptor) : Prop :=
  optionalNames members d = [] ∧ ∃ e ∈ after, optionalNames members e = []

instance (members after : List Descriptor) : DecidablePred (IsDisplaced members after) :=
  fun _ => inferInstanceAs (Decidable (_ ∧ _))

/-- The descriptors in a row of members that no later one displaces. -/
def undisplaced (members : List Descriptor) : List Descriptor → List Descriptor
  | [] => []
  | d :: after =>
      if IsDisplaced members after d then undisplaced members after
      else d :: undisplaced members after

theorem undisplaced_cons (members after : List Descriptor) (d : Descriptor) :
    undisplaced members (d :: after)
      = if IsDisplaced members after d then undisplaced members after
        else d :: undisplaced members after := rfl

/-- What is not displaced: the descriptors with optional names, and the last one
    without. -/
theorem undisplaced_perm (members ds : List Descriptor) :
    (undisplaced members ds).Perm (ds.filter (optionalNames members · ≠ [])
      ++ (ds.filter (optionalNames members · = [])).getLast?.toList) := by
  induction ds with
  | nil => exact .refl _
  | cons d after ih =>
      rw [undisplaced_cons]
      by_cases hplain : optionalNames members d = []
      · rw [List.filter_cons_of_neg (by simp [hplain]),
          List.filter_cons_of_pos (by simpa using hplain)]
        by_cases hlater : ∃ e ∈ after, optionalNames members e = []
        · -- the last plain descriptor is the last one behind `d`
          obtain ⟨e, he, hplain'⟩ := hlater
          have hne : after.filter (optionalNames members · = []) ≠ [] :=
            List.ne_nil_of_mem (List.mem_filter.mpr ⟨he, decide_eq_true hplain'⟩)
          have hdisplaced : IsDisplaced members after d := ⟨hplain, e, he, hplain'⟩
          rw [if_pos hdisplaced, List.getLast?_cons_of_ne_nil hne]
          exact ih
        · have hnone : after.filter (optionalNames members · = []) = [] := by
            rw [List.filter_eq_nil_iff]
            exact fun e he hplain' => hlater ⟨e, he, of_decide_eq_true hplain'⟩
          have hrest : (undisplaced members after).Perm
              (after.filter (optionalNames members · ≠ [])) := by
            rw [hnone, List.getLast?_nil, Option.toList_none, List.append_nil] at ih
            exact ih
          rw [hnone, if_neg fun h => hlater h.2]
          exact (hrest.cons d).trans (List.perm_append_singleton d _).symm
      · rw [List.filter_cons_of_pos (by simpa using hplain),
          List.filter_cons_of_neg (by simpa using hplain), if_neg fun h => hplain h.1]
        exact ih.cons d

/-- The calls of a choice are those of the members that are not displaced. -/
theorem dispatch_calls_perm (base : String) (members : List Descriptor) :
    (dispatch base (.ofMembers members) members).calls.Perm
      ((undisplaced members members).map (Call.ofDescriptor base)) := by
  have hcalls : (dispatch base (.ofMembers members) members).calls
      = (members.filter (optionalNames members · ≠ [])
          ++ (members.filter (optionalNames members · = [])).getLast?.toList).map
            (Call.ofDescriptor base) := by
    rw [Dispatch.calls, dispatch_branches, dispatch_default, List.map_map, List.map_append,
      Option.toList_map]
    rfl
  rw [hcalls]
  exact ((undisplaced_perm members members).map _).symm

/-- The calls of a command are those of its members that are not displaced. -/
theorem function_calls_perm (cmdletPrefix base : String) (g : Group) :
    (g.function cmdletPrefix base).body.calls.Perm
      ((undisplaced g.members g.members).map (Call.ofDescriptor base)) := by
  obtain ⟨action, subject, members⟩ := g
  match members with
  | [] => exact dispatch_calls_perm base []
  | [d] =>
      -- nothing stands behind the only member
      have hall : undisplaced [d] [d] = [d] := if_neg fun h => by simp [IsDisplaced] at h
      show [Call.ofDescriptor base d].Perm ((undisplaced [d] [d]).map _)
      rw [hall]
      exact .refl _
  | d :: e :: ds => exact dispatch_calls_perm base (d :: e :: ds)

/-- A command has the name that its group is given. -/
theorem function_name (cmdletPrefix base : String) (g : Group) :
    (g.function cmdletPrefix base).name = cmdletName g.action cmdletPrefix g.subject := by
  obtain ⟨action, subject, members⟩ := g
  match members with
  | [] => rfl
  | [d] => rfl
  | _ :: _ :: _ => rfl

/-- The tree of the commands and the functions of the module agree: they have the
    same names in the same order, and a function makes the calls of the members
    that its command lists, each as often as it is listed, but for the displaced
    ones.  Every descriptor is listed, as often as it is there, and no two commands
    list the same one. -/
theorem tree_agrees_with_functions (cmdletPrefix base : String) (ds : List Descriptor) :
    let t := CommandTree.ofDescriptors cmdletPrefix base ds
    List.Forall₂
        (fun c f => c.name = f.name ∧ f.body.calls.Perm
          ((undisplaced c.members c.members).map (Call.ofDescriptor base)))
        t.commands (functions cmdletPrefix base ds)
      ∧ (t.commands.flatMap (·.members)).Perm ds
      ∧ t.commands.Pairwise fun c c' => c.members.Disjoint c'.members := by
  intro t
  have hcommands : t.commands = (ofDescriptors ds).map (CommandTree.command cmdletPrefix) := rfl
  have hmembers : t.commands.flatMap (·.members) = (ofDescriptors ds).flatMap (·.members) := by
    rw [hcommands, List.flatMap_map]
    rfl
  refine ⟨?_, ?_, ?_⟩
  · rw [hcommands, functions, List.forall₂_map_left_iff, List.forall₂_map_right_iff,
      List.forall₂_same]
    intro g _
    exact ⟨(function_name cmdletPrefix base g).symm, function_calls_perm cmdletPrefix base g⟩
  · rw [hmembers]
    exact flatMap_members_perm ds
  · rw [hcommands, List.pairwise_map]
    exact pairwise_disjoint_members ds

end Group

end SwaggerCmdlets
