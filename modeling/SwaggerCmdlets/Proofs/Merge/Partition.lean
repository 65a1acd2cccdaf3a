import Mathlib.Data.List.Induction
import SwaggerCmdlets.Proofs.Merge.Names

/-! # Partition — which group a descriptor is in

    Groups are formed by inserting one descriptor after the other.  At every
    moment they partition what has been inserted (`Partitions`): their keys are
    different and stand in the order in which they were met, and a group's
    members are the descriptors of its key.  One insertion keeps this
    (`Partitions.insert`), and so it holds of all groups that descriptors form
    (`partitions_ofDescriptors`).  Besides, an insertion changes one group only, or
    adds one at the end (`insert_cases`). -/

namespace SwaggerCmdlets

namespace Group

variable {gs : List Group} {g : Group} {ds : List Descriptor} {d : Descriptor}

/-- The groups hold the descriptors by key, in the order in which they were met. -/
structure Partitions (gs : List Group) (ds : List Descriptor) : Prop where
  keys : gs.map key = distinct (ds.map (·.key))
  members : ∀ g ∈ gs, g.members = ds.filter (·.key = g.key)

namespace Partitions

theorem nodup_keys (h : Partitions gs ds) : (gs.map key).Nodup := by
  rw [h.keys]
  exact nodup_distinct _

theorem mem_keys (h : Partitions gs ds) {k : Action × String} :
    k ∈ gs.map key ↔ k ∈ ds.map (·.key) := by
  rw [h.keys]
  exact mem_distinct

end Partitions

/-- An insertion adds the key of what is inserted, if it is new. -/
theorem keys_insert (d : Descriptor) (gs : List Group) :
    (insert d gs).map key = insertNew (gs.map key) d.key := by
  induction gs with
  | nil => rfl
  | cons g gs ih =>
      rw [insert, List.map_cons]
      by_cases hk : g.key = d.key
      · rw [if_pos hk, insertNew_of_mem (hk ▸ List.mem_cons_self)]
        rfl
      · rw [if_neg hk, List.map_cons, ih, insertNew_cons_of_ne (Ne.symm hk)]

/-- Where every group holds the descriptors of its key, it does so after an
    insertion. -/
theorem members_insert (hkeys : (gs.map key).Nodup)
    (hnew : d.key ∉ gs.map key → ds.filter (·.key = d.key) = [])
    (h : ∀ g ∈ gs, g.members = ds.filter (·.key = g.key)) :
    ∀ g ∈ insert d gs, g.members = (ds ++ [d]).filter (·.key = g.key) := by
  -- a group of another key gains nothing
  have hother : ∀ g : Group, g.key ≠ d.key →
      (ds ++ [d]).filter (·.key = g.key) = ds.filter (·.key = g.key) := by
    intro g hg
    have hsingle : [d].filter (·.key = g.key) = [] := by simp [Ne.symm hg]
    rw [List.filter_append, hsingle, List.append_nil]
  have hown : (ds ++ [d]).filter (·.key = d.key) = ds.filter (·.key = d.key) ++ [d] := by
    rw [List.filter_append]
    simp
  induction gs with
  | nil =>
      intro g hg
      obtain rfl : g = ⟨d.action, d.subject, [d]⟩ := List.mem_singleton.mp hg
      show [d] = (ds ++ [d]).filter (·.key = d.key)
      rw [hown, hnew (List.not_mem_nil), List.nil_append]
  | cons g₀ gs ih =>
      rw [List.map_cons, List.nodup_cons] at hkeys
      obtain ⟨hhead, htail⟩ := List.forall_mem_cons.mp h
      intro g hg
      rw [insert] at hg
      by_cases hk : g₀.key = d.key
      · rw [if_pos hk] at hg
        rcases List.mem_cons.mp hg with rfl | hg
        · show g₀.members ++ [d] = (ds ++ [d]).filter (·.key = g₀.key)
          rw [hk, hown, hhead, hk]
        · have hne : g.key ≠ d.key := fun heq =>
            hkeys.1 (hk.trans heq.symm ▸ List.mem_map_of_mem hg)
          rw [hother g hne]
          exact htail g hg
      · rw [if_neg hk] at hg
        rcases List.mem_cons.mp hg with rfl | hg
        · rw [hother g hk]
          exact hhead
        · refine ih hkeys.2 (fun hnot => hnew ?_) htail g hg
          rw [List.map_cons, List.mem_cons, not_or]
          exact ⟨Ne.symm hk, hnot⟩

/-- Inserting a descriptor keeps the partition. -/
theorem Partitions.insert (h : Partitions gs ds) (d : Descriptor) :
    Partitions (insert d gs) (ds ++ [d]) where
  keys := by
    rw [keys_insert, h.keys, List.map_append]
    exact (distinct_concat _ _).symm
  members := by
    refine members_insert h.nodup_keys (fun hnew => ?_) h.members
    rw [h.mem_keys] at hnew
    rw [List.filter_eq_nil_iff]
    intro e he hkey
    exact hnew (of_decide_eq_true hkey ▸ List.mem_map_of_mem he)

theorem ofDescriptors_concat (ds : List Descriptor) (d : Descriptor) :
    ofDescriptors (ds ++ [d]) = insert d (ofDescriptors ds) :=
  List.foldl_append

/-- Descriptors are partitioned by the groups that they form. -/
theorem partitions_ofDescriptors (ds : List Descriptor) : Partitions (ofDescriptors ds) ds := by
  induction ds using List.reverseRecOn with
  | nil => exact ⟨rfl, List.forall_mem_nil _⟩
  | append_singleton ds d ih =>
      rw [ofDescriptors_concat]
      exact ih.insert d

/-- The members of a group are the descriptors of its key. -/
theorem mem_members_iff (hg : g ∈ ofDescriptors ds) : d ∈ g.members ↔ d ∈ ds ∧ d.key = g.key := by
  rw [(partitions_ofDescriptors ds).members g hg, List.mem_filter, decide_eq_true_iff]

theorem mem_of_mem_members (hg : g ∈ ofDescriptors ds) (hd : d ∈ g.members) : d ∈ ds :=
  ((mem_members_iff hg).mp hd).1

/-- The keys of the groups are the keys of the descriptors. -/
theorem exists_group_iff {k : Action × String} :
    (∃ g ∈ ofDescriptors ds, g.key = k) ↔ ∃ d ∈ ds, d.key = k := by
  rw [← List.mem_map, (partitions_ofDescriptors ds).mem_keys, List.mem_map]

/-- A group is told by its key. -/
theorem eq_of_key_eq {g' : Group} (hg : g ∈ ofDescriptors ds) (hg' : g' ∈ ofDescriptors ds)
    (h : g.key = g'.key) : g = g' :=
  List.inj_on_of_nodup_map (partitions_ofDescriptors ds).nodup_keys hg hg' h

/-- Different groups have no member in common. -/
theorem pairwise_disjoint_members (ds : List Descriptor) :
    (ofDescriptors ds).Pairwise fun g g' => g.members.Disjoint g'.members := by
  have hkeys := List.pairwise_map.mp (partitions_ofDescriptors ds).nodup_keys
  refine hkeys.imp_of_mem fun {g g'} hg hg' hne d hd hd' => ?_
  have hkey : d.key = g.key := ((mem_members_iff hg).mp hd).2
  have hkey' : d.key = g'.key := ((mem_members_iff hg').mp hd').2
  exact hne (hkey.symm.trans hkey')

/-- An insertion adds one member. -/
theorem flatMap_members_insert (d : Descriptor) (gs : List Group) :
    ((insert d gs).flatMap (·.members)).Perm (gs.flatMap (·.members) ++ [d]) := by
  induction gs with
  | nil => exact .refl _
  | cons g gs ih =>
      rw [insert]
      by_cases hk : g.key = d.key
      · rw [if_pos hk, List.flatMap_cons, List.flatMap_cons, List.append_assoc, List.append_assoc]
        exact List.perm_append_comm.append_left g.members
      · rw [if_neg hk, List.flatMap_cons, List.flatMap_cons, List.append_assoc]
        exact ih.append_left g.members

/-- The groups have the descriptors as members, each as often as it is there. -/
theorem flatMap_members_perm (ds : List Descriptor) :
    ((ofDescriptors ds).flatMap (·.members)).Perm ds := by
  induction ds using List.reverseRecOn with
  | nil => exact .refl _
  | append_singleton ds d ih =>
      rw [ofDescriptors_concat]
      exact (flatMap_members_insert d _).trans (ih.append_right [d])

/-- No group is without members. -/
theorem members_ne_nil (hg : g ∈ ofDescriptors ds) : g.members ≠ [] := by
  obtain ⟨d, hd, hkey⟩ := exists_group_iff.mp ⟨g, hg, rfl⟩
  exact List.ne_nil_of_mem ((mem_members_iff hg).mpr ⟨hd, hkey⟩)

/-- An insertion goes to the end of the group of its key, or opens a group at the end. -/
theorem insert_cases (d : Descriptor) (gs : List Group) :
    (∃ before g after, gs = before ++ g :: after ∧ g.key = d.key
        ∧ insert d gs = before ++ { g with members := g.members ++ [d] } :: after)
      ∨ d.key ∉ gs.map key ∧ insert d gs = gs ++ [⟨d.action, d.subject, [d]⟩] := by
  induction gs with
  | nil => exact Or.inr ⟨List.not_mem_nil, rfl⟩
  | cons g₀ gs ih =>
      rw [insert]
      by_cases hk : g₀.key = d.key
      · rw [if_pos hk]
        exact Or.inl ⟨[], g₀, gs, rfl, hk, rfl⟩
      · rw [if_neg hk]
        rcases ih with ⟨before, g, after, hgs, hkey, hinsert⟩ | ⟨hnew, hinsert⟩
        · refine Or.inl ⟨g₀ :: before, g, after, ?_, hkey, ?_⟩
          · rw [hgs, List.cons_append]
          · rw [hinsert, List.cons_append]
        · refine Or.inr ⟨?_, ?_⟩
          · rw [List.map_cons, List.mem_cons, not_or]
            exact ⟨Ne.symm hk, hnew⟩
          · rw [hinsert, List.cons_append]

/-- Descriptors are grouped stably.  The groups stand in the order in which their keys
    are met, each key once.  None of them is empty, and its members are the descriptors
    of its key in the given order; all together they are the descriptors, each as often
    as it is given.  One more descriptor is added to the end of the group of its key and
    leaves all else as it is, or, with a new key, becomes the last group. -/
theorem ofDescriptors_stable (ds : List Descriptor) :
    let gs := ofDescriptors ds
    gs.map key = (ds.map (·.key)).eraseDups
      ∧ (gs.map key).Nodup
      ∧ (∀ g ∈ gs, g.members ≠ [] ∧ g.members = ds.filter (·.key = g.key))
      ∧ (gs.flatMap (·.members)).Perm ds
      ∧ ∀ d : Descriptor,
        (∃ before g after, gs = before ++ g :: after ∧ g.key = d.key
          ∧ ofDescriptors (ds ++ [d])
            = before ++ { g with members := g.members ++ [d] } :: after)
        ∨ d.key ∉ gs.map key
          ∧ ofDescriptors (ds ++ [d]) = gs ++ [⟨d.action, d.subject, [d]⟩] := by
  intro gs
  have hparts : Partitions gs ds := partitions_ofDescriptors ds
  refine ⟨?_, hparts.nodup_keys, ?_, flatMap_members_perm ds, ?_⟩
  · rw [hparts.keys, distinct_eq_eraseDups]
  · exact fun g hg => ⟨members_ne_nil hg, hparts.members g hg⟩
  · intro d
    rw [ofDescriptors_concat]
    exact insert_cases d gs

end Group

end SwaggerCmdlets
