import Mathlib.Data.Finset.Card
import SwaggerCmdlets.Proofs.Merge.Requirements

/-! # Tags — the parameter sets of a merged command

    A parameter set names a way that leads to an endpoint.  When the members with
    optional names go more than one way (`HasSeveralSets`), a merged command tags its
    optional parameters: each with the ways of those members that declare it
    (`sets_of_mem_params`, `mem_setsDeclaring`).  Common parameters belong to every way
    and carry no tags.

    What a branch tests is declared by the member whose branch it is.  All of it
    therefore carries the tag of that member (`setName_mem_sets`), and can be given at
    once. -/

namespace SwaggerCmdlets

variable {members : List Descriptor} {d : Descriptor} {n s : String}

/-- Two elements are left without the repeats just if two of them are different. -/
theorem one_lt_length_distinct {α : Type} [BEq α] [LawfulBEq α] {xs : List α} :
    1 < (distinct xs).length ↔ ∃ x ∈ xs, ∃ y ∈ xs, x ≠ y := by
  classical
  rw [← List.toFinset_card_of_nodup (nodup_distinct xs), Finset.one_lt_card]
  simp only [List.mem_toFinset, mem_distinct]

namespace Group

open ParameterSplit

/-- Two members with optional names have different set names. -/
def HasSeveralSets (members : List Descriptor) : Prop :=
  ∃ m ∈ members, ∃ m' ∈ members,
    optionalNames members m ≠ [] ∧ optionalNames members m' ≠ [] ∧ m.setName ≠ m'.setName

instance (members : List Descriptor) : Decidable (HasSeveralSets members) :=
  inferInstanceAs (Decidable (∃ _ ∈ _, ∃ _ ∈ _, _ ∧ _))

/-- A member declares a parameter of the optional part if it has optional names. -/
theorem any_isOptional_iff (hd : d ∈ members) :
    (d.parameters.any fun p => (ofMembers members).isOptional p.name) = true
      ↔ optionalNames members d ≠ [] := by
  rw [List.any_eq_true]
  constructor
  · rintro ⟨p, hp, hoptional⟩
    obtain ⟨hs, -, hm⟩ := isOptional_ofMembers.mp hoptional
    exact List.ne_nil_of_mem (mem_optionalNames.mpr ⟨List.mem_map_of_mem hp, hs, hm⟩)
  · intro hne
    obtain ⟨n, hmem⟩ := List.exists_mem_of_ne_nil _ hne
    obtain ⟨hn, hs, hm⟩ := mem_optionalNames.mp hmem
    obtain ⟨p, hp, rfl⟩ := Descriptor.mem_names.mp hn
    exact ⟨p, hp, isOptional_ofMembers.mpr ⟨hs, ⟨d, hd, hn⟩, hm⟩⟩

/-- The set names that decide about tags are those of the members with optional names. -/
theorem mem_optionalSets :
    s ∈ (members.filter fun d => d.parameters.any fun p =>
        (ofMembers members).isOptional p.name).map (·.setName)
      ↔ ∃ m ∈ members, optionalNames members m ≠ [] ∧ m.setName = s := by
  rw [List.mem_map]
  constructor
  · rintro ⟨m, hm, rfl⟩
    obtain ⟨hmem, hany⟩ := List.mem_filter.mp hm
    exact ⟨m, hmem, (any_isOptional_iff hmem).mp hany, rfl⟩
  · rintro ⟨m, hmem, hne, rfl⟩
    exact ⟨m, List.mem_filter.mpr ⟨hmem, (any_isOptional_iff hmem).mpr hne⟩, rfl⟩

/-- Optional parameters are tagged when there are several sets. -/
theorem isTagged_iff : isTagged (ofMembers members) members = true ↔ HasSeveralSets members := by
  rw [isTagged, decide_eq_true_iff, optionalSets, one_lt_length_distinct]
  constructor
  · rintro ⟨s, hs, s', hs', hne⟩
    obtain ⟨m, hm, hoptional, rfl⟩ := mem_optionalSets.mp hs
    obtain ⟨m', hm', hoptional', rfl⟩ := mem_optionalSets.mp hs'
    exact ⟨m, hm, m', hm', hoptional, hoptional', hne⟩
  · rintro ⟨m, hm, m', hm', hoptional, hoptional', hne⟩
    exact ⟨m.setName, mem_optionalSets.mpr ⟨m, hm, hoptional, rfl⟩, m'.setName,
      mem_optionalSets.mpr ⟨m', hm', hoptional', rfl⟩, hne⟩

/-- The sets of a name are those of the members that declare it. -/
theorem mem_setsDeclaring :
    s ∈ setsDeclaring members n ↔ ∃ m ∈ members, m.setName = s ∧ n ∈ m.names := by
  rw [setsDeclaring, mem_distinct, List.mem_map]
  constructor
  · rintro ⟨m, hm, rfl⟩
    obtain ⟨hmem, hdeclares⟩ := List.mem_filter.mp hm
    exact ⟨m, hmem, rfl, declares_iff.mp hdeclares⟩
  · rintro ⟨m, hmem, rfl, hn⟩
    exact ⟨m, List.mem_filter.mpr ⟨hmem, declares_iff.mpr hn⟩, rfl⟩

theorem tags_of_hasSeveralSets (h : HasSeveralSets members) :
    tags members n = setsDeclaring members n :=
  if_pos (isTagged_iff.mpr h)

theorem tags_of_not_hasSeveralSets (h : ¬ HasSeveralSets members) : tags members n = [] :=
  if_neg fun ht => h (isTagged_iff.mp ht)

/-- A name that some member declares is tagged just if there are several sets. -/
theorem tags_ne_nil_iff (hd : d ∈ members) (hn : n ∈ d.names) :
    tags members n ≠ [] ↔ HasSeveralSets members := by
  by_cases h : HasSeveralSets members
  · rw [tags_of_hasSeveralSets h]
    exact iff_of_true (List.ne_nil_of_mem (mem_setsDeclaring.mpr ⟨d, hd, rfl, hn⟩)) h
  · rw [tags_of_not_hasSeveralSets h]
    exact iff_of_false (fun hne => hne rfl) h

theorem nodup_tags (members : List Descriptor) (n : String) : (tags members n).Nodup := by
  rw [tags]
  split
  · exact nodup_distinct _
  · exact List.nodup_nil

/-- What a parameter of a larger group is tagged with: with nothing if every member
    declares it. -/
theorem sets_of_mem_params {p : ScriptParameter} (h : p ∈ params (ofMembers members) members) :
    p.sets = if InAll members p.name then [] else tags members p.name := by
  obtain ⟨q, -, ⟨hall, hp⟩ | ⟨hnot, hp⟩⟩ := mem_params h
  · rw [if_pos hall, hp]
    rfl
  · rw [if_neg hnot, hp]
    rfl

/-- An optional name of a member is tagged with the member's set. -/
theorem setName_mem_sets {p : ScriptParameter} (h : HasSeveralSets members) (hd : d ∈ members)
    (hp : p ∈ params (ofMembers members) members) (hn : p.name ∈ optionalNames members d) :
    d.setName ∈ p.sets := by
  obtain ⟨hdeclared, -, m, hm, hnot⟩ := mem_optionalNames.mp hn
  rw [sets_of_mem_params hp, if_neg fun hall => hnot (hall m hm), tags_of_hasSeveralSets h]
  exact mem_setsDeclaring.mpr ⟨d, hd, rfl, hdeclared⟩

/-- A merged command tags no parameter that every member declares.  The others are
    tagged just if two members with optional names have different set names, each with
    the set names of the members that declare it, without repeats.  All that a branch
    tests is then tagged with the set name of the branch's member. -/
theorem function_tags (cmdletPrefix base : String) (g : Group) (h : 2 ≤ g.members.length) :
    let f := g.function cmdletPrefix base
    (∀ p ∈ f.params, InAll g.members p.name → p.sets = [])
      ∧ (∀ p ∈ f.params, ¬ InAll g.members p.name →
        (p.sets ≠ [] ↔ HasSeveralSets g.members)
          ∧ (HasSeveralSets g.members → p.sets.Nodup
            ∧ ∀ s, s ∈ p.sets ↔ ∃ m ∈ g.members, m.setName = s ∧ p.name ∈ m.names))
      ∧ ∃ choice, f.body = .dispatch choice
        ∧ List.Forall₂
          (fun b m => b.call = Call.ofDescriptor base m
            ∧ ∀ c ∈ b.conditions, (∃ p ∈ f.params, p.name = c.name)
              ∧ (HasSeveralSets g.members →
                ∀ p ∈ f.params, p.name = c.name → m.setName ∈ p.sets))
          choice.branches (g.members.filter (optionalNames g.members · ≠ [])) := by
  intro f
  have hparams : f.params = params (ofMembers g.members) g.members :=
    function_params_of_two_le cmdletPrefix base h
  have hnames := (declares_of_params hparams).names
  have hsets : ∀ p ∈ f.params,
      p.sets = if InAll g.members p.name then [] else tags g.members p.name := by
    rw [hparams]
    exact fun p hp => sets_of_mem_params hp
  refine ⟨?_, ?_, _, function_body cmdletPrefix base h, ?_⟩
  · intro p hp hall
    rw [hsets p hp, if_pos hall]
  · intro p hp hnot
    obtain ⟨-, d, hd, hn⟩ := (hnames p.name).mp (List.mem_map_of_mem hp)
    rw [hsets p hp, if_neg hnot]
    refine ⟨tags_ne_nil_iff hd hn, fun hseveral => ⟨nodup_tags _ _, fun s => ?_⟩⟩
    rw [tags_of_hasSeveralSets hseveral]
    exact mem_setsDeclaring
  · rw [dispatch_branches, List.forall₂_map_left_iff, List.forall₂_same]
    intro m hm
    have hmem : m ∈ g.members := List.mem_of_mem_filter hm
    refine ⟨rfl, fun c hc => ?_⟩
    -- what the branch tests is an optional name of its member
    have hc : c.name ∈ optionalNames g.members m :=
      (mem_conditions_names hmem).mp (List.mem_map_of_mem hc)
    obtain ⟨hdeclared, hinput, -⟩ := mem_optionalNames.mp hc
    refine ⟨?_, ?_⟩
    · exact List.mem_map.mp ((hnames c.name).mpr ⟨hinput, m, hmem, hdeclared⟩)
    · intro hseveral p hp hname
      rw [hparams] at hp
      exact setName_mem_sets hseveral hmem hp (hname ▸ hc)

/-- An identifier leads to a widget in two ways, with its farm or without, and active
    widgets are reached in a third one. -/
theorem function_tags_widgets :
    let g : Group := ⟨.read, "widgets", [allWidgets, widgetById, activeWidgets, farmWidget]⟩
    let f := g.function "X" "http://h"
    2 ≤ g.members.length ∧ HasSeveralSets g.members
      ∧ f.params.map (fun p => (p.name, p.sets))
        = [("id", ["widgetsbyID", "farmswidgetsbyID"]), ("active", ["active"]),
          ("farm", ["farmswidgetsbyID"])]
      ∧ (∀ p ∈ f.params, InAll g.members p.name → p.sets = [])
      ∧ (∀ p ∈ f.params, ¬ InAll g.members p.name →
        (p.sets ≠ [] ↔ HasSeveralSets g.members)
          ∧ (HasSeveralSets g.members → p.sets.Nodup
            ∧ ∀ s, s ∈ p.sets ↔ ∃ m ∈ g.members, m.setName = s ∧ p.name ∈ m.names))
      ∧ ∃ choice, f.body = .dispatch choice
        ∧ List.Forall₂
          (fun b m => b.call = Call.ofDescriptor "http://h" m
            ∧ ∀ c ∈ b.conditions, (∃ p ∈ f.params, p.name = c.name)
              ∧ (HasSeveralSets g.members →
                ∀ p ∈ f.params, p.name = c.name → m.setName ∈ p.sets))
          choice.branches (g.members.filter (optionalNames g.members · ≠ [])) := by
  intro g f
  have htwo : 2 ≤ g.members.length := by decide
  exact ⟨htwo, by decide +kernel, by decide +kernel, function_tags "X" "http://h" g htwo⟩

end Group

end SwaggerCmdlets
