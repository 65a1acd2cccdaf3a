import SwaggerCmdlets.Proofs.Merge.Tags

/-! # Reordering — what the order of a group's members decides

    A merged command asks of its members which of them declare a name, and not in which
    order they stand.  Permuting them therefore leaves the split of the names, the tags
    and the conditions of every member as they are (`names_part_perm`, `tags_perm`,
    `conditions_perm`), and permutes the branches (`branches_perm`).

    Order decides in which place all this stands, and which of the members without
    optional names is the default; that there is one is not a matter of order
    (`isSome_default_iff`). -/

namespace SwaggerCmdlets

/-- Two functions declare the same names, and each of them with the same tags. -/
structure Function.SameInputs (f f' : Function) : Prop where
  names : (f.params.map (·.name)).Perm (f'.params.map (·.name))
  tags : ∀ p ∈ f.params, ∀ p' ∈ f'.params, p.name = p'.name → p.sets.Perm p'.sets

/-- Two choices have the same branches, and both a default or neither. -/
structure Dispatch.SameBranches (choice choice' : Dispatch) : Prop where
  branches : choice.branches.Perm choice'.branches
  default : choice.default.isSome = true ↔ choice'.default.isSome = true

namespace Group

open ParameterSplit

variable {members members' : List Descriptor} {d : Descriptor} {n : String}

/-- The names of a group that only some of the members declare. -/
def otherNames (members : List Descriptor) : List String :=
  (ofMembers members).optional.map (·.name)

/-! ## Names -/

theorem inAll_perm (h : members.Perm members') : InAll members n ↔ InAll members' n := by
  simp only [InAll, h.mem_iff]

theorem mem_inputNames_perm (h : members.Perm members') :
    n ∈ inputNames members ↔ n ∈ inputNames members' := by
  simp only [mem_inputNames, h.mem_iff]

/-- A part of a split has the same names whatever the order of the members. -/
theorem names_part_perm (h : members.Perm members') (p : String → Bool) :
    ((part members p).map (·.name)).Perm ((part members' p).map (·.name)) := by
  rw [List.perm_ext_iff_of_nodup (nodup_names_part members p) (nodup_names_part members' p)]
  intro n
  rw [mem_names_part, mem_names_part, mem_inputNames_perm h]

theorem decide_inAll_perm (h : members.Perm members') :
    (fun n => decide (InAll members n)) = fun n => decide (InAll members' n) :=
  funext fun _ => decide_eq_decide.mpr (inAll_perm h)

theorem commonNames_eq (members : List Descriptor) :
    commonNames members = (part members (InAll members ·)).map (·.name) := by
  rw [commonNames, ofMembers_eq]

theorem otherNames_eq (members : List Descriptor) :
    otherNames members = (part members fun n => !decide (InAll members n)).map (·.name) := by
  rw [otherNames, ofMembers_eq]

theorem commonNames_perm (h : members.Perm members') :
    (commonNames members).Perm (commonNames members') := by
  rw [commonNames_eq, commonNames_eq, ← decide_inAll_perm h]
  exact names_part_perm h _

theorem otherNames_perm (h : members.Perm members') :
    (otherNames members).Perm (otherNames members') := by
  have hnot : (fun n => !decide (InAll members n)) = fun n => !decide (InAll members' n) :=
    funext fun n => congrArg (!·) (congrFun (decide_inAll_perm h) n)
  rw [otherNames_eq, otherNames_eq, ← hnot]
  exact names_part_perm h _

theorem optionalNames_perm (h : members.Perm members') (d : Descriptor) :
    optionalNames members d = optionalNames members' d := by
  simp only [optionalNames, h.mem_iff]

/-! ## Tags -/

theorem hasSeveralSets_perm (h : members.Perm members') :
    HasSeveralSets members ↔ HasSeveralSets members' := by
  simp only [HasSeveralSets, h.mem_iff, optionalNames_perm h]

theorem setsDeclaring_perm (h : members.Perm members') (n : String) :
    (setsDeclaring members n).Perm (setsDeclaring members' n) := by
  have hnodup : ∀ ms, (setsDeclaring ms n).Nodup := fun ms => nodup_distinct _
  rw [List.perm_ext_iff_of_nodup (hnodup members) (hnodup members')]
  intro s
  simp only [mem_setsDeclaring, h.mem_iff]

theorem tags_perm (h : members.Perm members') (n : String) :
    (tags members n).Perm (tags members' n) := by
  by_cases hseveral : HasSeveralSets members
  · rw [tags_of_hasSeveralSets hseveral,
      tags_of_hasSeveralSets ((hasSeveralSets_perm h).mp hseveral)]
    exact setsDeclaring_perm h n
  · rw [tags_of_not_hasSeveralSets hseveral,
      tags_of_not_hasSeveralSets fun h' => hseveral ((hasSeveralSets_perm h).mpr h')]

/-- A name is tagged with the same sets whatever the order of the members. -/
theorem sets_perm (h : members.Perm members') {p p' : ScriptParameter}
    (hp : p ∈ params (ofMembers members) members)
    (hp' : p' ∈ params (ofMembers members') members') (hname : p.name = p'.name) :
    p.sets.Perm p'.sets := by
  rw [sets_of_mem_params hp, sets_of_mem_params hp', hname]
  by_cases hall : InAll members p'.name
  · rw [if_pos hall, if_pos ((inAll_perm h).mp hall)]
  · rw [if_neg hall, if_neg fun hall' => hall ((inAll_perm h).mpr hall')]
    exact tags_perm h p'.name

/-! ## Branches -/

theorem conditions_perm (h : members.Perm members') (d : Descriptor) :
    conditions (ofMembers members) d = conditions (ofMembers members') d := by
  have hoptional : ∀ n, (ofMembers members).isOptional n = (ofMembers members').isOptional n := by
    intro n
    rw [Bool.eq_iff_iff, isOptional_ofMembers, isOptional_ofMembers]
    simp only [h.mem_iff]
  simp only [conditions, hoptional]

/-- Every member keeps its branch. -/
theorem branches_perm (base : String) (h : members.Perm members') :
    (dispatch base (ofMembers members) members).branches.Perm
      (dispatch base (ofMembers members') members').branches := by
  rw [dispatch_branches, dispatch_branches]
  simp only [optionalNames_perm h, conditions_perm h]
  exact (h.filter _).map _

/-- There is a default just if some member has no optional names. -/
theorem isSome_default_iff (base : String) (members : List Descriptor) :
    (dispatch base (ofMembers members) members).default.isSome = true
      ↔ ∃ m ∈ members, optionalNames members m = [] := by
  rw [dispatch_default, Option.isSome_map, List.getLast?_isSome]
  constructor
  · intro hne
    obtain ⟨m, hm⟩ := List.exists_mem_of_ne_nil _ hne
    obtain ⟨hmem, hplain⟩ := List.mem_filter.mp hm
    exact ⟨m, hmem, of_decide_eq_true hplain⟩
  · rintro ⟨m, hmem, hplain⟩
    exact List.ne_nil_of_mem (List.mem_filter.mpr ⟨hmem, decide_eq_true hplain⟩)

/-- The default is the call of a member without optional names. -/
theorem exists_plain_of_mem_default {base : String} {c : Call}
    (h : c ∈ (dispatch base (ofMembers members) members).default) :
    ∃ m ∈ members, optionalNames members m = [] ∧ c = Call.ofDescriptor base m := by
  rw [dispatch_default, Option.mem_def, Option.map_eq_some_iff] at h
  obtain ⟨m, hm, rfl⟩ := h
  obtain ⟨hmem, hplain⟩ := List.mem_filter.mp (List.mem_of_getLast? hm)
  exact ⟨m, hmem, of_decide_eq_true hplain, rfl⟩

/-! ## Commands -/

/-- A command and that of the same members in another order declare the same names, the
    common ones first, of which there are the same, and each name with the same tags.
    They choose among the same branches.  They both have a default or neither has, and
    it is the call of a member without optional names, not always of the same one. -/
theorem function_perm (cmdletPrefix base : String) (g : Group) (members' : List Descriptor)
    (h : 2 ≤ g.members.length) (hperm : g.members.Perm members') :
    let f := g.function cmdletPrefix base
    let f' := { g with members := members' }.function cmdletPrefix base
    f.SameInputs f'
      ∧ f.params.map (·.name) = commonNames g.members ++ otherNames g.members
      ∧ f'.params.map (·.name) = commonNames members' ++ otherNames members'
      ∧ (commonNames g.members).Perm (commonNames members')
      ∧ (otherNames g.members).Perm (otherNames members')
      ∧ ∃ choice choice', f.body = .dispatch choice ∧ f'.body = .dispatch choice'
        ∧ choice.SameBranches choice'
        ∧ ∀ c, c ∈ choice.default ∨ c ∈ choice'.default →
          ∃ m ∈ g.members, optionalNames g.members m = [] ∧ c = Call.ofDescriptor base m := by
  intro f f'
  have h' : 2 ≤ members'.length := hperm.length_eq ▸ h
  have hparams : f.params = params (ofMembers g.members) g.members :=
    function_params_of_two_le cmdletPrefix base h
  have hparams' : f'.params = params (ofMembers members') members' :=
    function_params_of_two_le cmdletPrefix base h'
  have hnames : f.params.map (·.name) = commonNames g.members ++ otherNames g.members := by
    rw [hparams, names_params]
    rfl
  have hnames' : f'.params.map (·.name) = commonNames members' ++ otherNames members' := by
    rw [hparams', names_params]
    rfl
  have hcommon := commonNames_perm hperm
  have hother := otherNames_perm hperm
  refine ⟨⟨?_, ?_⟩, hnames, hnames', hcommon, hother, _, _, function_body cmdletPrefix base h,
    function_body cmdletPrefix base h', ⟨branches_perm base hperm, ?_⟩, ?_⟩
  · rw [hnames, hnames']
    exact hcommon.append hother
  · rw [hparams, hparams']
    exact fun p hp p' hp' => sets_perm hperm hp hp'
  · rw [isSome_default_iff, isSome_default_iff]
    simp only [hperm.mem_iff, optionalNames_perm hperm]
  · rintro c (hc | hc)
    · exact exists_plain_of_mem_default hc
    · obtain ⟨m, hm, hplain, rfl⟩ := exists_plain_of_mem_default hc
      exact ⟨m, hperm.mem_iff.mpr hm, (optionalNames_perm hperm m).trans hplain, rfl⟩

/-- All widgets are read at two addresses, and the one that comes last is the default. -/
theorem function_perm_widgets :
    let slashed : Descriptor := { allWidgets with endpoint := "/widgets/" }
    let g : Group := ⟨.read, "widgets", [allWidgets, widgetById, activeWidgets, slashed]⟩
    let members' := [slashed, activeWidgets, widgetById, allWidgets]
    let f := g.function "X" "http://h"
    let f' := { g with members := members' }.function "X" "http://h"
    2 ≤ g.members.length ∧ g.members.Perm members'
      ∧ (f.body ≠ f'.body)
      ∧ f.SameInputs f'
      ∧ f.params.map (·.name) = commonNames g.members ++ otherNames g.members
      ∧ f'.params.map (·.name) = commonNames members' ++ otherNames members'
      ∧ (commonNames g.members).Perm (commonNames members')
      ∧ (otherNames g.members).Perm (otherNames members')
      ∧ ∃ choice choice', f.body = .dispatch choice ∧ f'.body = .dispatch choice'
        ∧ choice.SameBranches choice'
        ∧ ∀ c, c ∈ choice.default ∨ c ∈ choice'.default →
          ∃ m ∈ g.members, optionalNames g.members m = []
            ∧ c = Call.ofDescriptor "http://h" m := by
  intro slashed g members' f f'
  have htwo : 2 ≤ g.members.length := by decide
  have hperm : g.members.Perm members' := by decide +kernel
  exact ⟨htwo, hperm, by decide +kernel, function_perm "X" "http://h" g members' htwo hperm⟩

end Group

end SwaggerCmdlets
