import SwaggerCmdlets.Command.Merge
import SwaggerCmdlets.Proofs.Insertion

/-! # Names — what a group's parameters are called

    Merging looks at parameters by name only: adding a parameter adds its name, if
    it is new (`names_addNew`).  Within a group a name is common if every member
    declares it and optional otherwise, the subject's name apart
    (`isOptional_ofMembers`).  A member's own optional names are what its
    conditions test (`mem_conditions_names`). -/

namespace SwaggerCmdlets

variable {members : List Descriptor} {d : Descriptor} {n : String}

/-- The names that a descriptor declares. -/
def Descriptor.names (d : Descriptor) : List String := d.parameters.map (·.name)

/-- The descriptor of an operation at a path, if the path has a subject and the
    method is supported. -/
def Descriptor.ofPath? (path : String) (op : Operation) : Option Descriptor :=
  (PathTemplate.shape? path).bind (Descriptor.ofOperation? · path op)

theorem Descriptor.mem_names : n ∈ d.names ↔ ∃ p ∈ d.parameters, p.name = n := List.mem_map

/-! ## Names of parameters -/

namespace Parameter

theorem any_name_iff {ps : List Parameter} :
    ps.any (·.name == n) = true ↔ n ∈ ps.map (·.name) :=
  any_key_iff _

theorem addNew_of_mem {ps : List Parameter} {p : Parameter} (h : p.name ∈ ps.map (·.name)) :
    addNew ps p = ps :=
  insertBy_of_mem _ h

theorem addNew_of_not_mem {ps : List Parameter} {p : Parameter} (h : p.name ∉ ps.map (·.name)) :
    addNew ps p = ps ++ [p] :=
  insertBy_of_not_mem _ h

/-- Adding a parameter adds its name, unless it stands there. -/
theorem names_addNew (ps : List Parameter) (p : Parameter) :
    (addNew ps p).map (·.name) = insertNew (ps.map (·.name)) p.name :=
  map_insertBy _ ps p

theorem names_foldl_addNew (ps qs : List Parameter) :
    (ps.foldl addNew qs).map (·.name) = (ps.map (·.name)).foldl insertNew (qs.map (·.name)) :=
  map_foldl_insertBy _ ps qs

/-- Adding parameters one after the other adds their names. -/
theorem mem_names_foldl_addNew (ps qs : List Parameter) :
    n ∈ (ps.foldl addNew qs).map (·.name) ↔ n ∈ qs.map (·.name) ∨ n ∈ ps.map (·.name) := by
  rw [names_foldl_addNew, mem_foldl_insertNew]

end Parameter

namespace ParameterSplit

/-- Whether the parameter is in the common part. -/
def isCommon (members : List Descriptor) (p : Parameter) : Bool :=
  !p.isSubject && isCommonName members p.name

/-- Whether the parameter is in the optional part. -/
def isOther (members : List Descriptor) (p : Parameter) : Bool :=
  !p.isSubject && !isCommonName members p.name

theorem declares_iff : declares d n = true ↔ n ∈ d.names := Parameter.any_name_iff

theorem isCommonName_iff : isCommonName members n = true ↔ ∀ m ∈ members, n ∈ m.names := by
  rw [isCommonName, List.all_eq_true]
  exact forall₂_congr fun _ _ => declares_iff

/-- The two parts of a split are gathered independently of each other. -/
theorem foldl_add (members : List Descriptor) (ps : List Parameter) (split : ParameterSplit) :
    ps.foldl (add members) split
      = ⟨(ps.filter (isCommon members)).foldl Parameter.addNew split.common,
        (ps.filter (isOther members)).foldl Parameter.addNew split.optional⟩ := by
  induction ps generalizing split with
  | nil => rfl
  | cons p ps ih =>
      rw [List.foldl_cons, ih, add]
      cases hs : p.isSubject with
      | true => simp [isCommon, isOther, hs]
      | false =>
          cases hc : isCommonName members p.name with
          | true => simp [isCommon, isOther, hs, hc]
          | false => simp [isCommon, isOther, hs, hc]

/-- An optional name is not the subject's, is declared by a member, and is not
    declared by every member. -/
theorem isOptional_ofMembers :
    (ofMembers members).isOptional n = true ↔
      n ≠ Parameter.subjectName ∧ (∃ m ∈ members, n ∈ m.names) ∧ ∃ m ∈ members, n ∉ m.names := by
  have hnot : isCommonName members n = false ↔ ∃ m ∈ members, n ∉ m.names := by
    rw [Bool.eq_false_iff, Ne, isCommonName_iff]
    simp only [Classical.not_forall, exists_prop]
  rw [isOptional, Parameter.any_name_iff, ofMembers, foldl_add, Parameter.mem_names_foldl_addNew,
    ← hnot]
  simp only [List.map_nil, List.not_mem_nil, false_or, List.mem_map, List.mem_filter,
    List.mem_flatMap, isOther, Parameter.isSubject, Bool.and_eq_true, Bool.not_eq_true',
    beq_eq_false_iff_ne, Descriptor.names]
  constructor
  · rintro ⟨p, ⟨⟨m, hm, hp⟩, hs, hc⟩, rfl⟩
    exact ⟨hs, ⟨m, hm, p, hp, rfl⟩, hc⟩
  · rintro ⟨hs, ⟨m, hm, p, hp, rfl⟩, hc⟩
    exact ⟨p, ⟨⟨m, hm, hp⟩, hs, hc⟩, rfl⟩

end ParameterSplit

/-- A condition tests the parameter that it is made for. -/
theorem Condition.name_ofParameter (p : Parameter) : (Condition.ofParameter p).name = p.name := by
  rw [Condition.ofParameter]
  cases p.isSwitch with
  | true => rfl
  | false => rfl

namespace Group

/-- The names that a member declares and some other member does not, the
    subject's name apart. -/
def optionalNames (members : List Descriptor) (d : Descriptor) : List String :=
  d.names.filter fun n => n ≠ Parameter.subjectName ∧ ∃ m ∈ members, n ∉ m.names

theorem mem_optionalNames :
    n ∈ optionalNames members d ↔
      n ∈ d.names ∧ n ≠ Parameter.subjectName ∧ ∃ m ∈ members, n ∉ m.names := by
  rw [optionalNames, List.mem_filter, decide_eq_true_iff]

/-- A member's conditions test its optional names. -/
theorem mem_conditions_names (hd : d ∈ members) :
    n ∈ (conditions (.ofMembers members) d).map Condition.name ↔ n ∈ optionalNames members d := by
  rw [mem_optionalNames, Descriptor.mem_names]
  simp only [conditions, List.mem_map, mem_distinct, List.mem_filter]
  -- the member itself declares the name that the split then counts as optional
  constructor
  · rintro ⟨c, ⟨p, ⟨hp, ho⟩, rfl⟩, rfl⟩
    rw [Condition.name_ofParameter]
    obtain ⟨hs, -, hm⟩ := ParameterSplit.isOptional_ofMembers.mp ho
    exact ⟨⟨p, hp, rfl⟩, hs, hm⟩
  · rintro ⟨⟨p, hp, rfl⟩, hs, hm⟩
    refine ⟨_, ⟨p, ⟨hp, ?_⟩, rfl⟩, Condition.name_ofParameter p⟩
    exact ParameterSplit.isOptional_ofMembers.mpr
      ⟨hs, ⟨d, hd, List.mem_map_of_mem hp⟩, hm⟩

/-- A member is plain if it has no optional names. -/
theorem isPlain_iff (hd : d ∈ members) :
    isPlain (.ofMembers members) d = true ↔ optionalNames members d = [] := by
  rw [isPlain, List.isEmpty_iff, List.eq_nil_iff_forall_not_mem (l := optionalNames members d),
    ← List.map_eq_nil_iff (f := Condition.name), List.eq_nil_iff_forall_not_mem]
  exact forall_congr' fun _ => not_congr (mem_conditions_names hd)

/-- A member's conditions hold if all of its optional names are given. -/
theorem conditions_hold_iff (hd : d ∈ members) (given : String → Bool) :
    (conditions (.ofMembers members) d).all (given ·.name) = true ↔
      ∀ n ∈ optionalNames members d, given n = true := by
  rw [List.all_eq_true]
  constructor
  · intro h n hn
    obtain ⟨c, hc, rfl⟩ := List.mem_map.mp ((mem_conditions_names hd).mpr hn)
    exact h c hc
  · intro h c hc
    exact h c.name ((mem_conditions_names hd).mp (List.mem_map_of_mem hc))

end Group

end SwaggerCmdlets
