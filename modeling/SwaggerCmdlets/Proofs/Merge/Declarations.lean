import Mathlib.Data.List.Find
import Mathlib.Data.List.Forall2
import SwaggerCmdlets.Proofs.Merge.Partition
import SwaggerCmdlets.Proofs.Path.Scan

/-! # Declarations — the parameters of a command

    A command declares the inputs of its members once each: first those that
    every member has, then the others, both in the order in which they are met
    (`Function.Declares`).  Only what every member has can be mandatory, and it
    is unless it is met as a switch.

    The two ways to build a command agree on this.  A command of one member
    lists the member's inputs as they are; since they are different from each
    other, that is what splitting them would give (`function_params`). -/

namespace SwaggerCmdlets

variable {members : List Descriptor} {n : String}

/-- The descriptor is that of an operation at an endpoint, with what a path says. -/
def Descriptor.Classified (d : Descriptor) : Prop :=
  ∃ path shape endpoint op, PathTemplate.shape? path = some shape
    ∧ Descriptor.ofOperation? shape endpoint op = some d

/-- The parameters of a classified descriptor are entries like those of its path. -/
theorem Descriptor.Classified.areEntries {d : Descriptor} (h : d.Classified) :
    Parameter.AreEntries d.parameters := by
  obtain ⟨path, shape, endpoint, op, hshape, hd⟩ := h
  obtain ⟨action, -, rfl⟩ := Option.map_eq_some_iff.mp hd
  exact (PathTemplate.areEntries_of_shape? hshape).foldl_addNew op.parameters

/-- The descriptor of an operation at its own path is classified. -/
theorem Descriptor.classified_of_ofPath? {d : Descriptor} {path : String} {op : Operation}
    (h : Descriptor.ofPath? path op = some d) : d.Classified := by
  obtain ⟨shape, hshape, hd⟩ := Option.bind_eq_some_iff.mp h
  exact ⟨path, shape, path, op, hshape, hd⟩

/-- The descriptors of operations at their paths, as far as they have one. -/
def Descriptor.ofPaths (ops : List (String × Operation)) : List Descriptor :=
  ops.filterMap fun o => Descriptor.ofPath? o.1 o.2

theorem Descriptor.classified_of_mem_ofPaths {d : Descriptor} {ops : List (String × Operation)}
    (h : d ∈ Descriptor.ofPaths ops) : d.Classified := by
  obtain ⟨o, -, ho⟩ := List.mem_filterMap.mp h
  exact Descriptor.classified_of_ofPath? ho

namespace Parameter

theorem names_inputs (ps : List Parameter) :
    (ps.filter (!·.isSubject)).map (·.name) = (ps.map (·.name)).filter (· ≠ subjectName) := by
  rw [List.filter_map]
  refine congrArg _ (List.filter_congr fun p _ => ?_)
  rw [Bool.eq_iff_iff]
  simp [isSubject]

/-- What is kept of parameters that are added by name is the first of its name. -/
theorem find?_of_mem_foldl_addNew {ps : List Parameter} {p : Parameter}
    (h : p ∈ ps.foldl addNew []) : ps.find? (·.name == p.name) = some p :=
  mem_foldl_insertBy.mp h

/-- Parameters with different names are all kept. -/
theorem foldl_addNew_of_nodup {ps : List Parameter} (h : (ps.map (·.name)).Nodup) :
    ps.foldl addNew [] = ps := by
  induction ps using List.reverseRecOn with
  | nil => rfl
  | append_singleton ps p ih =>
      rw [List.map_append, List.nodup_append] at h
      obtain ⟨hps, -, hp⟩ := h
      have hnew : p.name ∉ ps.map (·.name) := fun hmem =>
        hp p.name hmem p.name (List.mem_singleton_self _) rfl
      rw [List.foldl_append, ih hps, List.foldl_cons, List.foldl_nil, addNew_of_not_mem hnew]

end Parameter

namespace Group

/-- The names of the members' inputs, each as often as it is declared. -/
def inputNames (members : List Descriptor) : List String :=
  (members.flatMap (·.names)).filter (· ≠ Parameter.subjectName)

/-- Every member declares the name. -/
def InAll (members : List Descriptor) (n : String) : Prop := ∀ m ∈ members, n ∈ m.names

instance (members : List Descriptor) : DecidablePred (InAll members) :=
  fun _ => inferInstanceAs (Decidable (∀ _ ∈ _, _))

/-- How the name is declared where it is met first. -/
def firstDeclared? (members : List Descriptor) (n : String) : Option Parameter :=
  (members.flatMap (·.parameters)).find? (·.name == n)

end Group

namespace ParameterSplit

open SwaggerCmdlets.Group

variable {p : String → Bool}

theorem mem_inputNames : n ∈ inputNames members ↔
    n ≠ Parameter.subjectName ∧ ∃ m ∈ members, n ∈ m.names := by
  rw [inputNames, List.mem_filter, List.mem_flatMap, decide_eq_true_iff]
  exact and_comm

/-- The inputs whose names are picked, each as it is met first. -/
def part (members : List Descriptor) (p : String → Bool) : List Parameter :=
  ((members.flatMap (·.parameters)).filter fun q => !q.isSubject && p q.name).foldl
    Parameter.addNew []

/-- A split has two parts: what all members declare, and the rest. -/
theorem ofMembers_eq (members : List Descriptor) :
    ofMembers members
      = ⟨part members (InAll members ·), part members fun n => !decide (InAll members n)⟩ := by
  have hall : isCommonName members = fun n => decide (InAll members n) := by
    funext n
    rw [Bool.eq_iff_iff, decide_eq_true_iff]
    exact isCommonName_iff
  have hparts : ofMembers members
      = ⟨part members (isCommonName members), part members fun n => !isCommonName members n⟩ :=
    foldl_add members _ _
  rw [hparts, hall]

/-- The names of a part, in the order in which they are met. -/
theorem names_part (members : List Descriptor) (p : String → Bool) :
    (part members p).map (·.name) = ((inputNames members).filter p).eraseDups := by
  have hnames : ((members.flatMap (·.parameters)).filter fun q => !q.isSubject && p q.name).map
      (·.name) = (inputNames members).filter p := by
    have hall : members.flatMap (·.names) = (members.flatMap (·.parameters)).map (·.name) :=
      List.map_flatMap.symm
    rw [inputNames, hall, ← Parameter.names_inputs, List.filter_map, List.filter_filter]
    exact congrArg _ (List.filter_congr fun q _ => Bool.and_comm _ _)
  rw [part, Parameter.names_foldl_addNew, hnames]
  exact distinct_eq_eraseDups _

theorem mem_names_part :
    n ∈ (part members p).map (·.name) ↔ n ∈ inputNames members ∧ p n = true := by
  rw [names_part, List.mem_eraseDups, List.mem_filter]

theorem nodup_names_part (members : List Descriptor) (p : String → Bool) :
    ((part members p).map (·.name)).Nodup := by
  rw [part, Parameter.names_foldl_addNew]
  exact nodup_distinct _

/-- A part keeps each parameter as it is met first among all. -/
theorem firstDeclared?_of_mem_part {q : Parameter} (h : q ∈ part members p) :
    p q.name = true ∧ firstDeclared? members q.name = some q := by
  have hfirst := Parameter.find?_of_mem_foldl_addNew h
  obtain ⟨-, hq⟩ := List.mem_filter.mp (List.mem_of_find?_eq_some hfirst)
  refine ⟨(Bool.and_eq_true_iff.mp hq).2, ?_⟩
  rw [← hfirst, List.find?_filter, firstDeclared?]
  -- whether a parameter is picked is told by its name
  refine List.find?_congr fun r _ => ?_
  by_cases hr : r.name = q.name
  · have hpick : (!r.isSubject && p r.name) = true := by
      rw [Parameter.isSubject, hr]
      exact hq
    simp only [hpick, true_and, Bool.decide_eq_true]
  · simp [hr]

end ParameterSplit

/-! ## Functions -/

/-- A common parameter is mandatory unless it is a switch. -/
theorem ScriptParameter.ofCommon_mandatory {p : Parameter} :
    (ScriptParameter.ofCommon p).mandatory = true ↔ p.isSwitch = false := by
  show (!p.isSwitch) = true ↔ _
  simp

/-- The function declares the members' inputs. -/
structure Function.Declares (f : Function) (members : List Descriptor) : Prop where
  nodup : (f.params.map (·.name)).Nodup
  names : ∀ n, n ∈ f.params.map (·.name) ↔
    n ≠ Parameter.subjectName ∧ ∃ m ∈ members, n ∈ m.names
  order : f.params.map (·.name)
    = ((Group.inputNames members).filter (Group.InAll members ·)).eraseDups
      ++ ((Group.inputNames members).filter fun n => !decide (Group.InAll members n)).eraseDups
  mandatory : ∀ p ∈ f.params, p.mandatory = true ↔
    Group.InAll members p.name
      ∧ ∃ q, Group.firstDeclared? members p.name = some q ∧ q.isSwitch = false

namespace Group

open ParameterSplit

/-- The names of the parameters of a larger group: those of the one part, then those of
    the other. -/
theorem names_params (split : ParameterSplit) (members : List Descriptor) :
    (params split members).map (·.name)
      = split.common.map (·.name) ++ split.optional.map (·.name) := by
  rw [params, List.map_append, List.map_map, List.map_map]
  rfl

/-- The sets that a name is tagged with, if not every member declares it. -/
def tags (members : List Descriptor) (n : String) : List String :=
  if isTagged (ofMembers members) members then setsDeclaring members n else []

/-- A parameter of a larger group is what is met first under its name: declared as
    common if every member has it, and otherwise as it is, with its tags. -/
theorem mem_params {p : ScriptParameter} (h : p ∈ params (ofMembers members) members) :
    ∃ q, firstDeclared? members p.name = some q
      ∧ (InAll members p.name ∧ p = .ofCommon q
        ∨ ¬ InAll members p.name
          ∧ p = { ScriptParameter.ofParameter q with sets := tags members q.name }) := by
  rw [params, List.mem_append, List.mem_map, List.mem_map] at h
  rcases h with ⟨q, hq, rfl⟩ | ⟨q, hq, rfl⟩
  · have hq : q ∈ part members (InAll members ·) := by
      rw [ofMembers_eq] at hq
      exact hq
    obtain ⟨hall, hfirst⟩ := firstDeclared?_of_mem_part hq
    exact ⟨q, hfirst, Or.inl ⟨of_decide_eq_true hall, rfl⟩⟩
  · have hq : q ∈ part members fun n => !decide (InAll members n) := by
      rw [ofMembers_eq] at hq
      exact hq
    obtain ⟨hnot, hfirst⟩ := firstDeclared?_of_mem_part hq
    rw [Bool.not_eq_true', decide_eq_false_iff_not] at hnot
    exact ⟨q, hfirst, Or.inr ⟨hnot, rfl⟩⟩

/-- A parameter of a larger group is mandatory if every member has it and it is not
    met first as a switch. -/
theorem params_mandatory {p : ScriptParameter} (h : p ∈ params (ofMembers members) members) :
    p.mandatory = true ↔
      InAll members p.name ∧ ∃ q, firstDeclared? members p.name = some q ∧ q.isSwitch = false := by
  obtain ⟨q, hfirst, hcase⟩ := mem_params h
  rcases hcase with ⟨hall, hp⟩ | ⟨hnot, hp⟩
  · have hmandatory : p.mandatory = true ↔ q.isSwitch = false := by
      rw [hp]
      exact ScriptParameter.ofCommon_mandatory
    rw [hmandatory]
    constructor
    · exact fun hs => ⟨hall, q, hfirst, hs⟩
    · rintro ⟨-, q', hfirst', hs⟩
      obtain rfl : q = q' := Option.some.inj (hfirst.symm.trans hfirst')
      exact hs
  · have hmandatory : p.mandatory = false := by rw [hp, ScriptParameter.ofParameter]
    rw [hmandatory]
    exact ⟨fun hm => (nomatch hm), fun hall => absurd hall.1 hnot⟩

/-- What the parameters of a larger group declare. -/
theorem declares_of_params {f : Function}
    (h : f.params = params (ofMembers members) members) : f.Declares members := by
  have hnames : f.params.map (·.name) = (part members (InAll members ·)).map (·.name)
      ++ (part members fun n => !decide (InAll members n)).map (·.name) := by
    rw [h, names_params, ofMembers_eq]
  have hmem : ∀ n, n ∈ f.params.map (·.name) ↔ n ∈ inputNames members := by
    intro n
    rw [hnames, List.mem_append, mem_names_part, mem_names_part, ← and_or_left]
    refine and_iff_left ?_
    rw [Bool.not_eq_true', decide_eq_true_iff, decide_eq_false_iff_not]
    exact Classical.em _
  exact {
    nodup := by
      rw [hnames, List.nodup_append]
      refine ⟨nodup_names_part _ _, nodup_names_part _ _, ?_⟩
      rintro n hn _ hn' rfl
      rw [mem_names_part] at hn hn'
      simp [hn.2] at hn'
    names := fun n => (hmem n).trans mem_inputNames
    order := by rw [hnames, names_part, names_part]
    mandatory := by
      rw [h]
      exact fun p hp => params_mandatory hp }

/-- A command declares its members' inputs as a merged one would, also when there
    is only one member. -/
theorem function_params (cmdletPrefix base : String) {g : Group}
    (h : ∀ d ∈ g.members, Parameter.AreEntries d.parameters) :
    (g.function cmdletPrefix base).params = params (ofMembers g.members) g.members := by
  obtain ⟨action, subject, members⟩ := g
  match members, h with
  | [], _ => rfl
  | _ :: _ :: _, _ => rfl
  | [d], h =>
      have hnodup : ((d.parameters.filter (!·.isSubject)).map (·.name)).Nodup := by
        rw [Parameter.names_inputs]
        exact (h d (List.mem_singleton_self d)).distinct
      have hall : ∀ p ∈ d.parameters, decide (InAll [d] p.name) = true := by
        intro p hp
        rw [decide_eq_true_iff]
        intro m hm
        rw [List.mem_singleton.mp hm]
        exact List.mem_map_of_mem hp
      have hmembers : [d].flatMap (·.parameters) = d.parameters := by simp
      have hcommon : part [d] (InAll [d] ·) = d.parameters.filter (!·.isSubject) := by
        rw [part, hmembers, ← Parameter.foldl_addNew_of_nodup hnodup]
        refine congrArg _ (List.filter_congr fun p hp => ?_)
        rw [hall p hp, Bool.and_true]
      have hoptional : part [d] (fun n => !decide (InAll [d] n)) = [] := by
        have hnone : d.parameters.filter (fun p => !p.isSubject && !decide (InAll [d] p.name))
            = [] := by
          rw [List.filter_eq_nil_iff]
          intro p hp
          simp [hall p hp]
        rw [part, hmembers, hnone]
        rfl
      rw [ofMembers_eq, hcommon, hoptional]
      exact (List.append_nil _).symm

/-- The command of a group of classified descriptors declares their inputs. -/
theorem function_declares (cmdletPrefix base : String) {g : Group} {ds : List Descriptor}
    (h : ∀ d ∈ ds, d.Classified) (hg : g ∈ ofDescriptors ds) :
    (g.function cmdletPrefix base).Declares g.members := by
  refine declares_of_params (function_params cmdletPrefix base fun d hd => ?_)
  exact (h d (mem_of_mem_members hg hd)).areEntries

/-- The commands of classified operations stand in the order of their groups, and
    each of them declares the inputs of its group's members. -/
theorem functions_declare (cmdletPrefix base : String) (ds : List Descriptor)
    (h : ∀ d ∈ ds, d.Classified) :
    List.Forall₂ (fun f g => f.Declares g.members) (functions cmdletPrefix base ds)
      (ofDescriptors ds) := by
  rw [functions, List.forall₂_map_left_iff, List.forall₂_same]
  exact fun g hg => function_declares cmdletPrefix base h hg

/-- Reading the active widgets. -/
def activeWidgets : Descriptor :=
  ⟨.read, "widgets", "/widgets/active", [.subject "widgets", ⟨"active", .switch⟩], "active"⟩

/-- Reading a widget by its identifier, if it is as active as is asked for. -/
def widgetIfActive : Descriptor :=
  ⟨.read, "widgets", "/widgets/\x7bid\x7d",
    [.subject "widgets", ⟨"id", .named "widgets"⟩, ⟨"active", .named "boolean"⟩],
    "booleanwidgetsbyID"⟩

/-- Reading a desktop of a farm. -/
def farmDesktop : Descriptor :=
  ⟨.read, "desktops", "/farms/\x7bfarm\x7d/desktops/\x7bdesktop\x7d",
    [.subject "desktops", ⟨"desktop", .named "desktops"⟩, ⟨"farm", .named "farms"⟩],
    "farmsdesktopsbyID"⟩

/-- What is common and is met as a switch is not mandatory; what a command of one
    member needs is. -/
theorem functions_declare_active :
    let ds := [activeWidgets, widgetIfActive, farmDesktop]
    (∀ d ∈ ds, d.Classified)
      ∧ List.Forall₂ (fun f g => f.Declares g.members) (functions "X" "http://h" ds)
        (ofDescriptors ds)
      ∧ (functions "X" "http://h" ds).map (·.params.map fun p => (p.name, p.mandatory))
        = [[("active", false), ("id", false)], [("desktop", true), ("farm", true)]] := by
  intro ds
  have hclassified : ∀ d ∈ ds, d.Classified := by
    have hactive : Descriptor.ofPath? "/widgets/active" ⟨"GET", []⟩ = some activeWidgets := by
      decide +kernel
    have hwidget : Descriptor.ofPath? "/widgets/\x7bid\x7d" ⟨"GET", [⟨"active", .named "boolean"⟩]⟩
        = some widgetIfActive := by
      decide +kernel
    have hdesktop : Descriptor.ofPath? "/farms/\x7bfarm\x7d/desktops/\x7bdesktop\x7d" ⟨"GET", []⟩
        = some farmDesktop := by
      decide +kernel
    intro d hd
    simp only [ds, List.mem_cons, List.not_mem_nil, or_false] at hd
    rcases hd with rfl | rfl | rfl
    · exact Descriptor.classified_of_ofPath? hactive
    · exact Descriptor.classified_of_ofPath? hwidget
    · exact Descriptor.classified_of_ofPath? hdesktop
  exact ⟨hclassified, functions_declare "X" "http://h" ds hclassified, by decide +kernel⟩

end Group

end SwaggerCmdlets
