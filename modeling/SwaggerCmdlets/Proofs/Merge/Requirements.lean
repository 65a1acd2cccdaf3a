import SwaggerCmdlets.Proofs.Merge.Declarations
import SwaggerCmdlets.Proofs.Merge.Selection

/-! # Requirements — what the calls of a merged command rely on

    A merged command makes a member's call only when it has all of the member's
    inputs.  The common ones are declared so that every call of the command has
    them, and the others are those that the member's branch tests
    (`splits_optionalNames`); the default has no others. -/

namespace SwaggerCmdlets

variable {members : List Descriptor} {d : Descriptor} {n : String}

/-- The inputs of a descriptor are the required and the tested names, and no name
    is both. -/
structure Descriptor.Splits (d : Descriptor) (required tested : List String) : Prop where
  whole : ∀ n, n ∈ required ∨ n ∈ tested ↔ n ∈ d.names ∧ n ≠ Parameter.subjectName
  disjoint : required.Disjoint tested

/-- A common parameter that is not mandatory is declared as a switch. -/
theorem ScriptParameter.ofCommon_switch {p : Parameter} (h : p.isSwitch = true) :
    (ScriptParameter.ofCommon p).type = "Switch" := by
  have hswitch : p.type = .switch := eq_of_beq h
  show (ScriptParameter.ofParameter p).type = _
  rw [ScriptParameter.ofParameter, hswitch]

namespace Group

open ParameterSplit

/-- The names of the common parameters of a group. -/
def commonNames (members : List Descriptor) : List String :=
  (ofMembers members).common.map (·.name)

theorem mem_commonNames :
    n ∈ commonNames members ↔ n ∈ inputNames members ∧ InAll members n := by
  rw [commonNames, ofMembers_eq, mem_names_part, decide_eq_true_iff]

/-- A member's inputs are the common names and its own optional ones. -/
theorem splits_optionalNames (hd : d ∈ members) :
    d.Splits (commonNames members) (optionalNames members d) where
  whole := by
    intro n
    rw [mem_commonNames, mem_inputNames, mem_optionalNames]
    constructor
    · rintro (⟨⟨hs, -⟩, hall⟩ | ⟨hn, hs, -⟩)
      · exact ⟨hall d hd, hs⟩
      · exact ⟨hn, hs⟩
    · rintro ⟨hn, hs⟩
      by_cases hall : InAll members n
      · exact Or.inl ⟨⟨hs, d, hd, hn⟩, hall⟩
      · rw [InAll] at hall
        push Not at hall
        exact Or.inr ⟨hn, hs, hall⟩
  disjoint := by
    intro n hc ho
    obtain ⟨-, -, m, hm, hn⟩ := mem_optionalNames.mp ho
    exact hn ((mem_commonNames.mp hc).2 m hm)

/-- What a member's conditions test, in place of its optional names. -/
theorem splits_conditions (hd : d ∈ members) :
    d.Splits (commonNames members)
      ((conditions (ofMembers members) d).map Condition.name) where
  whole := by
    intro n
    rw [mem_conditions_names hd]
    exact (splits_optionalNames hd).whole n
  disjoint := fun _ hc ht =>
    (splits_optionalNames hd).disjoint hc ((mem_conditions_names hd).mp ht)

/-- The branches of a choice are those of the members with optional names. -/
theorem dispatch_branches (base : String) (members : List Descriptor) :
    (dispatch base (ofMembers members) members).branches
      = (members.filter (optionalNames members · ≠ [])).map fun d =>
          ⟨conditions (ofMembers members) d, Call.ofDescriptor base d⟩ := by
  have hfilter : members.filter (!isPlain (ofMembers members) ·)
      = members.filter (optionalNames members · ≠ []) := by
    refine List.filter_congr fun d hd => ?_
    rw [Bool.eq_iff_iff, decide_eq_true_iff, Ne, ← isPlain_iff hd]
    simp
  rw [dispatch, hfilter]

/-- A group of two or more members declares the parts of its members' split. -/
theorem function_params_of_two_le (cmdletPrefix base : String) {g : Group}
    (h : 2 ≤ g.members.length) :
    (g.function cmdletPrefix base).params = params (ofMembers g.members) g.members := by
  obtain ⟨action, subject, members⟩ := g
  match members, h with
  | _ :: _ :: _, _ => rfl

/-- A common parameter is declared as mandatory or as a switch. -/
theorem params_of_mem_commonNames {p : ScriptParameter}
    (hp : p ∈ params (ofMembers members) members) (hn : p.name ∈ commonNames members) :
    p.mandatory = true ∨ p.type = "Switch" := by
  obtain ⟨q, -, ⟨-, hcommon⟩ | ⟨hnot, -⟩⟩ := mem_params hp
  · rw [hcommon]
    cases hs : q.isSwitch with
    | true => exact Or.inr (ScriptParameter.ofCommon_switch hs)
    | false => exact Or.inl (ScriptParameter.ofCommon_mandatory.mpr hs)
  · exact absurd (mem_commonNames.mp hn).2 hnot

/-- Every call of a merged command has what it needs.  Its branches are those of the
    members with optional names, in order, and the inputs of such a member are the
    common names and those that its branch tests, none of them twice; the default
    is the call of a member that has the common names alone.  And every common
    name is declared, as mandatory or as a switch. -/
theorem function_calls_split (cmdletPrefix base : String) (g : Group)
    (h : 2 ≤ g.members.length) :
    let f := g.function cmdletPrefix base
    ∃ choice, f.body = .dispatch choice
      ∧ List.Forall₂
        (fun b m => b.call = Call.ofDescriptor base m
          ∧ m.Splits (commonNames g.members) (b.conditions.map Condition.name))
        choice.branches (g.members.filter (optionalNames g.members · ≠ []))
      ∧ (∀ c, choice.default = some c → ∃ m ∈ g.members, c = Call.ofDescriptor base m
        ∧ m.Splits (commonNames g.members) [])
      ∧ ∀ n ∈ commonNames g.members, (∃ p ∈ f.params, p.name = n)
        ∧ ∀ p ∈ f.params, p.name = n → p.mandatory = true ∨ p.type = "Switch" := by
  intro f
  have hparams : f.params = params (ofMembers g.members) g.members :=
    function_params_of_two_le cmdletPrefix base h
  refine ⟨_, function_body cmdletPrefix base h, ?_, ?_, ?_⟩
  · rw [dispatch_branches, List.forall₂_map_left_iff, List.forall₂_same]
    exact fun m hm => ⟨rfl, splits_conditions (List.mem_of_mem_filter hm)⟩
  · intro c hc
    rw [dispatch_default] at hc
    obtain ⟨m, hm, rfl⟩ := Option.map_eq_some_iff.mp hc
    obtain ⟨hmem, hplain⟩ := List.mem_filter.mp (List.mem_of_getLast? hm)
    have hsplits := splits_optionalNames hmem
    rw [of_decide_eq_true hplain] at hsplits
    exact ⟨m, hmem, rfl, hsplits⟩
  · intro n hn
    refine ⟨?_, ?_⟩
    · have hname : n ∈ f.params.map (·.name) :=
        ((declares_of_params hparams).names n).mpr (mem_inputNames.mp (mem_commonNames.mp hn).1)
      exact List.mem_map.mp hname
    · rintro p hp rfl
      rw [hparams] at hp
      exact params_of_mem_commonNames hp hn

/-- Replacing the widgets of a farm. -/
def replaceWidgets : Descriptor :=
  ⟨.replace, "widgets", "/farms/\x7bfarm\x7d/widgets",
    [.subject "widgets", ⟨"farm", .named "farms"⟩, ⟨"body", .named "Widget"⟩], "allwidgets"⟩

/-- Replacing one widget of a farm. -/
def replaceWidget : Descriptor :=
  ⟨.replace, "widgets", "/farms/\x7bfarm\x7d/widgets/\x7bid\x7d",
    [.subject "widgets", ⟨"id", .named "widgets"⟩, ⟨"farm", .named "farms"⟩,
      ⟨"body", .named "Widget"⟩], "farmswidgetsbyID"⟩

/-- With farm and body common to both calls, one is made when the widget is given. -/
theorem function_calls_split_replace :
    let g : Group := ⟨.replace, "widgets", [replaceWidgets, replaceWidget]⟩
    let f := g.function "X" "http://h"
    2 ≤ g.members.length ∧ commonNames g.members = ["farm", "body"]
      ∧ optionalNames g.members replaceWidget = ["id"]
      ∧ ∃ choice, f.body = .dispatch choice
        ∧ List.Forall₂
          (fun b m => b.call = Call.ofDescriptor "http://h" m
            ∧ m.Splits (commonNames g.members) (b.conditions.map Condition.name))
          choice.branches (g.members.filter (optionalNames g.members · ≠ []))
        ∧ (∀ c, choice.default = some c → ∃ m ∈ g.members, c = Call.ofDescriptor "http://h" m
          ∧ m.Splits (commonNames g.members) [])
        ∧ ∀ n ∈ commonNames g.members, (∃ p ∈ f.params, p.name = n)
          ∧ ∀ p ∈ f.params, p.name = n → p.mandatory = true ∨ p.type = "Switch" :=
  ⟨by decide, by decide +kernel, by decide +kernel,
    function_calls_split "X" "http://h" _ (by decide)⟩

end Group

end SwaggerCmdlets
