import SwaggerCmdlets.Proofs.Merge.Declarations
import SwaggerCmdlets.Proofs.Script.References

/-! # Variables — what the calls of a command use

    A call refers to the placeholders of its path, and a command declares what
    its members' paths give as inputs.  The two agree (`functions_refer_params`)
    but for the subject's name, which is never declared, and for a placeholder
    that starts its path, which no segment types. -/

namespace SwaggerCmdlets

namespace PathTemplate

/-- Braces stand around whole segments only, and no two segments in braces stand
    next to each other. -/
structure Spaced (path : String) : Prop where
  braces : ∀ seg ∈ segments path,
    '\x7b' ∉ (placeholder? seg).getD seg ∧ '\x7d' ∉ (placeholder? seg).getD seg
  apart : Apart (segments path)

/-- No bare segment holds the mark of a reference, and each name makes up one
    reference. -/
structure Plain (path : String) : Prop where
  bare : ∀ seg ∈ segments path, placeholder? seg = none → ¬ Call.mark <:+: seg
  name : ∀ seg ∈ segments path, ∀ name ∈ placeholder? seg,
    ')' ∉ name ∧ ¬ Call.mark <:+: '(' :: '$' :: name

instance (path : String) : Decidable (Spaced path) :=
  decidable_of_iff
    ((∀ seg ∈ segments path,
        '\x7b' ∉ (placeholder? seg).getD seg ∧ '\x7d' ∉ (placeholder? seg).getD seg)
      ∧ (segments path).IsChain fun a b => placeholder? a = none ∨ placeholder? b = none)
    ⟨fun h => ⟨h.1, h.2⟩, fun h => ⟨h.braces, h.apart⟩⟩

instance (path : String) : Decidable (Plain path) :=
  decidable_of_iff
    ((∀ seg ∈ segments path, placeholder? seg = none → ¬ Call.mark <:+: seg)
      ∧ ∀ seg ∈ segments path, ∀ name ∈ placeholder? seg,
        ')' ∉ name ∧ ¬ Call.mark <:+: '(' :: '$' :: name)
    ⟨fun h => ⟨h.1, h.2⟩, fun h => ⟨h.bare, h.name⟩⟩

end PathTemplate

open PathTemplate (segments placeholder? leading? Spaced Plain)

variable {base path : String} {op : Operation} {d : Descriptor}

/-- The calls of a choice. -/
def Dispatch.calls (choice : Dispatch) : List Call :=
  choice.branches.map (·.call) ++ choice.default.toList

/-- The calls that a body may make. -/
def Body.calls : Body → List Call
  | .call c => [c]
  | .dispatch choice => choice.calls
  | .construct _ _ => []

namespace Descriptor

/-- The descriptor of an operation at a path calls the path. -/
theorem endpoint_of_ofPath? (h : ofPath? path op = some d) : d.endpoint = path := by
  obtain ⟨shape, -, hd⟩ := Option.bind_eq_some_iff.mp h
  obtain ⟨action, -, rfl⟩ := Option.map_eq_some_iff.mp hd
  rfl

/-- Where no two placeholders of a path stand next to each other, the descriptor
    declares each, but for the subject's name and for one that starts the path. -/
theorem mem_names_of_placeholder {seg name : List Char} (h : ofPath? path op = some d)
    (hpath : Spaced path) (hseg : seg ∈ segments path) (hname : placeholder? seg = some name) :
    String.ofList name ∈ d.names ∨ String.ofList name = Parameter.subjectName
      ∨ leading? (segments path) = some name := by
  obtain ⟨shape, hshape, hd⟩ := Option.bind_eq_some_iff.mp h
  obtain ⟨action, -, rfl⟩ := Option.map_eq_some_iff.mp hd
  refine (PathTemplate.placeholder_mem_names hshape hpath.apart hseg hname).imp_left fun hn => ?_
  exact (Parameter.mem_names_foldl_addNew op.parameters shape.entries).mpr (Or.inl hn)

end Descriptor

namespace Group

theorem dispatch_calls {split : ParameterSplit} {members : List Descriptor} {c : Call}
    (h : c ∈ (dispatch base split members).calls) :
    ∃ m ∈ members, c = Call.ofDescriptor base m := by
  rcases List.mem_append.mp h with hbranch | hdefault
  · obtain ⟨b, hb, rfl⟩ := List.mem_map.mp hbranch
    obtain ⟨m, hm, rfl⟩ := List.mem_map.mp hb
    exact ⟨m, List.mem_of_mem_filter hm, rfl⟩
  · obtain ⟨m, hm, rfl⟩ := Option.map_eq_some_iff.mp (Option.mem_toList.mp hdefault)
    exact ⟨m, List.mem_of_mem_filter (List.mem_of_getLast? hm), rfl⟩

/-- A command calls what its members stand for. -/
theorem function_calls {cmdletPrefix : String} {g : Group} {c : Call}
    (h : c ∈ (g.function cmdletPrefix base).body.calls) :
    ∃ m ∈ g.members, c = Call.ofDescriptor base m := by
  obtain ⟨action, subject, members⟩ := g
  match members, h with
  | [], h => exact dispatch_calls h
  | [d], h => exact ⟨d, List.mem_singleton_self d, List.mem_singleton.mp h⟩
  | _ :: _ :: _, h => exact dispatch_calls h

/-- Each call of a command is sent to a path of the description, and the variables
    that its address refers to are declared by the command, but for the subject's
    name and for a placeholder that starts the path. -/
theorem functions_refer_params (cmdletPrefix base : String) (ops : List (String × Operation))
    (hbase : ¬ Call.mark <:+: base.toList) (h : ∀ o ∈ ops, Spaced o.1 ∧ Plain o.1) :
    ∀ f ∈ functions cmdletPrefix base (ops.filterMap fun o => Descriptor.ofPath? o.1 o.2),
      ∀ c ∈ f.body.calls, ∃ o ∈ ops, c.uri = Call.target base o.1
        ∧ ∀ n : String, Call.Refers c.uri.toList n.toList →
          n ∈ f.params.map (·.name) ∨ n = Parameter.subjectName
            ∨ leading? (segments o.1) = some n.toList := by
  intro f hf c hc
  obtain ⟨g, hg, rfl⟩ := List.mem_map.mp hf
  have hclassified : ∀ d ∈ ops.filterMap fun o => Descriptor.ofPath? o.1 o.2, d.Classified := by
    intro d hd
    obtain ⟨o, -, ho⟩ := List.mem_filterMap.mp hd
    exact Descriptor.classified_of_ofPath? ho
  obtain ⟨m, hm, rfl⟩ := function_calls hc
  obtain ⟨o, ho, hm'⟩ := List.mem_filterMap.mp (mem_of_mem_members hg hm)
  have huri : (Call.ofDescriptor base m).uri = Call.target base o.1 := by
    rw [← Descriptor.endpoint_of_ofPath? hm']
    rfl
  refine ⟨o, ho, huri, fun n hn => ?_⟩
  obtain ⟨hspaced, hplain⟩ := h o ho
  have hclear : ∀ seg ∈ segments o.1, Call.Clear seg := fun seg hseg =>
    ⟨hspaced.braces seg hseg, hplain.bare seg hseg, hplain.name seg hseg⟩
  rw [huri, Call.refers_target_iff hbase hclear] at hn
  obtain ⟨seg, hseg, hname⟩ := hn
  have hmem := Descriptor.mem_names_of_placeholder hm' hspaced hseg hname
  rw [String.ofList_toList] at hmem
  rcases hmem with hmem | hsubject | hleading
  · by_cases hsubject : n = Parameter.subjectName
    · exact Or.inr (Or.inl hsubject)
    · exact Or.inl (((function_declares cmdletPrefix base hclassified hg).names n).mpr
        ⟨hsubject, m, hm, hmem⟩)
  · exact Or.inr (Or.inl hsubject)
  · exact Or.inr (Or.inr hleading)

/-- Desktops are read one by one or by farm, and widgets are removed by a name that
    is reserved: all but this name is declared. -/
theorem functions_refer_params_desktops :
    let ops : List (String × Operation) :=
      [("/farms/\x7bfarmId\x7d/desktops/\x7bdesktopId\x7d", ⟨"GET", []⟩),
        ("/farms/\x7bfarmId\x7d/desktops", ⟨"GET", [⟨"limit", .named "integer"⟩]⟩),
        ("/widgets/\x7bnoun\x7d", ⟨"DELETE", []⟩)]
    let fs := functions "X" "http://h" (ops.filterMap fun o => Descriptor.ofPath? o.1 o.2)
    ¬ Call.mark <:+: "http://h".toList ∧ (∀ o ∈ ops, Spaced o.1 ∧ Plain o.1)
      ∧ (∀ f ∈ fs, ∀ c ∈ f.body.calls, ∃ o ∈ ops, c.uri = Call.target "http://h" o.1
        ∧ ∀ n : String, Call.Refers c.uri.toList n.toList →
          n ∈ f.params.map (·.name) ∨ n = Parameter.subjectName
            ∨ leading? (segments o.1) = some n.toList)
      ∧ fs.map (fun f => (f.params.map (·.name), f.body.calls.map (·.uri)))
        = [(["farmId", "desktopId", "limit"],
            ["http://h/farms/$($farmId)/desktops/$($desktopId)",
              "http://h/farms/$($farmId)/desktops"]),
          ([], ["http://h/widgets/$($noun)"])] := by
  intro ops fs
  have hbase : ¬ Call.mark <:+: "http://h".toList := by decide +kernel
  have hpaths : ∀ o ∈ ops, Spaced o.1 ∧ Plain o.1 := by decide +kernel
  exact ⟨hbase, hpaths, functions_refer_params "X" "http://h" ops hbase hpaths, by decide +kernel⟩

/-- Braces and placeholders of the path are in order, and yet the command that reads it
    has a call that refers to the name, and does not declare it. -/
def LeavesOut (base path n : String) : Prop :=
  Spaced path ∧ ∃ f ∈ functions "X" base (Descriptor.ofPath? path ⟨"GET", []⟩).toList,
    ∃ c ∈ f.body.calls, Call.Refers c.uri.toList n.toList ∧ n ∉ f.params.map (·.name)

instance (base path n : String) : Decidable (LeavesOut base path n) :=
  inferInstanceAs (Decidable (_ ∧ _))

/-- What is not declared: the subject's name; a placeholder that starts the path; and
    what a bare segment, a placeholder's name or the base bring along that reads like
    a reference. -/
theorem functions_refer_undeclared :
    LeavesOut "http://h" "/widgets/\x7bnoun\x7d" "noun"
      ∧ LeavesOut "http://h" "/\x7btenant\x7d/widgets" "tenant"
      ∧ LeavesOut "http://h" "/widgets/$($x)" "x"
      ∧ LeavesOut "http://h" "/widgets/\x7ba)b\x7d" "a"
      ∧ LeavesOut "http://h" "/widgets/\x7b($x\x7d" "x"
      ∧ LeavesOut "http://h/$($x)" "/widgets" "x" := by
  decide +kernel

end Group

end SwaggerCmdlets
