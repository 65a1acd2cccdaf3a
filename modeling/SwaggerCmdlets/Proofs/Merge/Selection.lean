import Mathlib.Data.List.Find
import SwaggerCmdlets.Proofs.Merge.Names

/-! # Selection — which call a merged command makes

    A merged command makes the call of the first member whose optional names are
    all given, if it has any; without such a member it makes the call of the
    last plain one.  It follows from `find?_branches` and `dispatch_default`.

    Members are tried in the order of the group.  A member is therefore out of
    reach when an earlier one asks for less (`Shadows`), and within reach
    otherwise. -/

namespace SwaggerCmdlets

namespace Group

variable {base : String} {members : List Descriptor}

/-- Whether the member has optional names and all of them are given. -/
def IsAsked (members : List Descriptor) (given : String → Bool) (d : Descriptor) : Prop :=
  optionalNames members d ≠ [] ∧ ∀ n ∈ optionalNames members d, given n = true

instance (members : List Descriptor) (given : String → Bool) :
    DecidablePred (IsAsked members given) :=
  fun _ => inferInstanceAs (Decidable (_ ∧ _))

/-- The call of the first member that is asked for; if there is none, that of the
    last member without optional names. -/
def chosenCall (base : String) (members : List Descriptor) (given : String → Bool) :
    Option Call :=
  match members.find? (IsAsked members given ·) with
  | some d => some (Call.ofDescriptor base d)
  | none =>
      ((members.filter (optionalNames members · = [])).getLast?).map (Call.ofDescriptor base)

/-- A group of two or more members becomes a choice between their calls. -/
theorem function_body (cmdletPrefix base : String) {g : Group} (h : 2 ≤ g.members.length) :
    (g.function cmdletPrefix base).body
      = .dispatch (dispatch base (.ofMembers g.members) g.members) := by
  obtain ⟨action, subject, members⟩ := g
  match members, h with
  | _ :: _ :: _, _ => rfl

/-- The branches of a choice are the members with optional names, in order, so
    that the first branch to hold is that of the first member asked for. -/
theorem find?_branches (base : String) (members : List Descriptor) (given : String → Bool) :
    (dispatch base (.ofMembers members) members).branches.find?
        (fun b => b.conditions.all (given ·.name))
      = (members.find? (IsAsked members given ·)).map fun d =>
          ⟨conditions (.ofMembers members) d, Call.ofDescriptor base d⟩ := by
  rw [dispatch, List.find?_map, List.find?_filter]
  -- a branch is tried and holds just when its member is asked for
  refine congrArg _ (List.find?_congr fun d hd => ?_)
  have hplain := isPlain_iff hd
  have hhold := conditions_hold_iff hd given
  rw [Bool.eq_iff_iff, decide_eq_true_iff, decide_eq_true_iff]
  show _ ↔ optionalNames members d ≠ [] ∧ ∀ n ∈ optionalNames members d, given n = true
  rw [← hhold, Ne, ← hplain]
  simp

/-- The default of a choice is the call of the last plain member. -/
theorem dispatch_default (base : String) (members : List Descriptor) :
    (dispatch base (.ofMembers members) members).default
      = ((members.filter (optionalNames members · = [])).getLast?).map
          (Call.ofDescriptor base) := by
  have hfilter : members.filter (isPlain (.ofMembers members) ·)
      = members.filter (optionalNames members · = []) := by
    refine List.filter_congr fun d hd => ?_
    rw [Bool.eq_iff_iff, decide_eq_true_iff]
    exact isPlain_iff hd
  rw [dispatch, hfilter]

/-- What a choice selects depends on the members' optional names alone. -/
theorem select_eq_chosenCall (base : String) (members : List Descriptor)
    (given : String → Bool) :
    (dispatch base (.ofMembers members) members).select given
      = chosenCall base members given := by
  rw [Dispatch.select, find?_branches, dispatch_default, chosenCall]
  cases members.find? (IsAsked members given ·) with
  | none => rfl
  | some d => rfl

/-- A merged command makes the call of the first member in the group's order that
    has optional names all of which are given; if there is none, that of the last
    member without optional names; and if there is none either, no call. -/
theorem function_select (cmdletPrefix base : String) (g : Group) (h : 2 ≤ g.members.length) :
    ∃ choice, (g.function cmdletPrefix base).body = .dispatch choice
      ∧ ∀ given : String → Bool, choice.select given = chosenCall base g.members given :=
  ⟨_, function_body cmdletPrefix base h, select_eq_chosenCall base g.members⟩

/-- Reading all widgets. -/
def allWidgets : Descriptor :=
  ⟨.read, "widgets", "/widgets", [.subject "widgets"], "allwidgets"⟩

/-- Reading a widget by its identifier. -/
def widgetById : Descriptor :=
  ⟨.read, "widgets", "/widgets/\x7bid\x7d", [.subject "widgets", ⟨"id", .named "widgets"⟩],
    "widgetsbyID"⟩

/-- Reading a widget by its own and its farm's identifier. -/
def farmWidget : Descriptor :=
  ⟨.read, "widgets", "/farms/\x7bfarm\x7d/widgets/\x7bid\x7d",
    [.subject "widgets", ⟨"id", .named "widgets"⟩, ⟨"farm", .named "farms"⟩],
    "farmswidgetsbyID"⟩

theorem function_select_widgets :
    let g : Group := ⟨.read, "widgets", [allWidgets, widgetById, farmWidget]⟩
    2 ≤ g.members.length
      ∧ ∃ choice, (g.function "X" "http://h").body = .dispatch choice
        ∧ ∀ given : String → Bool, choice.select given = chosenCall "http://h" g.members given :=
  ⟨by decide, function_select "X" "http://h" _ (by decide)⟩

/-! ## Reaching a member -/

/-- What is given when exactly the member's own parameters are. -/
def suppliedBy (d : Descriptor) (n : String) : Bool := n ∈ d.names ∧ n ≠ Parameter.subjectName

/-- Whether the member `e` has optional names and `d` declares all of them. -/
def Shadows (members : List Descriptor) (d e : Descriptor) : Prop :=
  optionalNames members e ≠ [] ∧ ∀ n ∈ optionalNames members e, n ∈ d.names

instance (members : List Descriptor) (d : Descriptor) : DecidablePred (Shadows members d) :=
  fun _ => inferInstanceAs (Decidable (_ ∧ _))

/-- With a member's own parameters given, those members are asked for that
    shadow it. -/
theorem isAsked_suppliedBy_iff {d e : Descriptor} :
    IsAsked members (suppliedBy d) e ↔ Shadows members d e := by
  refine and_congr_right fun _ => forall₂_congr fun n hn => ?_
  rw [suppliedBy, decide_eq_true_iff]
  exact and_iff_left (mem_optionalNames.mp hn).2.1

/-- A member with optional names shadows itself. -/
theorem shadows_self {d : Descriptor} (h : optionalNames members d ≠ []) :
    Shadows members d d :=
  ⟨h, fun _ hn => (mem_optionalNames.mp hn).1⟩

/-- A plain member is not shadowed, since optional names are not common. -/
theorem not_shadows_of_plain {d e : Descriptor} (h : optionalNames members d = []) :
    ¬ Shadows members d e := by
  rintro ⟨hne, hall⟩
  obtain ⟨n, hn⟩ := List.exists_mem_of_ne_nil _ hne
  have hd : n ∈ optionalNames members d :=
    mem_optionalNames.mpr ⟨hall n hn, (mem_optionalNames.mp hn).2⟩
  rw [h] at hd
  exact nomatch hd

/-- What is chosen with the parameters of a plain member that no plain one
    follows: its call. -/
theorem chosenCall_of_plain {before after : List Descriptor} {d : Descriptor}
    (hm : members = before ++ d :: after) (h : optionalNames members d = [])
    (hlast : ∀ e ∈ after, optionalNames members e ≠ []) :
    chosenCall base members (suppliedBy d) = some (Call.ofDescriptor base d) := by
  have hnone : members.find? (IsAsked members (suppliedBy d) ·) = none := by
    rw [List.find?_eq_none]
    intro e _
    rw [decide_eq_true_iff, isAsked_suppliedBy_iff]
    exact not_shadows_of_plain h
  have hafter : after.filter (optionalNames members · = []) = [] := by
    rw [List.filter_eq_nil_iff]
    intro e he
    rw [decide_eq_true_iff]
    exact hlast e he
  have hfilter : (members.filter (optionalNames members · = [])).getLast? = some d := by
    have happ : ∀ p : Descriptor → Bool,
        members.filter p = before.filter p ++ (d :: after).filter p := by
      intro p
      rw [hm, List.filter_append]
    have hcons : (d :: after).filter (optionalNames members · = []) = [d] := by
      rw [List.filter_cons, if_pos (decide_eq_true h), hafter]
    rw [happ, hcons, List.getLast?_concat]
  rw [chosenCall, hnone]
  show ((members.filter (optionalNames members · = [])).getLast?).map _ = _
  rw [hfilter]
  rfl

/-- What is chosen with the parameters of a member that has optional names: the
    call of the first member before it that shadows it, or else its own. -/
theorem chosenCall_of_optional {before after : List Descriptor} {d : Descriptor}
    (hm : members = before ++ d :: after) (h : optionalNames members d ≠ []) :
    chosenCall base members (suppliedBy d)
      = some (Call.ofDescriptor base ((before.find? (Shadows members d ·)).getD d)) := by
  have hfind : members.find? (IsAsked members (suppliedBy d) ·)
      = some ((before.find? (Shadows members d ·)).getD d) := by
    have hcongr : members.find? (IsAsked members (suppliedBy d) ·)
        = members.find? (Shadows members d ·) :=
      List.find?_congr fun e _ => by rw [decide_eq_decide, isAsked_suppliedBy_iff]
    have happ : ∀ p : Descriptor → Bool,
        members.find? p = (before.find? p).or ((d :: after).find? p) := by
      intro p
      rw [hm, List.find?_append]
    -- what stands behind the member is never tried
    have hself : (d :: after).find? (Shadows members d ·) = some d :=
      List.find?_cons_of_pos (decide_eq_true (shadows_self h))
    rw [hcongr, happ, hself]
    cases before.find? (Shadows members d ·) with
    | none => rfl
    | some e => rfl
  rw [chosenCall, hfind]

/-- With exactly its own parameters given, a member that is not displaced as a
    default is called, unless a member before it has optional names that it
    declares too, and the first such member makes another call. -/
theorem select_suppliedBy_iff (cmdletPrefix base : String) (g : Group)
    (before after : List Descriptor) (d : Descriptor)
    (h : 2 ≤ g.members.length) (hm : g.members = before ++ d :: after)
    (hlast : optionalNames g.members d = [] → ∀ e ∈ after, optionalNames g.members e ≠ []) :
    ∃ choice, (g.function cmdletPrefix base).body = .dispatch choice
      ∧ (choice.select (suppliedBy d) = some (Call.ofDescriptor base d) ↔
        ∀ e, before.find? (Shadows g.members d ·) = some e →
          Call.ofDescriptor base e = Call.ofDescriptor base d) := by
  refine ⟨_, function_body cmdletPrefix base h, ?_⟩
  rw [select_eq_chosenCall]
  -- a plain member is reached as the default, any other one through its branch
  by_cases hplain : optionalNames g.members d = []
  · rw [chosenCall_of_plain hm hplain (hlast hplain)]
    refine iff_of_true rfl fun e he => ?_
    have hshadows : Shadows g.members d e := by simpa using List.find?_some he
    exact absurd hshadows (not_shadows_of_plain hplain)
  · rw [chosenCall_of_optional hm hplain, Option.some_inj]
    cases before.find? (Shadows g.members d ·) with
    | none => exact iff_of_true rfl fun e he => nomatch he
    | some e =>
        constructor
        · intro heq e' he'
          rw [← Option.some.inj he']
          exact heq
        · exact fun hall => hall e rfl

/-- A member whose names include those of another one is in reach when it stands
    before it. -/
theorem select_farmWidget_before_widgetById :
    let g : Group := ⟨.read, "widgets", [allWidgets, farmWidget, widgetById]⟩
    2 ≤ g.members.length ∧ g.members = [allWidgets] ++ farmWidget :: [widgetById]
      ∧ optionalNames g.members farmWidget = ["id", "farm"]
      ∧ ∃ choice, (g.function "X" "http://h").body = .dispatch choice
        ∧ choice.select (suppliedBy farmWidget)
          = some (Call.ofDescriptor "http://h" farmWidget) := by
  intro g
  have hopt : optionalNames g.members farmWidget = ["id", "farm"] := by decide +kernel
  have hplain : optionalNames g.members farmWidget ≠ [] := by
    rw [hopt]
    exact List.cons_ne_nil _ _
  have hnone : [allWidgets].find? (Shadows g.members farmWidget ·) = none := by decide +kernel
  obtain ⟨choice, hbody, hiff⟩ := select_suppliedBy_iff "X" "http://h" g [allWidgets]
    [widgetById] farmWidget (by decide) rfl (fun h => absurd h hplain)
  refine ⟨by decide, rfl, hopt, choice, hbody, hiff.mpr fun e he => ?_⟩
  rw [hnone] at he
  exact nomatch he

/-- A member whose names include those of another one is out of reach when it
    stands behind it: with the identifiers of farm and widget given, the widget is
    called by its own alone. -/
theorem farmWidget_out_of_reach :
    ["/widgets", "/widgets/\x7bid\x7d", "/farms/\x7bfarm\x7d/widgets/\x7bid\x7d"].map
        (Descriptor.ofPath? · ⟨"GET", []⟩)
        = [some allWidgets, some widgetById, some farmWidget]
      ∧ ∃ g ∈ ofDescriptors [allWidgets, widgetById, farmWidget], 2 ≤ g.members.length
        ∧ farmWidget ∈ g.members ∧ optionalNames g.members farmWidget ≠ []
        ∧ ∃ choice, (g.function "X" "http://h").body = .dispatch choice
          ∧ choice.select (suppliedBy farmWidget) = some (Call.ofDescriptor "http://h" widgetById)
          ∧ Call.ofDescriptor "http://h" widgetById ≠ Call.ofDescriptor "http://h" farmWidget := by
  refine ⟨by decide +kernel, ⟨.read, "widgets", [allWidgets, widgetById, farmWidget]⟩, by decide,
    by decide, by decide, by decide, _, rfl, by decide +kernel, by decide +kernel⟩

end Group

end SwaggerCmdlets
