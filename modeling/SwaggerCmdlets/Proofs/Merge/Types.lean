import SwaggerCmdlets.Proofs.Merge.Requirements

/-! # Types — what the parameters of a command are declared as

    A command declares a name once, although its members may mean different things
    by it.  The first mention decides: its type is the declared one
    (`typeOf?_of_params`), which suits another member's parameter just if the two
    agree (`Parameter.suitedBy_declaredType_iff`).  A branch tests its own member's
    parameters; whoever agrees with the first mention is therefore tested for what
    is declared. -/

namespace SwaggerCmdlets

variable {members : List Descriptor} {d : Descriptor} {n : String}

/-- The token of a type, if it has one. -/
def ParameterType.token? : ParameterType → Option String
  | .named token => some token
  | .switch => none

namespace Parameter

variable {p q : Parameter}

/-- The type under which the parameter is declared where it stands alone. -/
def declaredType (p : Parameter) : String := (ScriptParameter.ofParameter p).type

/-- The type suits the parameter: it is that of switches for a switch only, and for a
    body that of its model. -/
structure SuitedBy (p : Parameter) (type : String) : Prop where
  switch : type = "Switch" ↔ p.isSwitch = true
  body : p.isBody = true → ∀ token ∈ p.type.token?, type = token

instance (p : Parameter) (type : String) : Decidable (p.SuitedBy type) :=
  decidable_of_iff
    ((type = "Switch" ↔ p.isSwitch = true)
      ∧ (p.isBody = true → ∀ token ∈ p.type.token?, type = token))
    ⟨fun h => ⟨h.1, h.2⟩, fun h => ⟨h.switch, h.body⟩⟩

/-- Two parameters of one name agree: both are switches or neither is, and as bodies
    they have the same type. -/
structure AgreesWith (p q : Parameter) : Prop where
  switch : p.isSwitch = q.isSwitch
  body : p.isBody = true → p.type = q.type

/-- The body whose model has the name under which switches are declared. -/
def switchModel : Parameter := ⟨bodyName, .named "Switch"⟩

theorem isSwitch_iff : p.isSwitch = true ↔ p.type = .switch := beq_iff_eq

theorem isBody_iff : p.isBody = true ↔ p.name = bodyName := beq_iff_eq

theorem declaredType_of_switch (h : p.type = .switch) : p.declaredType = "Switch" := by
  rw [declaredType, ScriptParameter.ofParameter, h]

theorem declaredType_of_named {token : String} (h : p.type = .named token) :
    p.declaredType = if p.isBody then token else "object" := by
  rw [declaredType, ScriptParameter.ofParameter, h]

/-- Switches are declared as such, and nothing else is but one body. -/
theorem declaredType_eq_switch_iff (h : p ≠ switchModel) :
    p.declaredType = "Switch" ↔ p.isSwitch = true := by
  rw [isSwitch_iff]
  cases htype : p.type with
  | switch => exact iff_of_true (declaredType_of_switch htype) rfl
  | named token =>
      refine iff_of_false ?_ (fun heq => nomatch heq)
      rw [declaredType_of_named htype]
      by_cases hbody : p.isBody = true
      · -- a body is declared as its model, whatever the model is called
        rw [if_pos hbody]
        rintro rfl
        obtain ⟨name, type⟩ := p
        obtain rfl : name = bodyName := isBody_iff.mp hbody
        obtain rfl : type = .named "Switch" := htype
        exact h rfl
      · rw [if_neg hbody]
        decide

/-- What is declared for a body has the token of another type if that is the body's. -/
theorem token_eq_declaredType_iff (hq : q.isBody = true) (h : p.isSwitch = q.isSwitch) :
    (∀ token ∈ p.type.token?, q.declaredType = token) ↔ p.type = q.type := by
  cases hptype : p.type with
  | switch =>
      have hqtype : q.type = .switch := by
        rw [← isSwitch_iff, ← h, isSwitch_iff]
        exact hptype
      exact iff_of_true (fun token htoken => nomatch htoken) hqtype.symm
  | named token =>
      cases hqtype : q.type with
      | switch =>
          rw [isSwitch_iff.mpr hqtype, isSwitch_iff, hptype] at h
          exact nomatch h
      | named model =>
          rw [declaredType_of_named hqtype, if_pos hq]
          simp [ParameterType.token?, eq_comm]

/-- The declaration of one parameter suits another one of its name if they agree. -/
theorem suitedBy_declaredType_iff (hname : p.name = q.name) (hq : q ≠ switchModel) :
    p.SuitedBy q.declaredType ↔ p.AgreesWith q := by
  have hswitch : (q.declaredType = "Switch" ↔ p.isSwitch = true) ↔ p.isSwitch = q.isSwitch := by
    rw [declaredType_eq_switch_iff hq]
    exact iff_comm.trans Bool.eq_iff_iff.symm
  have hbody : p.isSwitch = q.isSwitch → p.isBody = true →
      ((∀ token ∈ p.type.token?, q.declaredType = token) ↔ p.type = q.type) := by
    intro hsame hp
    exact token_eq_declaredType_iff (isBody_iff.mpr (hname ▸ isBody_iff.mp hp)) hsame
  constructor
  · rintro ⟨hs, hb⟩
    have hsame := hswitch.mp hs
    exact ⟨hsame, fun hp => (hbody hsame hp).mp (hb hp)⟩
  · rintro ⟨hsame, hb⟩
    exact ⟨hswitch.mpr hsame, fun hp => (hbody hsame hp).mpr (hb hp)⟩

/-- Entries of one name are one entry, the subject's name apart. -/
theorem AreEntries.eq_of_name_eq {ps : List Parameter} (h : AreEntries ps) (hp : p ∈ ps)
    (hq : q ∈ ps) (hinput : p.isSubject = false) (hname : p.name = q.name) : p = q := by
  have hnodup : ((ps.filter (!·.isSubject)).map (·.name)).Nodup := by
    rw [names_inputs]
    exact h.distinct
  have hinput' : q.isSubject = false := by
    rw [isSubject, ← hname]
    exact hinput
  have hmem : ∀ r ∈ ps, r.isSubject = false → r ∈ ps.filter (!·.isSubject) := by
    intro r hr hri
    exact List.mem_filter.mpr ⟨hr, by rw [hri]; rfl⟩
  exact List.inj_on_of_nodup_map hnodup (hmem p hp hinput) (hmem q hq hinput') hname

end Parameter

/-- A switch is tested for its presence, and nothing else is. -/
theorem Condition.ofParameter_eq_present_iff {p : Parameter} :
    Condition.ofParameter p = .present p.name ↔ p.isSwitch = true := by
  rw [Condition.ofParameter]
  cases p.isSwitch with
  | true => exact iff_of_true rfl rfl
  | false =>
      refine iff_of_false ?_ Bool.false_ne_true
      intro heq
      cases heq

/-- The type under which a function declares a name. -/
def Function.typeOf? (f : Function) (n : String) : Option String :=
  (f.params.find? (·.name == n)).map (·.type)

/-- The branches of a body. -/
def Body.branches : Body → List Branch
  | .dispatch choice => choice.branches
  | .call _ => []
  | .construct _ _ => []

namespace Group

open ParameterSplit
open Parameter (switchModel)

/-- A name is met first nowhere just if nobody mentions it. -/
theorem firstDeclared?_eq_none_iff :
    firstDeclared? members n = none ↔ ∀ m ∈ members, n ∉ m.names := by
  rw [firstDeclared?, List.find?_eq_none]
  constructor
  · intro h m hm hn
    obtain ⟨p, hp, rfl⟩ := Descriptor.mem_names.mp hn
    exact h p (List.mem_flatMap.mpr ⟨m, hm, hp⟩) (beq_self_eq_true _)
  · intro h p hp heq
    obtain ⟨m, hm, hpm⟩ := List.mem_flatMap.mp hp
    exact h m hm (Descriptor.mem_names.mpr ⟨p, hpm, eq_of_beq heq⟩)

/-- Whoever mentions a name, some mention of it is the first one. -/
theorem exists_firstDeclared? {p : Parameter} (hd : d ∈ members) (hp : p ∈ d.parameters) :
    ∃ q, firstDeclared? members p.name = some q ∧ p.name = q.name := by
  cases hfirst : firstDeclared? members p.name with
  | none => exact absurd (List.mem_map_of_mem hp) (firstDeclared?_eq_none_iff.mp hfirst d hd)
  | some q =>
      have hname : q.name = p.name := eq_of_beq (List.find?_some hfirst :)
      exact ⟨q, rfl, hname.symm⟩

/-- What a parameter of a larger group is declared as. -/
theorem type_of_mem_params {s : ScriptParameter} (h : s ∈ params (ofMembers members) members) :
    ∃ q, firstDeclared? members s.name = some q ∧ s.type = q.declaredType := by
  obtain ⟨q, hfirst, hs⟩ := mem_params h
  refine ⟨q, hfirst, ?_⟩
  rcases hs with ⟨-, hs⟩ | ⟨-, hs⟩
  · rw [hs]
    rfl
  · rw [hs]
    rfl

/-- The first mention of a name decides what it is declared as. -/
theorem typeOf?_of_params {f : Function} (h : f.params = params (ofMembers members) members)
    (hn : n ≠ Parameter.subjectName) :
    f.typeOf? n = (firstDeclared? members n).map Parameter.declaredType := by
  rw [Function.typeOf?]
  cases hfind : f.params.find? (·.name == n) with
  | some s =>
      have hname : s.name = n := eq_of_beq (List.find?_some hfind :)
      obtain ⟨q, hfirst, htype⟩ := type_of_mem_params (h ▸ List.mem_of_find?_eq_some hfind)
      rw [← hname, hfirst]
      exact congrArg some htype
  | none =>
      have hnone : ∀ m ∈ members, n ∉ m.names := by
        intro m hm hmem
        obtain ⟨s, hs, hname⟩ :=
          List.mem_map.mp (((declares_of_params h).names n).mpr ⟨hn, m, hm, hmem⟩)
        exact List.find?_eq_none.mp hfind s hs (beq_iff_eq.mpr hname)
      rw [firstDeclared?_eq_none_iff.mpr hnone]
      rfl

theorem mem_conditions {split : ParameterSplit} {c : Condition} :
    c ∈ conditions split d ↔
      ∃ p ∈ d.parameters, split.isOptional p.name = true ∧ Condition.ofParameter p = c := by
  simp only [conditions, mem_distinct, List.mem_map, List.mem_filter, and_assoc]

/-- A member's condition tests for presence if the member's parameter of that name
    is a switch. -/
theorem condition_eq_present_iff {c : Condition} {p : Parameter}
    (hentries : Parameter.AreEntries d.parameters) (hc : c ∈ conditions (ofMembers members) d)
    (hp : p ∈ d.parameters) (hname : p.name = c.name) :
    c = .present c.name ↔ p.isSwitch = true := by
  obtain ⟨q, hq, hoptional, rfl⟩ := mem_conditions.mp hc
  rw [Condition.name_ofParameter] at hname ⊢
  have hinput : q.isSubject = false := by
    rw [Parameter.isSubject, beq_eq_false_iff_ne]
    exact (isOptional_ofMembers.mp hoptional).1
  obtain rfl := hentries.eq_of_name_eq hq hp hinput hname.symm
  exact Condition.ofParameter_eq_present_iff

/-- A merged command declares each input of its members under the type of the first
    mention of its name.  Unless that is a body with a model named like a switch, the
    type suits those parameters that agree with the first mention, and no others.  What
    a branch tests for presence is declared as a switch, and nothing else that it tests
    is, as far as its member and the first mention agree on which names are switches. -/
theorem function_declares_types (cmdletPrefix base : String) {ds : List Descriptor} {g : Group}
    (hds : ∀ d ∈ ds, d.Classified) (hg : g ∈ ofDescriptors ds) (h : 2 ≤ g.members.length) :
    let f := g.function cmdletPrefix base
    (∀ m ∈ g.members, ∀ p ∈ m.parameters, p.isSubject = false →
      ∃ q, firstDeclared? g.members p.name = some q ∧ f.typeOf? p.name = some q.declaredType
        ∧ (q ≠ switchModel → (p.SuitedBy q.declaredType ↔ p.AgreesWith q)))
    ∧ List.Forall₂
      (fun b m => b.call = Call.ofDescriptor base m
        ∧ ∀ c ∈ b.conditions, c.name ∈ m.names ∧ ∀ p ∈ m.parameters, p.name = c.name →
          ∀ q ∈ firstDeclared? g.members c.name, q ≠ switchModel → p.isSwitch = q.isSwitch →
            (c = .present c.name ↔ f.typeOf? c.name = some "Switch"))
      f.body.branches (g.members.filter (optionalNames g.members · ≠ [])) := by
  intro f
  have hparams : f.params = params (ofMembers g.members) g.members :=
    function_params_of_two_le cmdletPrefix base h
  refine ⟨?_, ?_⟩
  · intro m hm p hp hinput
    obtain ⟨q, hfirst, hname⟩ := exists_firstDeclared? hm hp
    refine ⟨q, hfirst, ?_, Parameter.suitedBy_declaredType_iff hname⟩
    rw [typeOf?_of_params hparams (beq_eq_false_iff_ne.mp hinput), hfirst]
    rfl
  · have hbranches : f.body.branches
        = (dispatch base (ofMembers g.members) g.members).branches := by
      rw [show f.body = _ from function_body cmdletPrefix base h]
      rfl
    rw [hbranches, dispatch_branches, List.forall₂_map_left_iff, List.forall₂_same]
    intro m hm
    have hmem : m ∈ g.members := List.mem_of_mem_filter hm
    have hentries := (hds m (mem_of_mem_members hg hmem)).areEntries
    refine ⟨rfl, fun c hc => ?_⟩
    obtain ⟨hdeclared, hn, -⟩ :=
      mem_optionalNames.mp ((mem_conditions_names hmem).mp (List.mem_map_of_mem hc))
    refine ⟨hdeclared, fun p hp hname q hq hmodel hsame => ?_⟩
    -- the test follows the member, and the declaration the first mention
    rw [condition_eq_present_iff hentries hc hp hname, hsame,
      ← Parameter.declaredType_eq_switch_iff hmodel, typeOf?_of_params hparams hn,
      Option.mem_def.mp hq, Option.map_some, Option.some_inj]

/-- Widgets are created anywhere, on a farm or as active ones, always from their model. -/
theorem function_declares_types_create :
    let widget : Parameter := ⟨"body", .named "Widget"⟩
    let ds := Descriptor.ofPaths [("/widgets", ⟨"POST", [widget]⟩),
      ("/farms/\x7bfarm\x7d/widgets", ⟨"POST", [widget]⟩), ("/widgets/active", ⟨"POST", [widget]⟩)]
    let g : Group := ⟨.create, "widgets", ds⟩
    let f := g.function "X" "http://h"
    (∀ d ∈ ds, d.Classified) ∧ g ∈ ofDescriptors ds ∧ 2 ≤ g.members.length
      ∧ f.params.map (fun s => (s.name, s.type))
        = [("body", "Widget"), ("farm", "object"), ("active", "Switch")]
      ∧ (∀ m ∈ g.members, ∀ p ∈ m.parameters, p.isSubject = false →
        ∃ q, firstDeclared? g.members p.name = some q ∧ f.typeOf? p.name = some q.declaredType
          ∧ (q ≠ switchModel → (p.SuitedBy q.declaredType ↔ p.AgreesWith q)))
      ∧ List.Forall₂
        (fun b m => b.call = Call.ofDescriptor "http://h" m
          ∧ ∀ c ∈ b.conditions, c.name ∈ m.names ∧ ∀ p ∈ m.parameters, p.name = c.name →
            ∀ q ∈ firstDeclared? g.members c.name, q ≠ switchModel → p.isSwitch = q.isSwitch →
              (c = .present c.name ↔ f.typeOf? c.name = some "Switch"))
        f.body.branches (g.members.filter (optionalNames g.members · ≠ [])) := by
  intro widget ds g f
  have hds : ∀ d ∈ ds, d.Classified := fun d => Descriptor.classified_of_mem_ofPaths
  have hg : g ∈ ofDescriptors ds := by decide +kernel
  have htwo : 2 ≤ g.members.length := by decide +kernel
  exact ⟨hds, hg, htwo, by decide +kernel, function_declares_types "X" "http://h" hds hg htwo⟩

/-- Some member's input is not suited by the type under which a merged command for the
    operations declares its name. -/
def Mistypes (ops : List (String × Operation)) (n : String) : Prop :=
  ∃ g ∈ ofDescriptors (Descriptor.ofPaths ops), 2 ≤ g.members.length
    ∧ ∃ m ∈ g.members, ∃ p ∈ m.parameters, p.isSubject = false ∧ p.name = n
      ∧ ∃ type ∈ (g.function "X" "http://h").typeOf? n, ¬ p.SuitedBy type

/-- A merged command for the operations tests the name for presence although it is not
    declared as a switch, or the other way round. -/
def Mistests (ops : List (String × Operation)) (n : String) : Prop :=
  ∃ g ∈ ofDescriptors (Descriptor.ofPaths ops), 2 ≤ g.members.length
    ∧ ∃ b ∈ (g.function "X" "http://h").body.branches, ∃ c ∈ b.conditions, c.name = n
      ∧ ¬ (c = .present n ↔ (g.function "X" "http://h").typeOf? n = some "Switch")

instance (ops : List (String × Operation)) (n : String) : Decidable (Mistypes ops n) :=
  inferInstanceAs (Decidable (∃ _ ∈ _, _ ∧ _))

instance (ops : List (String × Operation)) (n : String) : Decidable (Mistests ops n) :=
  inferInstanceAs (Decidable (∃ _ ∈ _, _ ∧ _))

/-- Members may differ on whether a name is a switch, or on the model of their bodies,
    and a model may have the name under which switches are declared. -/
theorem functions_mistype :
    let active : List (String × Operation) := [("/widgets", ⟨"GET", []⟩),
      ("/widgets/\x7bid\x7d", ⟨"GET", [⟨"active", .named "boolean"⟩]⟩),
      ("/widgets/active", ⟨"GET", []⟩)]
    let models : List (String × Operation) :=
      [("/widgets", ⟨"POST", [⟨"body", .named "Widget"⟩]⟩),
        ("/widgets/\x7bid\x7d", ⟨"POST", [⟨"body", .named "Gadget"⟩]⟩)]
    let switches : List (String × Operation) := [("/switches", ⟨"POST", []⟩),
      ("/switches/\x7bid\x7d", ⟨"POST", [⟨"body", .named "Switch"⟩]⟩)]
    Mistypes active "active" ∧ Mistests active "active" ∧ Mistypes models "body"
      ∧ Mistypes switches "body" ∧ Mistests switches "body" := by
  decide +kernel

end Group

end SwaggerCmdlets
