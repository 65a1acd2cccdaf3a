import SwaggerCmdlets.Proofs.Module.ScriptTypes
import SwaggerCmdlets.Proofs.Script.Paragraphs

/-! # Paragraphs of scripts — a module can be taken apart again

    The texts of a module's pieces are those of its session, put together with literals,
    with their first character in upper case, or with placeholders turned into
    references.  None of this brings in a line end.  If the session has no text with a
    line end, then every piece is a paragraph, and what stands between the empty lines of
    the script are the normalized pieces (`paragraphs_script`). -/

namespace SwaggerCmdlets

open Text

variable {d : Descriptor} {members : List Descriptor} {base cmdletPrefix : String}

/-! ## Texts of sessions -/

/-- The texts of a descriptor. -/
def Descriptor.texts (d : Descriptor) : List String :=
  d.subject :: d.endpoint :: d.setName :: d.parameters.flatMap fun p => [p.name, p.type.text]

/-- The texts that a module is made of: the base address, and the texts of descriptors and
    declarations. -/
def Session.texts (s : Session) : List String :=
  s.baseAddress :: (s.descriptors.flatMap Descriptor.texts
    ++ s.registry.declarations.flatMap Declaration.texts)

/-! ## Functions of descriptors -/

theorem unbroken_capitalize {s : String} (h : Unbroken s) : Unbroken (capitalize s) :=
  not_mem_capitalize (by decide) h

/-- The parts of a descriptor without line ends. -/
theorem Descriptor.unbroken_parts (h : ∀ t ∈ d.texts, Unbroken t) :
    Unbroken d.subject ∧ Unbroken d.endpoint ∧ Unbroken d.setName
      ∧ ∀ p ∈ d.parameters, Unbroken p.name ∧ Unbroken p.type.text := by
  simp only [texts, List.forall_mem_cons] at h
  obtain ⟨hsubject, hendpoint, hset, hparameters⟩ := h
  refine ⟨hsubject, hendpoint, hset, fun p hp => ?_⟩
  have htexts : ∀ t ∈ [p.name, p.type.text], Unbroken t :=
    fun t ht => hparameters t (List.mem_flatMap.mpr ⟨p, hp, ht⟩)
  simpa using htexts

theorem Call.unbroken_ofDescriptor (hendpoint : Unbroken d.endpoint) (hbase : Unbroken base) :
    ∀ t ∈ (ofDescriptor base d).texts, Unbroken t := by
  have hmethod : Unbroken d.action.method := by cases d.action <;> decide
  have hslash : '\n' ≠ '/' := by decide
  have hmarks : '\n' ∉ ['$', '(', ')'] := by decide
  have hparts : '\n' ∉ '/' :: (base.toList ++ (['$', '(', ')'] ++ d.endpoint.toList)) := by
    rw [List.mem_cons, List.mem_append, List.mem_append, not_or, not_or, not_or]
    exact ⟨hslash, hbase, hmarks, hendpoint⟩
  have huri : Unbroken (target base d.endpoint) :=
    fun hmem => hparts (target_subset base d.endpoint hmem)
  exact List.forall_mem_cons.mpr ⟨huri, List.forall_mem_singleton.mpr hmethod⟩

theorem ScriptParameter.unbroken_type {p : Parameter} (h : Unbroken p.type.text) :
    Unbroken (ofParameter p).type := by
  have hothers : ∀ type ∈ ["Switch", "object"], Unbroken type := by decide
  rcases type_cases p with hother | ⟨-, htype⟩
  · exact hothers _ hother
  · rw [htype] at h
    exact h

namespace Group

/-- The declared parameters of members without line ends have none. -/
theorem unbroken_params (h : ∀ m ∈ members, ∀ t ∈ m.texts, Unbroken t) :
    ∀ p ∈ params (.ofMembers members) members, ∀ t ∈ p.texts, Unbroken t := by
  have hdeclared : ∀ q, (∃ m ∈ members, q ∈ m.parameters) →
      Unbroken q.name ∧ Unbroken (ScriptParameter.ofParameter q).type := by
    rintro q ⟨m, hm, hq⟩
    obtain ⟨-, -, -, hparameters⟩ := Descriptor.unbroken_parts (h m hm)
    obtain ⟨hname, htype⟩ := hparameters q hq
    exact ⟨hname, ScriptParameter.unbroken_type htype⟩
  intro p hp
  rw [params, List.mem_append, List.mem_map, List.mem_map] at hp
  rcases hp with ⟨q, hq, rfl⟩ | ⟨q, hq, rfl⟩
  · obtain ⟨hname, htype⟩ := hdeclared q (exists_member_of_mem_ofMembers (Or.inl hq))
    exact List.forall_mem_cons.mpr ⟨hname, List.forall_mem_singleton.mpr htype⟩
  · obtain ⟨hname, htype⟩ := hdeclared q (exists_member_of_mem_ofMembers (Or.inr hq))
    refine List.forall_mem_cons.mpr ⟨hname, List.forall_mem_cons.mpr ⟨htype, ?_⟩⟩
    -- the sets of an optional parameter are those of members
    intro set hset
    by_cases htagged : isTagged (.ofMembers members) members
    · rw [if_pos htagged] at hset
      obtain ⟨m, hm, rfl⟩ := List.mem_map.mp (mem_distinct.mp hset)
      exact (Descriptor.unbroken_parts (h m (List.mem_of_mem_filter hm))).2.2.1
    · rw [if_neg htagged] at hset
      exact absurd hset List.not_mem_nil

/-- The choice among members whose names and endpoints have no line ends has none. -/
theorem unbroken_dispatch (hnames : ∀ m ∈ members, ∀ p ∈ m.parameters, Unbroken p.name)
    (hendpoints : ∀ m ∈ members, Unbroken m.endpoint) (hbase : Unbroken base) :
    ∀ t ∈ (dispatch base (.ofMembers members) members).texts, Unbroken t := by
  refine List.forall_mem_append.mpr ⟨?_, ?_⟩
  · intro t ht
    obtain ⟨b, hb, ht⟩ := List.mem_flatMap.mp ht
    obtain ⟨m, hm, rfl⟩ := List.mem_map.mp hb
    have hm := List.mem_of_mem_filter hm
    rcases List.mem_append.mp ht with ht | ht
    · obtain ⟨c, hc, rfl⟩ := List.mem_map.mp ht
      obtain ⟨p, hp, rfl⟩ := List.mem_map.mp (mem_distinct.mp hc)
      rw [Condition.name_ofParameter]
      exact hnames m hm p (List.mem_of_mem_filter hp)
    · exact Call.unbroken_ofDescriptor (hendpoints m hm) hbase t ht
  · intro t ht
    obtain ⟨c, hc, ht⟩ := List.mem_flatMap.mp ht
    obtain ⟨m, hm, rfl⟩ := Option.map_eq_some_iff.mp (Option.mem_toList.mp hc)
    have hm := List.mem_of_mem_filter (List.mem_of_getLast? hm)
    exact Call.unbroken_ofDescriptor (hendpoints m hm) hbase t ht

/-- The function of a group has no line ends if its members have none. -/
theorem unbroken_function {g : Group} (h : ∀ m ∈ g.members, ∀ t ∈ m.texts, Unbroken t)
    (hbase : Unbroken base) (hname : Unbroken (g.function cmdletPrefix base).name) :
    ∀ t ∈ (g.function cmdletPrefix base).texts, Unbroken t := by
  obtain ⟨action, subject, members⟩ := g
  have hnames : ∀ m ∈ members, ∀ p ∈ m.parameters, Unbroken p.name :=
    fun m hm p hp => ((Descriptor.unbroken_parts (h m hm)).2.2.2 p hp).1
  have hendpoints : ∀ m ∈ members, Unbroken m.endpoint :=
    fun m hm => (Descriptor.unbroken_parts (h m hm)).2.1
  have hchoice : ∀ t ∈ (params (.ofMembers members) members).flatMap ScriptParameter.texts
      ++ (dispatch base (.ofMembers members) members).texts, Unbroken t := by
    refine List.forall_mem_append.mpr ⟨?_, unbroken_dispatch hnames hendpoints hbase⟩
    intro t ht
    obtain ⟨p, hp, ht⟩ := List.mem_flatMap.mp ht
    exact unbroken_params h p hp t ht
  match members, h, hname, hchoice with
  | [], h, hname, hchoice => exact List.forall_mem_cons.mpr ⟨hname, hchoice⟩
  | [d], h, hname, _ =>
      obtain ⟨-, hendpoint, -, hparameters⟩ :=
        Descriptor.unbroken_parts (h d (List.mem_singleton_self d))
      refine List.forall_mem_cons.mpr ⟨hname, List.forall_mem_append.mpr
        ⟨?_, Call.unbroken_ofDescriptor hendpoint hbase⟩⟩
      intro t ht
      obtain ⟨p, hp, ht⟩ := List.mem_flatMap.mp ht
      obtain ⟨q, hq, rfl⟩ := List.mem_map.mp hp
      obtain ⟨hqname, htype⟩ := hparameters q (List.mem_of_mem_filter hq)
      have htexts : ∀ t ∈ [q.name, (ScriptParameter.ofParameter q).type], Unbroken t :=
        List.forall_mem_cons.mpr
          ⟨hqname, List.forall_mem_singleton.mpr (ScriptParameter.unbroken_type htype)⟩
      exact htexts t ht
  | _ :: _ :: _, h, hname, hchoice => exact List.forall_mem_cons.mpr ⟨hname, hchoice⟩

theorem unbroken_cmdletName (a : Action) {subject : String} (hpart : Unbroken cmdletPrefix)
    (hsubject : Unbroken subject) : Unbroken (cmdletName a cmdletPrefix subject) := by
  have hverb : Unbroken a.verb := by cases a <;> decide
  have hdash : Unbroken "-" := by decide
  simp only [cmdletName, unbroken_append_iff]
  exact ⟨⟨⟨hverb, hdash⟩, hpart⟩, unbroken_capitalize hsubject⟩

end Group

/-- The function that builds a model has no line ends if the model has none. -/
theorem Model.unbroken_newFunction {m : Model} (h : ∀ t ∈ m.texts, Unbroken t)
    (hpart : Unbroken cmdletPrefix) :
    ∀ t ∈ (m.newFunction cmdletPrefix).texts, Unbroken t := by
  obtain ⟨hname, hproperties⟩ := List.forall_mem_cons.mp h
  have hproperty : ∀ q ∈ m.properties, ∀ t ∈ [q.1, q.2], Unbroken t :=
    fun q hq t ht => hproperties t (List.mem_flatMap.mpr ⟨q, hq, ht⟩)
  have hnew : Unbroken ("New-" ++ cmdletPrefix ++ m.name) := by
    have hword : Unbroken "New-" := by decide
    rw [unbroken_append_iff, unbroken_append_iff]
    exact ⟨⟨hword, hpart⟩, hname⟩
  refine List.forall_mem_cons.mpr ⟨hnew, List.forall_mem_append.mpr
    ⟨?_, List.forall_mem_cons.mpr ⟨hname, ?_⟩⟩⟩
  · intro t ht
    obtain ⟨p, hp, ht⟩ := List.mem_flatMap.mp ht
    obtain ⟨q, hq, rfl⟩ := List.mem_map.mp hp
    exact hproperty q hq t ht
  · intro f hf
    obtain ⟨q, hq, rfl⟩ := List.mem_map.mp hf
    exact hproperty q hq q.1 List.mem_cons_self

/-! ## Scripts -/

/-- The texts of a session's pieces. -/
theorem Session.map_text_pieces (s : Session) (cmdletPrefix : String) :
    (s.pieces cmdletPrefix).map Piece.text
      = s.registry.declarations.map Declaration.text
        ++ (s.registry.declarations.filterMap Declaration.model?).map
          (fun m => (m.newFunction cmdletPrefix).text)
        ++ (Group.ofDescriptors s.descriptors).map
          (fun g => (g.function cmdletPrefix s.baseAddress).text) := by
  rw [Session.pieces, Group.functions, Registry.models]
  simp only [List.map_append, List.map_map]
  rfl

/-- The pieces of a session without line ends are paragraphs. -/
theorem Session.isParagraph_pieces {s : Session} (hpart : Unbroken cmdletPrefix)
    (h : ∀ t ∈ s.texts, Unbroken t) :
    ∀ text ∈ (s.pieces cmdletPrefix).map Piece.text, IsParagraph text := by
  obtain ⟨hbase, htexts⟩ := List.forall_mem_cons.mp h
  obtain ⟨hdescriptors, hdeclarations⟩ := List.forall_mem_append.mp htexts
  have hdescriptor : ∀ d ∈ s.descriptors, ∀ t ∈ d.texts, Unbroken t :=
    fun d hd t ht => hdescriptors t (List.mem_flatMap.mpr ⟨d, hd, ht⟩)
  have hdeclaration : ∀ d ∈ s.registry.declarations, ∀ t ∈ d.texts, Unbroken t :=
    fun d hd t ht => hdeclarations t (List.mem_flatMap.mpr ⟨d, hd, ht⟩)
  intro text htext
  obtain ⟨p, hp, rfl⟩ := List.mem_map.mp htext
  rw [pieces, List.mem_append, List.mem_append, List.mem_map, List.mem_map, List.mem_map] at hp
  rcases hp with (⟨d, hd, rfl⟩ | ⟨m, hm, rfl⟩) | ⟨f, hf, rfl⟩
  · exact Declaration.isParagraph (hdeclaration d hd)
  · have hmodel : ∀ t ∈ m.texts, Unbroken t := hdeclaration _ (Registry.mem_models.mp hm)
    exact Function.isParagraph (Model.unbroken_newFunction hmodel hpart)
  · obtain ⟨g, hg, rfl⟩ := List.mem_map.mp hf
    have hmembers : ∀ m ∈ g.members, ∀ t ∈ m.texts, Unbroken t :=
      fun m hm => hdescriptor m (Group.mem_of_mem_members hg hm)
    -- the subject in the name is that of a descriptor, since no group is empty
    obtain ⟨d, hd, hkey⟩ := Group.exists_group_iff.mp ⟨g, hg, rfl⟩
    have hsubject : d.subject = g.subject := congrArg Prod.snd hkey
    refine Function.isParagraph (Group.unbroken_function hmembers hbase ?_)
    rw [Group.function_name, ← hsubject]
    exact Group.unbroken_cmdletName g.action hpart
      (Descriptor.unbroken_parts (hdescriptor d hd)).1

/-- What stands between the empty lines of a session's script, each closed by its line
    end: the normalized text of every declaration, of the function that builds each
    declared model, and of the command of each group, in this order.  The groups stand in
    the order in which their keys are met. -/
theorem paragraphs_script (s : Session) (c : Config)
    (h : ∀ t ∈ c.cmdletPrefix :: s.texts, Unbroken t) :
    (paragraphs (s.script c)).map closeLine
        = (s.registry.declarations.map Declaration.text
          ++ (s.registry.declarations.filterMap Declaration.model?).map
            (fun m => (m.newFunction c.cmdletPrefix).text)
          ++ (Group.ofDescriptors s.descriptors).map
            (fun g => (g.function c.cmdletPrefix s.baseAddress).text)).map
          (TypeUse.normalize c.typeTable)
      ∧ (Group.ofDescriptors s.descriptors).map Group.key
        = (s.descriptors.map Descriptor.key).eraseDups := by
  obtain ⟨hpart, htexts⟩ := List.forall_mem_cons.mp h
  have hpieces := s.isParagraph_pieces hpart htexts
  constructor
  · rw [← Session.map_text_pieces]
    exact TypeUse.paragraphs_normalize_joinWith c.typeTable hpieces
  · rw [(Group.partitions_ofDescriptors s.descriptors).keys, distinct_eq_eraseDups]

/-- A session with an enumeration that has no values, a class without properties, and
    operations on two subjects that are met in turn. -/
def barrenSession : Session :=
  { Session.empty with
    base := some "http://h"
    registry := ⟨[.enum ⟨"Kind", []⟩, .model ⟨"Widget", []⟩]⟩
    descriptors := [
      ⟨.read, "widgets", "/widgets", [.subject "widgets"], "allwidgets"⟩,
      ⟨.read, "farms", "/farms", [.subject "farms"], "allfarms"⟩,
      ⟨.read, "widgets", "/farms/widgets", [.subject "widgets"], "allwidgets"⟩] }

/-- Without values, properties and parameters there are no empty lines in a piece, either. -/
theorem paragraphs_barrenSession :
    let c := Config.ofPrefix "X"
    (∀ t ∈ c.cmdletPrefix :: barrenSession.texts, Unbroken t)
      ∧ (paragraphs (barrenSession.script c)).map closeLine
        = [(Declaration.enum ⟨"Kind", []⟩).text,
          (Declaration.model ⟨"Widget", []⟩).text,
          (⟨"New-XWidget", [], .construct "Widget" []⟩ : Function).text,
          (⟨"Get-XWidgets", [], .dispatch ⟨[], some ⟨"http://h/farms/widgets", "GET", false⟩⟩⟩ :
            Function).text,
          (⟨"Get-XFarms", [], .call ⟨"http://h/farms", "GET", false⟩⟩ : Function).text].map
          (TypeUse.normalize c.typeTable) := by
  intro c
  have htexts : ∀ t ∈ c.cmdletPrefix :: barrenSession.texts, Unbroken t := by decide
  have hpieces : barrenSession.pieces "X"
      = [.declaration (.enum ⟨"Kind", []⟩), .declaration (.model ⟨"Widget", []⟩),
        .function ⟨"New-XWidget", [], .construct "Widget" []⟩,
        .function
          ⟨"Get-XWidgets", [], .dispatch ⟨[], some ⟨"http://h/farms/widgets", "GET", false⟩⟩⟩,
        .function ⟨"Get-XFarms", [], .call ⟨"http://h/farms", "GET", false⟩⟩] := by
    decide +kernel
  refine ⟨htexts, ?_⟩
  rw [(paragraphs_script barrenSession c htexts).1, ← Session.map_text_pieces]
  show ((barrenSession.pieces "X").map Piece.text).map _ = _
  rw [hpieces]
  rfl

end SwaggerCmdlets
