import SwaggerCmdlets.Generate.Module
import SwaggerCmdlets.Proofs.Merge.Inspection
import SwaggerCmdlets.Proofs.Script.PieceTypes

/-! # Types of scripts — one pass over the whole text

    The type tokens of a module are normalized by one pass over its text, after
    everything is put together.  For a plain session, whose texts show neither
    opening brackets nor blanks and whose types are identifiers, this is the
    same as normalizing the type of each parameter and each property before the
    text is written (`script_eq_of_plain`).

    All that is left to see is that the pieces of a plain session are plain: the
    names in them are those of the session, put together with literals, with
    their first character in upper case, or with slashes trimmed. -/

namespace SwaggerCmdlets

open Text TypeUse Unicode

variable {d : Descriptor} {members ds : List Descriptor} {base cmdletPrefix : String}

/-! ## Capitals -/

/-- A run of the table of upper cases that leads neither to a bracket nor to a blank. -/
def isApart : List Nat → Bool
  | [_, count, stride, target] =>
    0x5C ≤ target || (0 < stride && 0x21 ≤ target && target + count * stride ≤ 0x5B)
  | _ => true

theorem upperTable_apart : ∀ row ∈ upperTable, isApart row = true := by
  unfold upperTable rows upperRuns
  rw [String.toList_ofList]
  decide +kernel

theorem expansionTable_apart : ∀ row ∈ expansionTable, ∀ n ∈ row.tail, 0x20 < n ∧ n ≠ 0x5B := by
  unfold expansionTable rows upperExpansions
  rw [String.toList_ofList]
  decide +kernel

theorem runTarget?_apart {row : List Nat} {n t : Nat} (hrow : isApart row = true)
    (h : runTarget? n row = some t) : 0x20 < t ∧ t ≠ 0x5B := by
  fun_cases runTarget? n row with
  | case1 first count stride target hin =>
      obtain rfl := Option.some.inj ((if_pos hin).symm.trans h)
      simp only [isApart, Bool.or_eq_true, Bool.and_eq_true, decide_eq_true_eq] at hrow hin
      rcases hrow with hlarge | ⟨⟨hstride, hsmall⟩, hend⟩
      · omega
      · have hlt : n - first < count * stride := (Nat.div_lt_iff_lt_mul hstride).mp hin.2
        omega
  | case2 first count stride target hout =>
      exact absurd (h.symm.trans (if_neg hout)) (Option.some_ne_none t)
  | case3 row hshape =>
      have hnone : runTarget? n row = none := by
        rw [runTarget?]
        exact hshape
      exact absurd (h.symm.trans hnone) (Option.some_ne_none t)

/-- Tables that lead only to code points behind the blank that are no brackets keep every
    code point among them. -/
theorem upperCodesBy_apart {expansions runs : List (List Nat)} {n t : Nat}
    (hexpansions : ∀ row ∈ expansions, ∀ n ∈ row.tail, 0x20 < n ∧ n ≠ 0x5B)
    (hruns : ∀ row ∈ runs, isApart row = true) (hn : 0x20 < n ∧ n ≠ 0x5B)
    (ht : t ∈ upperCodesBy expansions runs n) : 0x20 < t ∧ t ≠ 0x5B := by
  unfold upperCodesBy at ht
  split at ht
  · rename_i row hrow
    exact hexpansions row (List.mem_of_find?_eq_some hrow) t ht
  · obtain rfl := List.mem_singleton.mp ht
    cases hrun : runs.findSome? (runTarget? n) with
    | none => exact hn
    | some t =>
        obtain ⟨row, hrow, ht⟩ := List.exists_of_findSome?_eq_some hrun
        exact runTarget?_apart (hruns row hrow) ht

/-- Code points make a character only if its own is among them. -/
theorem not_mem_map_ofNat {codes : List Nat} {x : Char} (hx : x ≠ '\x00')
    (h : ∀ n ∈ codes, n ≠ x.toNat) : x ∉ codes.map Char.ofNat := by
  intro hmem
  obtain ⟨n, hn, rfl⟩ := List.mem_map.mp hmem
  rcases Unicode.toNat_ofNat_or_eq_zero n with hcode | hzero
  · exact h n hn hcode.symm
  · exact hx hzero

/-- An opening bracket, a blank and a line end are the upper case of themselves alone. -/
theorem not_mem_upperChar {c x : Char} (hx : x ∈ ['[', ' ', '\n']) (hc : c ≠ x) :
    x ∉ upperChar c := by
  unfold upperChar
  by_cases hascii : c.toNat < 0x80
  · rw [if_pos hascii, List.mem_singleton]
    have hall : ['[', ' ', '\n'].all (fun x => decide (∀ n : Nat, n < 0x80 →
        Char.ofNat n ≠ x → x ≠ (Char.ofNat n).toUpper)) = true := by
      decide +kernel
    have hupper := of_decide_eq_true (List.all_eq_true.mp hall x hx) c.toNat hascii
    rw [Char.ofNat_toNat] at hupper
    exact hupper hc
  · rw [if_neg hascii]
    have happart : ∀ n ∈ upperCodes c.toNat, 0x20 < n ∧ n ≠ 0x5B := by
      have hlarge : 0x20 < c.toNat ∧ c.toNat ≠ 0x5B := by omega
      exact fun n hn => upperCodesBy_apart expansionTable_apart upperTable_apart hlarge hn
    have hcodes : ∀ x ∈ ['[', ' ', '\n'], x ≠ '\x00' ∧ (x.toNat ≤ 0x20 ∨ x.toNat = 0x5B) := by
      simp only [List.forall_mem_cons]
      exact ⟨by decide, by decide, by decide, List.forall_mem_nil _⟩
    obtain ⟨hzero, hcode⟩ := hcodes x hx
    refine not_mem_map_ofNat hzero fun n hn heq => ?_
    have hn := happart n hn
    omega

theorem not_mem_capitalize {s : String} {x : Char} (hx : x ∈ ['[', ' ', '\n'])
    (h : x ∉ s.toList) : x ∉ (capitalize s).toList := by
  unfold capitalize
  cases hs : s.toList with
  | nil => exact List.not_mem_nil
  | cons c cs =>
      rw [hs, List.mem_cons, not_or] at h
      obtain ⟨hc, hcs⟩ := h
      show x ∉ (String.ofList (upperChar c ++ cs)).toList
      rw [String.toList_ofList, List.mem_append, not_or]
      exact ⟨not_mem_upperChar hx (Ne.symm hc), hcs⟩

theorem capitalize_bare {s : String} (h : Bare s.toList) : Bare (capitalize s).toList :=
  ⟨not_mem_capitalize (by decide) h.unbracketed, not_mem_capitalize (by decide) h.unparted⟩

/-! ## Descriptors -/

/-- The texts of the descriptor are bare, and the type of a body is an identifier. -/
structure Descriptor.Plain (d : Descriptor) : Prop where
  subject : Bare d.subject.toList
  endpoint : Bare d.endpoint.toList
  setName : Bare d.setName.toList
  names : ∀ p ∈ d.parameters, Bare p.name.toList
  types : ∀ p ∈ d.parameters, p.isBody = true → ∀ token, p.type = .named token →
    isIdent token.toList = true

namespace Call

/-- References are written with a dollar sign and parentheses, and nothing else is new. -/
theorem references_subset (endpoint : List Char) :
    references endpoint ⊆ ['$', '(', ')'] ++ endpoint := by
  intro x hx
  obtain ⟨c, hc, hx⟩ := List.mem_flatMap.mp hx
  rw [List.mem_append]
  split at hx
  · have hmark : ['$', '(', '$'] ⊆ ['$', '(', ')'] := by simp
    exact Or.inl (hmark hx)
  · split at hx
    · obtain rfl := List.mem_singleton.mp hx
      exact Or.inl (by decide)
    · obtain rfl := List.mem_singleton.mp hx
      exact Or.inr hc

/-- An address is made of the base address and the endpoint, with marks. -/
theorem target_subset (base endpoint : String) :
    (target base endpoint).toList
      ⊆ '/' :: (base.toList ++ (['$', '(', ')'] ++ endpoint.toList)) := by
  have hfilled := references_subset endpoint.toList
  unfold target
  dsimp only
  split
  · rw [String.toList_ofList]
    exact fun x hx => List.mem_cons_of_mem _ (List.mem_append_right _ (hfilled hx))
  · rw [String.toList_ofList, joinSlash]
    have hfront : Text.trimEndOf '/' base.toList <+: base.toList :=
      ⟨_, dropEndWhile_append_dropped (· == '/') base.toList⟩
    have hback : Text.trimStartOf '/' (references endpoint.toList)
        <:+ references endpoint.toList := List.dropWhile_suffix _
    intro x hx
    rw [List.mem_append, List.mem_cons] at hx
    rw [List.mem_cons, List.mem_append]
    rcases hx with hbase | rfl | hendpoint
    · exact Or.inr (Or.inl (hfront.subset hbase))
    · exact Or.inl rfl
    · exact Or.inr (Or.inr (hfilled (hback.subset hendpoint)))

end Call

/-- A call of a plain descriptor below a bare base address is plain. -/
theorem Descriptor.Plain.call (h : d.Plain) (hbase : Bare base.toList) :
    (Call.ofDescriptor base d).Plain := by
  have hslash : Bare ['/'] := by decide
  have hmarks : Bare ['$', '(', ')'] := by decide
  have hparts := hslash.append (hbase.append (hmarks.append h.endpoint))
  exact ⟨hparts.of_subset (Call.target_subset base d.endpoint), d.action, rfl⟩

/-- A parameter is declared with the type that its body has, or with one of two others. -/
theorem ScriptParameter.type_cases (p : Parameter) :
    (ofParameter p).type ∈ ["Switch", "object"]
      ∨ p.isBody = true ∧ p.type = .named (ofParameter p).type := by
  unfold ofParameter
  cases htype : p.type with
  | switch => exact Or.inl List.mem_cons_self
  | named token =>
      by_cases hbody : p.isBody = true
      · exact Or.inr ⟨hbody, by simp [hbody]⟩
      · exact Or.inl (by simp [hbody])

/-- The declaration of a plain descriptor's parameter is plain. -/
theorem Descriptor.Plain.parameter (h : d.Plain) {p : Parameter} (hp : p ∈ d.parameters) :
    (ScriptParameter.ofParameter p).Plain := by
  have hothers : ∀ type ∈ ["Switch", "object"], isIdent type.toList = true := by decide
  refine ⟨h.names p hp, ?_, List.forall_mem_nil _⟩
  rcases ScriptParameter.type_cases p with hother | ⟨hbody, htype⟩
  · exact hothers _ hother
  · exact h.types p hp hbody _ htype

namespace Group

/-- What is kept of the parameters of members is one of them. -/
theorem exists_member_of_mem_ofMembers {p : Parameter}
    (h : p ∈ (ParameterSplit.ofMembers members).common
      ∨ p ∈ (ParameterSplit.ofMembers members).optional) :
    ∃ m ∈ members, p ∈ m.parameters := by
  have hpart : ∃ pick, p ∈ ParameterSplit.part members pick := by
    rw [ParameterSplit.ofMembers_eq] at h
    exact h.elim (fun h => ⟨fun n => decide (InAll members n), h⟩)
      fun h => ⟨fun n => !decide (InAll members n), h⟩
  obtain ⟨pick, hp⟩ := hpart
  have hfirst := (ParameterSplit.firstDeclared?_of_mem_part hp).2
  exact List.mem_flatMap.mp (List.mem_of_find?_eq_some hfirst)

/-- The parameters of plain members are plain. -/
theorem params_plain (h : ∀ m ∈ members, m.Plain) :
    ∀ p ∈ params (.ofMembers members) members, p.Plain := by
  intro p hp
  rw [params, List.mem_append, List.mem_map, List.mem_map] at hp
  rcases hp with ⟨q, hq, rfl⟩ | ⟨q, hq, rfl⟩
  · obtain ⟨m, hm, hq⟩ := exists_member_of_mem_ofMembers (Or.inl hq)
    obtain ⟨hname, htype, hsets⟩ := (h m hm).parameter hq
    exact ⟨hname, htype, hsets⟩
  · obtain ⟨m, hm, hq⟩ := exists_member_of_mem_ofMembers (Or.inr hq)
    obtain ⟨hname, htype, -⟩ := (h m hm).parameter hq
    refine ⟨hname, htype, ?_⟩
    intro set hset
    by_cases htagged : isTagged (.ofMembers members) members
    · rw [if_pos htagged] at hset
      obtain ⟨e, he, rfl⟩ := List.mem_map.mp (mem_distinct.mp hset)
      exact (h e (List.mem_of_mem_filter he)).setName
    · rw [if_neg htagged] at hset
      exact absurd hset List.not_mem_nil

/-- The choice among the calls of plain members is plain. -/
theorem dispatch_plain (h : ∀ m ∈ members, m.Plain) (hbase : Bare base.toList) :
    (dispatch base (.ofMembers members) members).Plain where
  branches := by
    intro b hb
    obtain ⟨m, hm, rfl⟩ := List.mem_map.mp hb
    have hm : m ∈ members := List.mem_of_mem_filter hm
    refine ⟨?_, (h m hm).call hbase⟩
    intro c hc
    obtain ⟨p, hp, rfl⟩ := List.mem_map.mp (mem_distinct.mp hc)
    rw [Condition.name_ofParameter]
    exact (h m hm).names p (List.mem_of_mem_filter hp)
  default := by
    intro c hc
    obtain ⟨m, hm, rfl⟩ := Option.map_eq_some_iff.mp hc
    exact (h m (List.mem_of_mem_filter (List.mem_of_getLast? hm))).call hbase

/-- The name of a command is bare if its parts are. -/
theorem cmdletName_bare (a : Action) {subject : String} (hpart : Bare cmdletPrefix.toList)
    (hsubject : Bare subject.toList) : Bare (cmdletName a cmdletPrefix subject).toList := by
  have hverb : Bare a.verb.toList := by cases a <;> decide
  have hdash : Bare "-".toList := by decide
  simp only [cmdletName, String.toList_append]
  exact ((hverb.append hdash).append hpart).append (capitalize_bare hsubject)

/-- The function of a group of plain members is plain. -/
theorem function_plain {g : Group} (h : ∀ m ∈ g.members, m.Plain) (hbase : Bare base.toList)
    (hname : Bare (g.function cmdletPrefix base).name.toList) :
    (g.function cmdletPrefix base).Plain := by
  obtain ⟨action, subject, members⟩ := g
  match members, h, hname with
  | [], h, hname => exact ⟨hname, params_plain h, dispatch_plain h hbase⟩
  | [d], h, hname =>
      have hd := h d (List.mem_singleton_self d)
      refine ⟨hname, ?_, hd.call hbase⟩
      intro p hp
      obtain ⟨q, hq, rfl⟩ := List.mem_map.mp hp
      obtain ⟨hqname, htype, hsets⟩ := hd.parameter (List.mem_of_mem_filter hq)
      exact ⟨hqname, htype, hsets⟩
  | _ :: _ :: _, h, hname => exact ⟨hname, params_plain h, dispatch_plain h hbase⟩

/-- The commands of plain descriptors are plain. -/
theorem functions_plain (h : ∀ d ∈ ds, d.Plain) (hbase : Bare base.toList)
    (hpart : Bare cmdletPrefix.toList) :
    ∀ f ∈ functions cmdletPrefix base ds, f.Plain := by
  intro f hf
  obtain ⟨g, hg, rfl⟩ := List.mem_map.mp hf
  refine function_plain (fun m hm => h m (mem_of_mem_members hg hm)) hbase ?_
  obtain ⟨d, hd, hkey⟩ := exists_group_iff.mp ⟨g, hg, rfl⟩
  have hsubject : d.subject = g.subject := congrArg Prod.snd hkey
  rw [function_name, ← hsubject]
  exact cmdletName_bare g.action hpart (h d hd).subject

end Group

/-! ## Sessions -/

/-- No text of the session shows an opening bracket or a blank, and the types of bodies
    and properties are identifiers. -/
structure Session.Plain (s : Session) : Prop where
  base : Bare s.baseAddress.toList
  descriptors : ∀ d ∈ s.descriptors, d.Plain
  declarations : ∀ d ∈ s.registry.declarations, d.Plain

/-- The function that builds a plain model is plain. -/
theorem Model.Plain.newFunction {m : Model} (h : m.Plain) (hpart : Bare cmdletPrefix.toList) :
    (m.newFunction cmdletPrefix).Plain where
  name := by
    have hnew : Bare "New-".toList := by decide
    simp only [Model.newFunction, String.toList_append]
    exact (hnew.append hpart).append h.name
  params := by
    intro p hp
    obtain ⟨⟨name, type⟩, hproperty, rfl⟩ := List.mem_map.mp hp
    obtain ⟨hname, htype⟩ := h.properties _ hproperty
    exact ⟨hname, htype, List.forall_mem_nil _⟩
  body := by
    refine ⟨h.name, fun f hf => ?_⟩
    obtain ⟨p, hp, rfl⟩ := List.mem_map.mp hf
    exact (h.properties p hp).1

/-- The module of a plain session has plain pieces. -/
theorem Session.Plain.pieces {s : Session} (h : s.Plain) (hpart : Bare cmdletPrefix.toList) :
    ∀ p ∈ s.pieces cmdletPrefix, p.Plain := by
  intro p hp
  rw [Session.pieces, List.mem_append, List.mem_append, List.mem_map, List.mem_map,
    List.mem_map] at hp
  rcases hp with (⟨d, hd, rfl⟩ | ⟨m, hm, rfl⟩) | ⟨f, hf, rfl⟩
  · exact h.declarations d hd
  · have hplain : m.Plain := h.declarations _ (Registry.mem_models.mp hm)
    exact hplain.newFunction hpart
  · exact Group.functions_plain h.descriptors h.base hpart f hf

/-- One pass over the text of a plain session's module does the same as normalizing the
    types of parameters and properties before the pieces are put together, and nothing
    else. -/
theorem script_eq_of_plain (s : Session) (c : Config) (hs : s.Plain)
    (hpart : Bare c.cmdletPrefix.toList) (hclass : "class" ∉ c.passthrough)
    (henum : "enum" ∉ c.passthrough) :
    s.script c
      = moduleText ((s.pieces c.cmdletPrefix).map (Piece.normalizeTypes c.typeTable)) :=
  normalize_moduleText (hs.pieces hpart) ⟨hclass, henum⟩

/-- A session with a class, an enumeration and two operations that send a body, and with
    names that look like the words of declarations. -/
def publicSession : Session :=
  { Session.empty with
    base := some "http://h/public"
    registry := ⟨[.enum ⟨"Kind", ["public", "class"]⟩,
      .model ⟨"public", [("on", "boolean"), ("farm", "Farm"), ("kind", "Kind")]⟩]⟩
    descriptors := [
      ⟨.create, "public", "/a", [.subject "public", ⟨"body", .named "Gadget"⟩], "allpublic"⟩,
      ⟨.create, "public", "/a/\x7bid\x7d",
        [.subject "public", ⟨"id", .named "public"⟩, ⟨"body", .named "Gadget"⟩], "publicbyID"⟩] }

theorem publicSession_plain : publicSession.Plain where
  base := by decide
  descriptors := by
    have htypes : ∀ d ∈ publicSession.descriptors, ∀ p ∈ d.parameters,
        p.isBody = true → p.type = .named "Gadget" := by
      decide
    have hbare : ∀ d ∈ publicSession.descriptors, Bare d.subject.toList ∧ Bare d.endpoint.toList
        ∧ Bare d.setName.toList ∧ ∀ p ∈ d.parameters, Bare p.name.toList := by
      decide
    intro d hd
    obtain ⟨hsubject, hendpoint, hset, hnames⟩ := hbare d hd
    refine ⟨hsubject, hendpoint, hset, hnames, ?_⟩
    intro p hp hbody token htoken
    obtain rfl := ParameterType.named.inj ((htypes d hd p hp hbody).symm.trans htoken)
    decide
  declarations := by
    intro d hd
    rcases List.mem_cons.mp hd with rfl | hd
    · exact Enumeration.Plain.mk (by decide) (by decide)
    · obtain rfl := List.mem_singleton.mp hd
      exact Model.Plain.mk (by decide) (by decide)

/-- The types in the script of the session are those of its pieces, normalized: the
    property of a primitive type, the one of a built-in model, and the body of a model
    that the user passes through. -/
theorem script_publicSession :
    let c : Config := { Config.ofPrefix "X" with passthrough := ["Gadget"] }
    publicSession.Plain ∧ Bare c.cmdletPrefix.toList
      ∧ "class" ∉ c.passthrough ∧ "enum" ∉ c.passthrough
      ∧ publicSession.script c
        = moduleText ((publicSession.pieces "X").map (Piece.normalizeTypes c.typeTable))
      ∧ (publicSession.pieces "X").map (Piece.normalizeTypes c.typeTable)
        = [.declaration (.enum ⟨"Kind", ["public", "class"]⟩),
          .declaration (.model ⟨"public", [("on", "bool"), ("farm", "object"), ("kind", "Kind")]⟩),
          .function ⟨"New-Xpublic",
            [⟨"on", "bool", false, []⟩, ⟨"farm", "object", false, []⟩, ⟨"kind", "Kind", false, []⟩],
            .construct "public" ["on", "farm", "kind"]⟩,
          .function ⟨"Add-XPublic",
            [⟨"body", "object", true, []⟩, ⟨"id", "object", false, []⟩],
            .dispatch ⟨[⟨[.notNull "id"], ⟨"http://h/public/a/$($id)", "POST", true⟩⟩],
              some ⟨"http://h/public/a", "POST", true⟩⟩⟩] := by
  intro c
  have hpart : Bare c.cmdletPrefix.toList := by decide
  have hclass : "class" ∉ c.passthrough := by decide
  have henum : "enum" ∉ c.passthrough := by decide
  exact ⟨publicSession_plain, hpart, hclass, henum,
    script_eq_of_plain publicSession c publicSession_plain hpart hclass henum, by decide +kernel⟩

end SwaggerCmdlets
