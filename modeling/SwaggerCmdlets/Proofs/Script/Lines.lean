import SwaggerCmdlets.Proofs.Path.Segments
import SwaggerCmdlets.Proofs.Script.Sites
import SwaggerCmdlets.Script.ModuleText

/-! # Lines — what is emitted as a line is one

    Declarations and functions are emitted as lists of lines, and each of them is put
    together from fixed words and from texts of what is emitted.  If no such text has a
    line end, then no line has one (`Declaration.isLine_lines`, `Function.isLine_lines`),
    and none is empty: the first words of a line, or its indentation, are always there.

    Cutting the written text at its line ends gives the lines back (`splitText_unlines`). -/

namespace SwaggerCmdlets

open Text

variable {a b line sep : String} {ss : List String}

/-! ## Texts without a line end -/

/-- The text has no line end. -/
def Unbroken (s : String) : Prop := '\n' ∉ s.toList

instance : DecidablePred Unbroken := fun _ => inferInstanceAs (Decidable (¬ _))

@[simp] theorem unbroken_append_iff : Unbroken (a ++ b) ↔ Unbroken a ∧ Unbroken b := by
  simp [Unbroken]

theorem Unbroken.append (ha : Unbroken a) (hb : Unbroken b) : Unbroken (a ++ b) :=
  unbroken_append_iff.mpr ⟨ha, hb⟩

theorem unbroken_joinWith (hsep : Unbroken sep) (h : ∀ s ∈ ss, Unbroken s) :
    Unbroken (joinWith sep ss) := by
  fun_induction joinWith sep ss with
  | case1 => decide
  | case2 s => exact h s List.mem_cons_self
  | case3 s rest _ ih =>
      obtain ⟨hs, hrest⟩ := List.forall_mem_cons.mp h
      exact (hs.append hsep).append (ih hrest)

theorem unbroken_indent (n : Nat) : Unbroken (indent n line) ↔ Unbroken line := by
  have hblanks : Unbroken (String.join (List.replicate n step)) := by
    induction n with
    | zero => decide
    | succ n ih =>
        rw [List.replicate_succ, String.join_cons]
        exact Unbroken.append (by decide) ih
  rw [indent, unbroken_append_iff]
  exact and_iff_right hblanks

/-- The text is one line, and not an empty one. -/
structure IsLine (s : String) : Prop where
  filled : s ≠ ""
  unbroken : Unbroken s

instance : DecidablePred IsLine := fun _ =>
  decidable_of_iff (_ ≠ "" ∧ Unbroken _) ⟨fun h => ⟨h.1, h.2⟩, fun h => ⟨h.1, h.2⟩⟩

/-- An indented line is not empty. -/
theorem isLine_indent (n : Nat) (h : Unbroken line) : IsLine (indent (n + 1) line) where
  filled := by
    intro hempty
    have htext := congrArg String.toList hempty
    rw [indent, List.replicate_succ, String.join_cons] at htext
    simp [step] at htext
  unbroken := (unbroken_indent _).mpr h

theorem isLine_map_indent (n : Nat) (h : ∀ line ∈ ss, Unbroken line) :
    ∀ line ∈ ss.map (indent (n + 1)), IsLine line := by
  intro line hline
  obtain ⟨inner, hinner, rfl⟩ := List.mem_map.mp hline
  exact isLine_indent n (h inner hinner)

/-- A line that starts with a word is not empty. -/
theorem isLine_append (ha : IsLine a) (hb : Unbroken b) : IsLine (a ++ b) where
  filled := by
    intro hempty
    rw [String.append_eq_empty_iff] at hempty
    exact ha.filled hempty.1
  unbroken := ha.unbroken.append hb

/-! ## The texts of what is emitted -/

/-- The texts of a declared parameter. -/
def ScriptParameter.texts (p : ScriptParameter) : List String := p.name :: p.type :: p.sets

/-- The texts of a call. -/
def Call.texts (c : Call) : List String := [c.uri, c.method]

/-- The names that a branch tests, and the texts of its call. -/
def Branch.texts (b : Branch) : List String := b.conditions.map Condition.name ++ b.call.texts

/-- The texts of the branches and of the default. -/
def Dispatch.texts (d : Dispatch) : List String :=
  d.branches.flatMap Branch.texts ++ d.default.toList.flatMap Call.texts

/-- The texts of a body. -/
def Body.texts : Body → List String
  | .call c => c.texts
  | .dispatch d => d.texts
  | .construct typeName fields => typeName :: fields

/-- The texts of a function. -/
def Function.texts (f : Function) : List String :=
  f.name :: (f.params.flatMap ScriptParameter.texts ++ f.body.texts)

/-- The texts of a class. -/
def Model.texts (m : Model) : List String :=
  m.name :: m.properties.flatMap fun (name, type) => [name, type]

/-- The texts of an enumeration. -/
def Enumeration.texts (e : Enumeration) : List String := e.name :: e.values

/-- The texts of a declaration. -/
def Declaration.texts : Declaration → List String
  | model m => m.texts
  | enum e => e.texts

/-! ## Lines of functions -/

theorem Call.unbroken_line {c : Call} (h : ∀ t ∈ c.texts, Unbroken t) : Unbroken c.line := by
  have huri : Unbroken c.uri := h _ List.mem_cons_self
  have hmethod : Unbroken c.method := h _ (List.mem_cons_of_mem _ List.mem_cons_self)
  have hstart : Unbroken "$response = Invoke-RestMethod -Uri \"" := by decide +kernel
  have hbetween : Unbroken "\" -Method " := by decide +kernel
  have htype : Unbroken
      " -ContentType 'application/json' -Headers @\x7baccept=\"Application/JSON\";" := by
    decide +kernel
  have htoken : Unbroken "Authorization=\"Token\" + $global:AuthToken.Token\x7d" := by
    decide +kernel
  have hbody : Unbroken (if c.sendsBody then " -Body $($body | ConvertTo-JSON)" else "") := by
    cases c.sendsBody with
    | true => exact (by decide +kernel : Unbroken " -Body $($body | ConvertTo-JSON)")
    | false => exact (by decide +kernel : Unbroken "")
  exact (((((hstart.append huri).append hbetween).append hmethod).append htype).append
    htoken).append hbody

theorem Condition.unbroken_text {c : Condition} (h : Unbroken c.name) : Unbroken c.text := by
  cases c with
  | notNull name =>
      have hname : Unbroken name := h
      simp +decide [Condition.text, hname]
  | present name =>
      have hname : Unbroken name := h
      simp +decide [Condition.text, hname]

theorem Branch.unbroken_test {b : Branch} (h : ∀ t ∈ b.texts, Unbroken t) : Unbroken b.test := by
  refine unbroken_joinWith (by decide) ?_
  intro s hs
  obtain ⟨c, hc, rfl⟩ := List.mem_map.mp hs
  exact Condition.unbroken_text (h _ (List.mem_append_left _ (List.mem_map_of_mem hc)))

theorem Dispatch.unbroken_block {c : Call} (h : ∀ t ∈ c.texts, Unbroken t) :
    ∀ line ∈ block c, Unbroken line := by
  have hstep : Unbroken (step ++ c.line) :=
    Unbroken.append (by decide) (Call.unbroken_line h)
  simp +decide [block, hstep]

/-- Behind its keyword, a branch has one line for its tests and three for its call. -/
theorem Branch.unbroken_lines {b : Branch} {keyword : String} (h : ∀ t ∈ b.texts, Unbroken t)
    (hkeyword : Unbroken keyword) :
    ∀ line ∈ (keyword ++ b.test ++ ")") :: Dispatch.block b.call, Unbroken line := by
  have htest := Branch.unbroken_test h
  have hclose : Unbroken ")" := by decide
  refine List.forall_mem_cons.mpr ⟨?_, ?_⟩
  · exact (hkeyword.append htest).append hclose
  · exact Dispatch.unbroken_block fun t ht => h t (List.mem_append_right _ ht)

theorem Dispatch.unbroken_lines {d : Dispatch} (h : ∀ t ∈ d.texts, Unbroken t) :
    ∀ line ∈ d.lines, Unbroken line := by
  obtain ⟨branches, default⟩ := d
  obtain ⟨hbranches, hdefault⟩ := List.forall_mem_append.mp h
  have hbranch : ∀ b ∈ branches, ∀ t ∈ b.texts, Unbroken t :=
    fun b hb t ht => hbranches t (List.mem_flatMap.mpr ⟨b, hb, ht⟩)
  have hcall : ∀ c ∈ default, ∀ t ∈ c.texts, Unbroken t :=
    fun c hc t ht => hdefault t (List.mem_flatMap.mpr ⟨c, Option.mem_toList.mpr hc, ht⟩)
  cases branches with
  | nil =>
      -- without branches the default is a line of its own
      intro line hline
      obtain ⟨c, hc, rfl⟩ := List.mem_map.mp hline
      exact Call.unbroken_line (hcall c (Option.mem_toList.mp hc))
  | cons first later =>
      obtain ⟨hfirst, hlater⟩ := List.forall_mem_cons.mp hbranch
      refine List.forall_mem_append.mpr ⟨List.forall_mem_append.mpr ⟨?_, ?_⟩, ?_⟩
      · exact first.unbroken_lines hfirst (by decide)
      · intro line hline
        obtain ⟨b, hb, hline⟩ := List.mem_flatMap.mp hline
        exact b.unbroken_lines (hlater b hb) (by decide) line hline
      · cases default with
        | none => exact List.forall_mem_nil _
        | some c =>
            exact List.forall_mem_cons.mpr ⟨by decide, Dispatch.unbroken_block (hcall c rfl)⟩

theorem Body.unbroken_lines {b : Body} (h : ∀ t ∈ b.texts, Unbroken t) :
    ∀ line ∈ b.lines, Unbroken line := by
  cases b with
  | call c =>
      have hline := Call.unbroken_line h
      simp +decide [Body.lines, hline]
  | dispatch d =>
      have hresponse : ∀ line ∈ ["$response"], Unbroken line := by decide
      exact List.forall_mem_append.mpr ⟨Dispatch.unbroken_lines h, hresponse⟩
  | construct typeName fields =>
      obtain ⟨htype, hfields⟩ := List.forall_mem_cons.mp h
      simp +decide [Body.lines, or_imp, forall_and, htype]
      exact hfields

theorem ScriptParameter.unbroken_lines {p : ScriptParameter} (h : ∀ t ∈ p.texts, Unbroken t) :
    ∀ line ∈ p.lines, Unbroken line := by
  obtain ⟨hname, htype, hsets⟩ :
      Unbroken p.name ∧ Unbroken p.type ∧ ∀ set ∈ p.sets, Unbroken set := by
    simpa [ScriptParameter.texts] using h
  refine List.forall_mem_append.mpr ⟨List.forall_mem_append.mpr ⟨?_, ?_⟩, ?_⟩
  · split
    · decide
    · exact List.forall_mem_nil _
  · intro line hline
    obtain ⟨set, hset, rfl⟩ := List.mem_map.mp hline
    have hset := hsets set hset
    simp +decide [hset]
  · simp +decide [hname, htype]

theorem ScriptParameter.unbroken_listLines {ps : List ScriptParameter}
    (h : ∀ p ∈ ps, ∀ t ∈ p.texts, Unbroken t) : ∀ line ∈ listLines ps, Unbroken line := by
  fun_induction listLines ps with
  | case1 => exact List.forall_mem_nil _
  | case2 p => exact ScriptParameter.unbroken_lines (h p List.mem_cons_self)
  | case3 p ps _ ih =>
      obtain ⟨hp, hps⟩ := List.forall_mem_cons.mp h
      have hlines := ScriptParameter.unbroken_lines hp
      refine List.forall_mem_append.mpr ⟨List.forall_mem_append.mpr ⟨?_, ?_⟩, ih hps⟩
      · exact fun line hline => hlines line (List.mem_of_mem_dropLast hline)
      · rw [List.forall_mem_singleton, unbroken_append_iff, List.getLastD_eq_getLast?]
        refine ⟨?_, by decide⟩
        cases hlast : p.lines.getLast? with
        | none => exact (by decide : Unbroken "")
        | some line => exact hlines line (List.mem_of_getLast? hlast)

/-- The lines of a function whose texts have no line ends are lines. -/
theorem Function.isLine_lines {f : Function} (h : ∀ t ∈ f.texts, Unbroken t) :
    ∀ line ∈ f.lines, IsLine line := by
  obtain ⟨hname, hrest⟩ := List.forall_mem_cons.mp h
  obtain ⟨hparams, hbody⟩ := List.forall_mem_append.mp hrest
  have hheader : IsLine ("function " ++ f.name) := isLine_append (by decide) hname
  have hlist := ScriptParameter.unbroken_listLines
    fun p hp t ht => hparams t (List.mem_flatMap.mpr ⟨p, hp, ht⟩)
  have hopened : ∀ line ∈ ["\x7b", indent 1 "param("], IsLine line := by decide
  have hbegin : ∀ line ∈ [indent 1 ")", indent 1 "Begin", indent 1 "\x7b"], IsLine line := by decide
  have hclosed : ∀ line ∈ [indent 1 "\x7d", "\x7d"], IsLine line := by decide
  simp only [Function.lines, List.forall_mem_append]
  refine ⟨⟨⟨⟨?_, isLine_map_indent 1 hlist⟩, hbegin⟩, ?_⟩, hclosed⟩
  · exact List.forall_mem_cons.mpr ⟨hheader, hopened⟩
  · exact isLine_map_indent 1 (Body.unbroken_lines hbody)

/-! ## Lines of declarations -/

theorem isLine_typeLines (h : ∀ line ∈ ss, IsLine line) : ∀ line ∈ typeLines ss, IsLine line := by
  have hopened : IsLine "Add-Type -Language CSharp @\"" := by decide +kernel
  have hclosed : ∀ line ∈ ["\"@"], IsLine line := by decide
  exact List.forall_mem_cons.mpr ⟨hopened, List.forall_mem_append.mpr ⟨h, hclosed⟩⟩

theorem Enumeration.unbroken_valueLines {values : List String} (h : ∀ v ∈ values, Unbroken v) :
    ∀ line ∈ valueLines values, Unbroken line := by
  fun_induction valueLines values with
  | case1 => decide
  | case2 v => exact h
  | case3 v vs _ ih =>
      obtain ⟨hv, hvs⟩ := List.forall_mem_cons.mp h
      have hcomma : Unbroken (v ++ ",") := hv.append (by decide)
      exact List.forall_mem_cons.mpr ⟨hcomma, ih hvs⟩

theorem Model.isLine_lines {m : Model} (h : ∀ t ∈ m.texts, Unbroken t) :
    ∀ line ∈ m.lines, IsLine line := by
  obtain ⟨hname, hproperties⟩ := List.forall_mem_cons.mp h
  have hheader : Unbroken ("public class " ++ m.name ++ "\x7b") := by
    simp +decide [hname]
  have hclosed : IsLine (indent 1 "\x7d") := by decide
  refine isLine_typeLines ?_
  simp only [List.forall_mem_append, List.forall_mem_singleton]
  refine ⟨⟨isLine_indent 0 hheader, ?_⟩, hclosed⟩
  intro line hline
  obtain ⟨⟨name, type⟩, hproperty, rfl⟩ := List.mem_map.mp hline
  have htexts : ∀ t ∈ [name, type], Unbroken t :=
    fun t ht => hproperties t (List.mem_flatMap.mpr ⟨(name, type), hproperty, ht⟩)
  obtain ⟨hfirst, hsecond⟩ : Unbroken name ∧ Unbroken type := by simpa using htexts
  refine isLine_indent 1 ?_
  simp +decide [hfirst, hsecond]

theorem Enumeration.isLine_lines {e : Enumeration} (h : ∀ t ∈ e.texts, Unbroken t) :
    ∀ line ∈ e.lines, IsLine line := by
  obtain ⟨hname, hvalues⟩ := List.forall_mem_cons.mp h
  have hheader : Unbroken ("public enum " ++ e.name) := by
    simp +decide [hname]
  have hopened : IsLine (indent 1 "\x7b") := by decide
  have hclosed : IsLine (indent 1 "\x7d") := by decide
  refine isLine_typeLines ?_
  simp only [List.forall_mem_append, List.forall_mem_singleton]
  refine ⟨⟨?_, isLine_map_indent 1 (Enumeration.unbroken_valueLines hvalues)⟩, hclosed⟩
  exact List.forall_mem_cons.mpr ⟨isLine_indent 0 hheader, List.forall_mem_singleton.mpr hopened⟩

/-- The lines of a declaration whose texts have no line ends are lines. -/
theorem Declaration.isLine_lines {d : Declaration} (h : ∀ t ∈ d.texts, Unbroken t) :
    ∀ line ∈ d.lines, IsLine line := by
  cases d with
  | model m => exact Model.isLine_lines h
  | enum e => exact Enumeration.isLine_lines h

/-! ## Lines of texts -/

theorem pieces_of_not_mem {sep : Char} {cs : List Char} (h : sep ∉ cs) : pieces sep cs = [cs] := by
  induction cs with
  | nil => rfl
  | cons c cs ih =>
      rw [List.mem_cons, not_or] at h
      exact pieces_cons_of_ne (Ne.symm h.1) (ih h.2)

/-- Cutting a text that was written line by line gives its lines back, and the nothing
    behind the last line end. -/
theorem splitText_unlines {lines : List String} (h : ∀ line ∈ lines, Unbroken line) :
    splitText '\n' (unlines lines) = lines ++ [""] := by
  induction lines with
  | nil => rfl
  | cons line lines ih =>
      obtain ⟨hline, hlines⟩ := List.forall_mem_cons.mp h
      have hfirst : pieces '\n' line.toList = [] ++ [line.toList] := pieces_of_not_mem hline
      have hend := pieces_cons_self '\n' (unlines lines).toList
      have hpieces : pieces '\n' (unlines (line :: lines)).toList
          = line.toList :: pieces '\n' (unlines lines).toList := by
        have happend := pieces_append hfirst hend
        rw [TypeUse.unlines_cons, String.toList_append, String.toList_append]
        simpa using happend
      rw [splitText, hpieces, List.map_cons, String.ofList_toList]
      exact congrArg (line :: ·) (ih hlines)

end SwaggerCmdlets
