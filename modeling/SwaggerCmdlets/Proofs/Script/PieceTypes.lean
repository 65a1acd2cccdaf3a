import SwaggerCmdlets.Command.Action
import SwaggerCmdlets.Proofs.Script.Sites
import SwaggerCmdlets.Proofs.Script.Tokens
import SwaggerCmdlets.Script.ModuleText

/-! # Types of pieces — what the pass does to what is emitted

    The pass over a script knows nothing of pieces.  But in the text of a plain
    piece, whose names show neither brackets nor blanks, annotations stand only
    where types do: at the parameters of functions and at the properties of
    classes.  The two headers that look like declarations, of classes and of
    enumerations, keep their word.

    So the pass does to the text what the normalization of types does to the
    piece (`Piece.Plain.normalize_text`), and to a row of pieces likewise
    (`normalize_moduleText`). -/

namespace SwaggerCmdlets

open Text TypeUse

variable {table : TypeTable}

/-! ## Types of pieces, normalized -/

/-- The parameter with its type normalized. -/
def ScriptParameter.normalizeTypes (table : TypeTable) (p : ScriptParameter) : ScriptParameter :=
  { p with type := table.normalize p.type }

/-- The function with the types of its parameters normalized. -/
def Function.normalizeTypes (table : TypeTable) (f : Function) : Function :=
  { f with params := f.params.map (ScriptParameter.normalizeTypes table) }

/-- The class with the types of its properties normalized. -/
def Model.normalizeTypes (table : TypeTable) (m : Model) : Model :=
  { m with properties := m.properties.map fun (name, type) => (name, table.normalize type) }

/-- The declaration with the types of properties normalized. -/
def Declaration.normalizeTypes (table : TypeTable) : Declaration → Declaration
  | model m => model (m.normalizeTypes table)
  | enum e => enum e

/-- The piece with the types of parameters and properties normalized. -/
def Piece.normalizeTypes (table : TypeTable) : Piece → Piece
  | declaration d => declaration (d.normalizeTypes table)
  | function f => function (f.normalizeTypes table)
  | condition c => condition c
  | call c => call c

/-! ## Plain pieces -/

/-- The names are bare, and the type is an identifier. -/
structure ScriptParameter.Plain (p : ScriptParameter) : Prop where
  name : Bare p.name.toList
  type : isIdent p.type.toList = true
  sets : ∀ set ∈ p.sets, Bare set.toList

/-- The address is bare, and the method that of an action. -/
structure Call.Plain (c : Call) : Prop where
  uri : Bare c.uri.toList
  method : ∃ a : Action, c.method = a.method

/-- The calls are plain, and the tested names bare. -/
structure Branch.Plain (b : Branch) : Prop where
  names : ∀ c ∈ b.conditions, Bare c.name.toList
  call : b.call.Plain

/-- What is called is plain. -/
structure Dispatch.Plain (d : Dispatch) : Prop where
  branches : ∀ b ∈ d.branches, b.Plain
  default : ∀ c ∈ d.default, c.Plain

/-- The calls are plain and the names bare. -/
def Body.Plain : Body → Prop
  | .call c => c.Plain
  | .dispatch d => d.Plain
  | .construct typeName fields => Bare typeName.toList ∧ ∀ f ∈ fields, Bare f.toList

/-- The name is bare, and parameters and body are plain. -/
structure Function.Plain (f : Function) : Prop where
  name : Bare f.name.toList
  params : ∀ p ∈ f.params, p.Plain
  body : f.body.Plain

/-- The names are bare, and the types identifiers. -/
structure Model.Plain (m : Model) : Prop where
  name : Bare m.name.toList
  properties : ∀ p ∈ m.properties, Bare p.1.toList ∧ isIdent p.2.toList = true

/-- Name and values are bare. -/
structure Enumeration.Plain (e : Enumeration) : Prop where
  name : Bare e.name.toList
  values : ∀ v ∈ e.values, Bare v.toList

/-- The names are bare, and the types identifiers. -/
def Declaration.Plain : Declaration → Prop
  | model m => m.Plain
  | enum e => e.Plain

/-- The names are bare, and the types identifiers. -/
def Piece.Plain : Piece → Prop
  | declaration d => d.Plain
  | function f => f.Plain
  | condition c => Bare c.name.toList
  | call c => c.Plain

/-! ## Calm lines -/

namespace TypeUse

variable {R : Char → Char → Prop} {a b : List Char}

instance (cs : List Char) : Decidable (Bare cs) :=
  decidable_of_iff ('[' ∉ cs ∧ ' ' ∉ cs) ⟨fun h => ⟨h.1, h.2⟩, fun h => ⟨h.1, h.2⟩⟩

instance [DecidableRel R] (cs : List Char) : Decidable (Calm R cs) :=
  decidable_of_iff ('[' ∉ cs ∧ cs.IsChain R) ⟨fun h => ⟨h.1, h.2⟩, fun h => ⟨h.1, h.2⟩⟩

theorem Bare.of_subset (ha : Bare a) (h : b ⊆ a) : Bare b :=
  ⟨fun hm => ha.unbracketed (h hm), fun hm => ha.unparted (h hm)⟩

theorem Bare.append (ha : Bare a) (hb : Bare b) : Bare (a ++ b) where
  unbracketed := by simp [ha.unbracketed, hb.unbracketed]
  unparted := by simp [ha.unparted, hb.unparted]

/-- Calm texts are put together where the relation holds. -/
theorem Calm.join (ha : Calm R a) (hb : Calm R b)
    (h : ∀ x ∈ a.getLast?, ∀ y ∈ b.head?, R x y) : Calm R (a ++ b) where
  unbracketed := by simp [ha.unbracketed, hb.unbracketed]
  chain := List.isChain_append.mpr ⟨ha.chain, hb.chain, h⟩

/-- Calm texts are put together where the first does not end with a `c` or the second
    does not start with a blank. -/
theorem Calm.append (ha : Calm NotAfterC a) (hb : Calm NotAfterC b)
    (h : a.getLast? ≠ some 'c' ∨ b.head? ≠ some ' ') : Calm NotAfterC (a ++ b) := by
  refine ha.join hb ?_
  rintro x hx y hy rfl rfl
  exact h.elim (· hx) (· hy)

/-- Calm texts are put together where the first does not end with a blank or the second
    does not start with a token. -/
theorem Calm.append_token (ha : Calm NotBeforeToken a) (hb : Calm NotBeforeToken b)
    (h : a.getLast? ≠ some ' ' ∨ b.head?.any isIdentStart = false) :
    Calm NotBeforeToken (a ++ b) := by
  refine ha.join hb ?_
  rintro x hx y hy rfl
  refine h.elim (absurd hx) fun hhead => ?_
  rw [Option.mem_def.mp hy] at hhead
  exact hhead

theorem Calm.append_bare (ha : Calm NotAfterC a) (hb : Bare b) : Calm NotAfterC (a ++ b) := by
  refine ha.append (hb.calm parts_notAfterC) (Or.inr fun hhead => ?_)
  exact hb.unparted (List.mem_of_mem_head? hhead)

theorem calm_ofList (h : Calm R a) : Calm R (String.ofList a).toList := by
  rw [String.toList_ofList]
  exact h

/-- A literal is put behind a calm text. -/
theorem Calm.append_ofList (ha : Calm NotAfterC a) (hb : Calm NotAfterC b)
    (h : a.getLast? ≠ some 'c' ∨ b.head? ≠ some ' ') :
    Calm NotAfterC (a ++ (String.ofList b).toList) := by
  rw [String.toList_ofList]
  exact ha.append hb h

/-- A bare name stands between calm literals. -/
theorem Bare.calm_between (h : Bare b) {start stop : List Char} (hstart : Calm NotAfterC start)
    (hstop : Calm NotAfterC stop) (hhead : stop.head? ≠ some ' ') :
    Calm NotAfterC ((String.ofList start).toList ++ b ++ (String.ofList stop).toList) :=
  Calm.append_ofList (Calm.append_bare (calm_ofList hstart) h) hstop (Or.inr hhead)

theorem getLast?_append_ofList {c : Char} (h : b.getLast? = some c) :
    (a ++ (String.ofList b).toList).getLast? = some c := by
  rw [String.toList_ofList, List.getLast?_append, h]
  rfl

end TypeUse

theorem normalize_calm {text : String} (h : Calm NotAfterC text.toList) :
    TypeUse.normalize table text = text :=
  normalize_of_calm parts_notAfterC h

theorem normalize_literal {cs : List Char} (h : Calm NotAfterC cs) :
    TypeUse.normalize table (String.ofList cs) = String.ofList cs :=
  normalize_calm (calm_ofList h)

theorem normalize_openBrace : TypeUse.normalize table "\x7b" = "\x7b" :=
  normalize_literal (by decide)

theorem normalize_closeBrace : TypeUse.normalize table "\x7d" = "\x7d" :=
  normalize_literal (by decide)

/-- The line of a plain call is calm. -/
theorem Call.Plain.line_calm {c : Call} (h : c.Plain) : Calm NotAfterC c.line.toList := by
  obtain ⟨uri, method, sendsBody⟩ := c
  obtain ⟨huri, a, rfl⟩ := h
  have hmethod : Bare a.method.toList := by cases a <;> decide
  have hlast : ∀ cs : List Char, (cs ++ a.method.toList).getLast? ≠ some 'c' := by
    intro cs
    cases a <;> simp [Action.method]
  unfold Call.line
  simp only [String.toList_append]
  refine Calm.append ?call ?body (Or.inl ?token)
  case call =>
    refine Calm.append_ofList ?_ (by decide +kernel) (Or.inr (by decide))
    refine Calm.append_ofList ?_ (by decide +kernel) (Or.inl (hlast _))
    refine Calm.append_bare ?_ hmethod
    refine Calm.append_ofList ?_ (by decide) (Or.inr (by decide))
    exact Calm.append_bare (calm_ofList (by decide)) huri
  case body =>
    split
    · exact calm_ofList (by decide)
    · exact calm_ofList (by decide)
  case token => exact ne_of_eq_of_ne (getLast?_append_ofList rfl) (by decide)

/-- The test of a bare name is calm and stands in brackets. -/
theorem Condition.text_calm {c : Condition} (h : Bare c.name.toList) :
    Calm NotAfterC c.text.toList ∧ c.text.toList.head? = some '('
      ∧ c.text.toList.getLast? = some ')' := by
  cases c with
  | notNull name =>
      unfold Condition.text
      simp only [String.toList_append]
      exact ⟨h.calm_between (by decide) (by decide) (by decide), rfl, getLast?_append_ofList rfl⟩
  | present name =>
      unfold Condition.text
      simp only [String.toList_append]
      exact ⟨h.calm_between (by decide) (by decide) (by decide), rfl, getLast?_append_ofList rfl⟩

/-- A row of tests is calm. -/
theorem Branch.Plain.test_calm {b : Branch} (h : b.Plain) : Calm NotAfterC b.test.toList := by
  have hjoined : ∀ cs : List Condition, (∀ c ∈ cs, Bare c.name.toList) →
      Calm NotAfterC (joinWith " -and " (cs.map Condition.text)).toList
        ∧ (joinWith " -and " (cs.map Condition.text)).toList.head? ≠ some ' ' := by
    intro cs hcs
    induction cs with
    | nil => exact ⟨calm_ofList (by decide), by decide⟩
    | cons c cs ih =>
        obtain ⟨hc, hcs⟩ := List.forall_mem_cons.mp hcs
        obtain ⟨hcalm, hhead, hlast⟩ := Condition.text_calm hc
        cases cs with
        | nil => exact ⟨hcalm, ne_of_eq_of_ne hhead (by decide)⟩
        | cons d ds =>
            obtain ⟨hrest, hstart⟩ := ih hcs
            have hjoin : joinWith " -and " ((c :: d :: ds).map Condition.text)
                = c.text ++ " -and " ++ joinWith " -and " ((d :: ds).map Condition.text) := rfl
            rw [hjoin, String.toList_append, String.toList_append]
            have hand : Calm NotAfterC (c.text.toList ++ " -and ".toList) := by
              refine hcalm.append_ofList (by decide) (Or.inl ?_)
              exact ne_of_eq_of_ne hlast (by decide)
            refine ⟨hand.append hrest (Or.inr hstart), ?_⟩
            rw [List.append_assoc, List.head?_append, hhead, Option.some_or]
            decide
  exact (hjoined b.conditions h.names).1

/-! ## Lines that the pass leaves alone -/

/-- The pass leaves the lines alone. -/
def Kept (table : TypeTable) (lines : List String) : Prop :=
  ∀ line ∈ lines, TypeUse.normalize table line = line

theorem Kept.map_eq {lines : List String} (h : Kept table lines) :
    lines.map (TypeUse.normalize table) = lines :=
  (List.map_congr_left h).trans (List.map_id lines)

theorem Call.Plain.block_kept {c : Call} (h : c.Plain) : Kept table (Dispatch.block c) := by
  refine List.forall_mem_cons.mpr ⟨normalize_literal (by decide), ?_⟩
  refine List.forall_mem_cons.mpr ⟨normalize_calm ?_, ?_⟩
  · rw [String.toList_append]
    exact Calm.append (calm_ofList (by decide)) h.line_calm (Or.inl (by decide))
  · exact List.forall_mem_singleton.mpr (normalize_literal (by decide))

/-- A branch is kept behind a keyword that opens a bracket. -/
theorem Branch.Plain.lines_kept {b : Branch} (h : b.Plain) {keyword : String}
    (hcalm : Calm NotAfterC keyword.toList) (hlast : keyword.toList.getLast? = some '(') :
    Kept table ((keyword ++ b.test ++ ")") :: Dispatch.block b.call) := by
  refine List.forall_mem_cons.mpr ⟨normalize_calm ?_, h.call.block_kept⟩
  simp only [String.toList_append]
  refine Calm.append_ofList ?_ (by decide) (Or.inr (by decide))
  exact hcalm.append h.test_calm (Or.inl (ne_of_eq_of_ne hlast (by decide)))

theorem Dispatch.Plain.lines_kept {d : Dispatch} (h : d.Plain) : Kept table d.lines := by
  obtain ⟨branches, default⟩ := d
  cases branches with
  | nil =>
      intro line hline
      obtain ⟨c, hc, rfl⟩ := List.mem_map.mp hline
      exact normalize_calm (h.default c (Option.mem_toList.mp hc)).line_calm
  | cons first later =>
      obtain ⟨hfirst, hlater⟩ := List.forall_mem_cons.mp h.branches
      have hfirst' : Kept table (("if (" ++ first.test ++ ")") :: Dispatch.block first.call) :=
        hfirst.lines_kept (calm_ofList (by decide)) (by decide)
      have hlater' : Kept table (Dispatch.laterLines later) := by
        intro line hline
        obtain ⟨b, hb, hline⟩ := List.mem_flatMap.mp hline
        exact (hlater b hb).lines_kept (calm_ofList (by decide)) (by decide) line hline
      refine List.forall_mem_append.mpr ⟨List.forall_mem_append.mpr ⟨hfirst', hlater'⟩, ?_⟩
      cases default with
      | none => exact List.forall_mem_nil _
      | some c =>
          refine List.forall_mem_cons.mpr ⟨normalize_literal (by decide), ?_⟩
          exact (h.default c rfl).block_kept

/-- A property is set in a line with blanks around its sign, and no token stands
    behind them. -/
theorem normalize_setField {field : String} (h : Bare field.toList) :
    TypeUse.normalize table ("$obj." ++ field ++ " = $" ++ field ++ ";")
      = "$obj." ++ field ++ " = $" ++ field ++ ";" := by
  refine normalize_of_calm parts_notBeforeToken ?_
  have hfield := h.calm parts_notBeforeToken
  simp only [String.toList_append]
  refine Calm.append_token ?_ (calm_ofList (by decide)) (Or.inr (by decide))
  refine Calm.append_token ?_ hfield (Or.inl ?_)
  · refine Calm.append_token ?_ (calm_ofList (by decide)) (Or.inr (by decide))
    exact Calm.append_token (calm_ofList (by decide)) hfield (Or.inl (by decide))
  · exact ne_of_eq_of_ne (getLast?_append_ofList rfl) (by decide)

/-- The pass leaves the lines of plain bodies alone. -/
theorem Body.Plain.lines_kept {b : Body} (h : b.Plain) : Kept table b.lines := by
  have hresponse : Kept table ["$response"] :=
    List.forall_mem_singleton.mpr (normalize_literal (by decide))
  cases b with
  | call c => exact List.forall_mem_cons.mpr ⟨normalize_calm h.line_calm, hresponse⟩
  | dispatch d => exact List.forall_mem_append.mpr ⟨Dispatch.Plain.lines_kept h, hresponse⟩
  | construct typeName fields =>
      obtain ⟨htype, hfields⟩ := h
      have hfields' : Kept table (fields.map fun f => "$obj." ++ f ++ " = $" ++ f ++ ";") := by
        intro line hline
        obtain ⟨f, hf, rfl⟩ := List.mem_map.mp hline
        exact normalize_setField (hfields f hf)
      refine List.forall_mem_cons.mpr ⟨normalize_calm ?_, ?_⟩
      · simp only [String.toList_append]
        exact htype.calm_between (by decide) (by decide) (by decide)
      · have hobject : Kept table ["$obj"] :=
          List.forall_mem_singleton.mpr (normalize_literal (by decide))
        exact List.forall_mem_append.mpr ⟨hfields', hobject⟩

/-! ## Lines with types -/

/-- The attribute lines of a parameter. -/
def ScriptParameter.attributes (p : ScriptParameter) : List String :=
  (if p.mandatory then ["[Parameter(Mandatory=$true)]"] else [])
    ++ p.sets.map (fun set => "[Parameter(ParameterSetName='" ++ set ++ "')]")

/-- The line of a parameter that holds type and name. -/
def ScriptParameter.typed (p : ScriptParameter) : String := "[" ++ p.type ++ "]$" ++ p.name

theorem ScriptParameter.lines_eq (p : ScriptParameter) : p.lines = p.attributes ++ [p.typed] := rfl

/-- An attribute is no annotation, since its bracket closes behind another one. -/
theorem normalize_attribute {text : String} (h : Calm NotAfterC text.toList) :
    TypeUse.normalize table ("[Parameter(" ++ text) = "[Parameter(" ++ text := by
  have hsite : site? none ('[' :: ("Parameter(".toList ++ text.toList)) = none := rfl
  have hrest : Calm NotAfterC ("Parameter(".toList ++ text.toList) :=
    Calm.append (calm_ofList (by decide)) h (Or.inl (by decide))
  apply String.toList_inj.mp
  simp only [TypeUse.normalize, String.toList_append, String.toList_ofList]
  show replaceTokens _ none ('[' :: ("Parameter(".toList ++ text.toList)) = _
  rw [replaceTokens_cons hsite, hrest.replaceTokens_eq parts_notAfterC]
  rfl

theorem ScriptParameter.Plain.attributes_kept {p : ScriptParameter} (h : p.Plain) :
    Kept table p.attributes := by
  refine List.forall_mem_append.mpr ⟨?_, ?_⟩
  · split
    · have hattribute : TypeUse.normalize table ("[Parameter(" ++ "Mandatory=$true)]") = _ :=
        normalize_attribute (calm_ofList (by decide))
      exact List.forall_mem_singleton.mpr hattribute
    · exact List.forall_mem_nil _
  · intro line hline
    obtain ⟨set, hset, rfl⟩ := List.mem_map.mp hline
    have hsplit : "[Parameter(ParameterSetName='" ++ set ++ "')]"
        = "[Parameter(" ++ ("ParameterSetName='" ++ set ++ "')]") := by
      apply String.toList_inj.mp
      simp
    rw [hsplit]
    refine normalize_attribute ?_
    simp only [String.toList_append]
    exact (h.sets set hset).calm_between (by decide) (by decide) (by decide)

/-- The type of a parameter is normalized, whatever calm text follows the name. -/
theorem ScriptParameter.Plain.normalize_typed {p : ScriptParameter} (h : p.Plain) {text : String}
    (htext : Bare text.toList) :
    TypeUse.normalize table (p.typed ++ text) = (p.normalizeTypes table).typed ++ text := by
  have hsplit : ∀ type, "[" ++ type ++ "]$" ++ p.name ++ text
      = "[" ++ type ++ "]" ++ ("$" ++ p.name ++ text) := by
    intro type
    apply String.toList_inj.mp
    simp
  show TypeUse.normalize table ("[" ++ p.type ++ "]$" ++ p.name ++ text)
    = "[" ++ table.normalize p.type ++ "]$" ++ p.name ++ text
  rw [hsplit, hsplit]
  refine normalize_bracket parts_notAfterC h.type ?_
  simp only [String.toList_append]
  exact Calm.append_bare (Calm.append_bare (calm_ofList (by decide)) h.name) htext

/-- The lines of parameters are normalized one by one, each with its comma. -/
theorem normalize_listLines {ps : List ScriptParameter} (h : ∀ p ∈ ps, p.Plain) :
    (ScriptParameter.listLines ps).map (TypeUse.normalize table)
      = ScriptParameter.listLines (ps.map (ScriptParameter.normalizeTypes table)) := by
  have hcomma : ∀ (p q : ScriptParameter) (ps : List ScriptParameter),
      ScriptParameter.listLines (p :: q :: ps)
        = p.attributes ++ [p.typed ++ ","] ++ ScriptParameter.listLines (q :: ps) := by
    intro p q ps
    rw [ScriptParameter.listLines, ScriptParameter.lines_eq, List.dropLast_concat,
      List.getLastD_concat]
    exact fun h => nomatch h
  induction ps with
  | nil => rfl
  | cons p ps ih =>
      obtain ⟨hp, hps⟩ := List.forall_mem_cons.mp h
      cases ps with
      | nil =>
          have htyped : TypeUse.normalize table (p.typed ++ "")
              = (p.normalizeTypes table).typed ++ "" := hp.normalize_typed (by decide)
          rw [String.append_empty, String.append_empty] at htyped
          show (p.attributes ++ [p.typed]).map (TypeUse.normalize table)
            = p.attributes ++ [(p.normalizeTypes table).typed]
          rw [List.map_append, hp.attributes_kept.map_eq, List.map_singleton, htyped]
      | cons q qs =>
          have htyped : TypeUse.normalize table (p.typed ++ ",")
              = (p.normalizeTypes table).typed ++ "," := hp.normalize_typed (by decide)
          rw [List.map_cons, List.map_cons, hcomma, hcomma, List.map_append, ih hps,
            List.map_append, hp.attributes_kept.map_eq, List.map_singleton, htyped]
          rfl

/-! ## Pieces -/

/-- The words of the headers of classes and enumerations are not passed through. -/
structure TypeTable.KeepsHeaders (table : TypeTable) : Prop where
  class_notMem : "class" ∉ table.passthrough
  enum_notMem : "enum" ∉ table.passthrough

theorem TypeTable.KeepsHeaders.normalize_class (h : table.KeepsHeaders) :
    table.normalize "class" = "class" :=
  normalize_unlisted h.class_notMem (by decide) rfl

theorem TypeTable.KeepsHeaders.normalize_enum (h : table.KeepsHeaders) :
    table.normalize "enum" = "enum" :=
  normalize_unlisted h.enum_notMem (by decide) rfl

theorem map_normalize_indent (n : Nat) (lines : List String) :
    (lines.map (indent n)).map (TypeUse.normalize table)
      = (lines.map (TypeUse.normalize table)).map (indent n) := by
  rw [List.map_map, List.map_map]
  exact List.map_congr_left fun line _ => normalize_indent n line

/-- In the text of a plain function, the types of its parameters are normalized. -/
theorem Function.Plain.normalize_text {f : Function} (h : f.Plain) :
    TypeUse.normalize table f.text = (f.normalizeTypes table).text := by
  have hname : TypeUse.normalize table ("function " ++ f.name) = "function " ++ f.name := by
    refine normalize_calm ?_
    rw [String.toList_append]
    exact Calm.append_bare (calm_ofList (by decide)) h.name
  have hparam : TypeUse.normalize table "param(" = "param(" := normalize_literal (by decide)
  have hend : TypeUse.normalize table ")" = ")" := normalize_literal (by decide)
  have hbegin : TypeUse.normalize table "Begin" = "Begin" := normalize_literal (by decide)
  rw [Function.text, normalize_unlines]
  refine congrArg unlines ?_
  simp only [Function.lines, List.map_append, List.map_cons, List.map_nil, normalize_indent,
    map_normalize_indent, hname, normalize_listLines h.params, h.body.lines_kept.map_eq,
    normalize_openBrace, normalize_closeBrace, hparam, hend, hbegin]
  rfl

/-- The lines around a type definition are kept. -/
theorem map_normalize_typeLines (inner : List String) :
    (typeLines inner).map (TypeUse.normalize table)
      = typeLines (inner.map (TypeUse.normalize table)) := by
  have hopen : TypeUse.normalize table "Add-Type -Language CSharp @\""
      = "Add-Type -Language CSharp @\"" :=
    normalize_literal (by decide)
  have hclose : TypeUse.normalize table "\"@" = "\"@" := normalize_literal (by decide)
  simp only [typeLines, List.map_append, List.map_cons, List.map_nil, hopen, hclose]

/-- A header keeps its word where the word keeps its type. -/
theorem normalize_header {word name text : String} (hword : isIdent word.toList = true)
    (hkept : table.normalize word = word) (hname : Bare name.toList)
    (htext : Calm NotAfterC text.toList) (hhead : text.toList.head? ≠ some ' ') :
    TypeUse.normalize table ("public " ++ word ++ " " ++ (name ++ text))
      = "public " ++ word ++ " " ++ (name ++ text) := by
  have hcalm : Calm NotAfterC (name ++ text).toList := by
    rw [String.toList_append]
    exact (hname.calm parts_notAfterC).append htext (Or.inr hhead)
  rw [normalize_declaration parts_notAfterC hword hcalm, hkept]

/-- In the lines of a plain class, the types of its properties are normalized. -/
theorem Model.Plain.map_normalize_lines {m : Model} (h : m.Plain) (htable : table.KeepsHeaders) :
    m.lines.map (TypeUse.normalize table) = (m.normalizeTypes table).lines := by
  have hheader : TypeUse.normalize table ("public class " ++ m.name ++ "\x7b")
      = "public class " ++ m.name ++ "\x7b" := by
    have hsplit : "public class " ++ m.name ++ "\x7b"
        = "public " ++ "class" ++ " " ++ (m.name ++ "\x7b") := by
      rw [← String.append_assoc]
      rfl
    rw [hsplit]
    exact normalize_header (by decide) htable.normalize_class h.name (by decide) (by decide)
  have hproperty : ∀ p ∈ m.properties,
      TypeUse.normalize table (indent 2 ("public " ++ p.2 ++ " " ++ p.1 ++ ";"))
        = indent 2 ("public " ++ table.normalize p.2 ++ " " ++ p.1 ++ ";") := by
    intro p hp
    obtain ⟨hname, htype⟩ := h.properties p hp
    have hcalm : Calm NotAfterC (p.1 ++ ";").toList := by
      rw [String.toList_append]
      exact (hname.calm parts_notAfterC).append (by decide) (Or.inr (by decide))
    rw [normalize_indent, String.append_assoc, normalize_declaration parts_notAfterC htype hcalm,
      ← String.append_assoc]
  have hproperties : (m.properties.map fun (name, type) =>
        indent 2 ("public " ++ type ++ " " ++ name ++ ";")).map (TypeUse.normalize table)
      = (m.normalizeTypes table).properties.map fun (name, type) =>
        indent 2 ("public " ++ type ++ " " ++ name ++ ";") := by
    rw [List.map_map, Model.normalizeTypes, List.map_map]
    exact List.map_congr_left hproperty
  rw [Model.lines, map_normalize_typeLines]
  refine congrArg typeLines ?_
  simp only [List.map_append, List.map_cons, List.map_nil, normalize_indent, hheader,
    normalize_closeBrace, hproperties]
  rfl

/-- The lines of a plain enumeration are kept. -/
theorem Enumeration.Plain.map_normalize_lines {e : Enumeration} (h : e.Plain)
    (htable : table.KeepsHeaders) : e.lines.map (TypeUse.normalize table) = e.lines := by
  have hheader : TypeUse.normalize table ("public enum " ++ e.name) = "public enum " ++ e.name := by
    have hsplit : "public enum " ++ e.name = "public " ++ "enum" ++ " " ++ (e.name ++ "") := by
      rw [String.append_empty]
      rfl
    rw [hsplit]
    exact normalize_header (by decide) htable.normalize_enum h.name (by decide) (by decide)
  have hvalues : ∀ values : List String, (∀ v ∈ values, Bare v.toList) →
      Kept table (Enumeration.valueLines values) := by
    intro values hvalues
    induction values with
    | nil => exact List.forall_mem_singleton.mpr normalize_empty
    | cons v vs ih =>
        obtain ⟨hv, hvs⟩ := List.forall_mem_cons.mp hvalues
        have hcalm := hv.calm parts_notAfterC
        cases vs with
        | nil => exact List.forall_mem_singleton.mpr (normalize_calm hcalm)
        | cons w ws =>
            refine List.forall_mem_cons.mpr ⟨normalize_calm ?_, ih hvs⟩
            rw [String.toList_append]
            exact hcalm.append (by decide) (Or.inr (by decide))
  rw [Enumeration.lines, map_normalize_typeLines]
  refine congrArg typeLines ?_
  simp only [List.map_append, List.map_cons, List.map_nil, normalize_indent, hheader,
    normalize_openBrace, normalize_closeBrace, map_normalize_indent,
    (hvalues e.values h.values).map_eq]

/-- The pass over the text of a plain piece normalizes its types and nothing else. -/
theorem Piece.Plain.normalize_text {p : Piece} (h : p.Plain) (htable : table.KeepsHeaders) :
    TypeUse.normalize table p.text = (p.normalizeTypes table).text := by
  cases p with
  | declaration d =>
      cases d with
      | model m =>
          show TypeUse.normalize table (unlines m.lines) = unlines (m.normalizeTypes table).lines
          rw [normalize_unlines, Model.Plain.map_normalize_lines h htable]
      | enum e =>
          show TypeUse.normalize table (unlines e.lines) = unlines e.lines
          rw [normalize_unlines, Enumeration.Plain.map_normalize_lines h htable]
  | function f => exact Function.Plain.normalize_text h
  | condition c => exact normalize_calm (Condition.text_calm h).1
  | call c => exact normalize_calm (Call.Plain.line_calm h)

/-- The pass over a row of plain pieces normalizes their types and nothing else. -/
theorem normalize_moduleText {pieces : List Piece} (h : ∀ p ∈ pieces, p.Plain)
    (htable : table.KeepsHeaders) :
    TypeUse.normalize table (moduleText pieces)
      = moduleText (pieces.map (Piece.normalizeTypes table)) := by
  rw [moduleText, normalize_joinWith_lineEnd, moduleText, List.map_map, List.map_map]
  exact congrArg (joinWith "\n") (List.map_congr_left fun p hp => (h p hp).normalize_text htable)

end SwaggerCmdlets
