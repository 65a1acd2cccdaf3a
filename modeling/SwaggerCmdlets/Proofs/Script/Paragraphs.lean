import SwaggerCmdlets.Proofs.Script.Lines
import SwaggerCmdlets.Proofs.Script.Tokens

/-! # Paragraphs — texts with an empty line between them

    Where two line ends follow each other a text has an empty line.  A text that is
    written line by line, with no empty line among them, is one paragraph.  Put together
    with one more line end between them, paragraphs are what stands between the empty
    lines of the whole (`paragraphs_joinWith`), and since normalizing a line makes one
    line of it, that is also so for the normalized text
    (`paragraphs_normalize_joinWith`). -/

namespace SwaggerCmdlets

open Text

variable {table : TypeTable} {line text : String} {lines texts : List String}
  {c : Char} {cs rest : List Char}

namespace Text

/-- The characters between the empty lines of a text. -/
def cutAtEmptyLines : List Char → List (List Char)
  | [] => [[]]
  | '\n' :: '\n' :: cs => [] :: cutAtEmptyLines cs
  | c :: cs => (cutAtEmptyLines cs).modifyHead (c :: ·)

/-- What stands between the empty lines of a text; an empty text has nothing. -/
def paragraphs (text : String) : List String :=
  if text = "" then [] else (cutAtEmptyLines text.toList).map String.ofList

/-- The text with a line end at its end, if there is none. -/
def closeLine (text : String) : String :=
  if text.toList.getLast? = some '\n' then text else text ++ "\n"

/-- The text is written line by line, and none of its lines is empty. -/
def IsParagraph (text : String) : Prop :=
  ∃ lines, lines ≠ [] ∧ (∀ line ∈ lines, IsLine line) ∧ unlines lines = text

/-! ## Lines between line ends -/

theorem cutAtEmptyLines_cons (hc : c ≠ '\n') (cs : List Char) :
    cutAtEmptyLines (c :: cs) = (cutAtEmptyLines cs).modifyHead (c :: ·) :=
  cutAtEmptyLines.eq_3 c cs fun _ heq _ => hc heq

/-- A line end that another character follows is part of a paragraph. -/
theorem cutAtEmptyLines_lineEnd (hc : c ≠ '\n') (cs : List Char) :
    cutAtEmptyLines ('\n' :: c :: cs)
      = (cutAtEmptyLines (c :: cs)).modifyHead ('\n' :: ·) :=
  cutAtEmptyLines.eq_3 '\n' (c :: cs) fun _ _ heq => hc (List.cons.inj heq).1

theorem cutAtEmptyLines_append (h : '\n' ∉ cs) (rest : List Char) :
    cutAtEmptyLines (cs ++ rest) = (cutAtEmptyLines rest).modifyHead (cs ++ ·) := by
  induction cs with
  | nil =>
      show cutAtEmptyLines rest = (cutAtEmptyLines rest).modifyHead id
      rw [List.modifyHead_id, id]
  | cons c cs ih =>
      rw [List.mem_cons, not_or] at h
      rw [List.cons_append, cutAtEmptyLines_cons (Ne.symm h.1), ih h.2, List.modifyHead_modifyHead]
      rfl

theorem exists_cons_of_isLine (h : IsLine line) :
    ∃ c cs, line.toList = c :: cs ∧ c ≠ '\n' := by
  obtain ⟨c, cs, hcs⟩ := List.exists_cons_of_ne_nil (String.toList_eq_nil_iff.not.mpr h.filled)
  refine ⟨c, cs, hcs, fun heq => h.unbroken ?_⟩
  rw [hcs, heq]
  exact List.mem_cons_self

/-- Lines with line ends between them start with no line end. -/
theorem exists_cons_joinWith (h : IsLine line) (lines : List String) :
    ∃ c cs, (joinWith "\n" (line :: lines)).toList = c :: cs ∧ c ≠ '\n' := by
  obtain ⟨c, cs, hline, hc⟩ := exists_cons_of_isLine h
  cases lines with
  | nil => exact ⟨c, cs, hline, hc⟩
  | cons next lines =>
      refine ⟨c, cs ++ '\n' :: (joinWith "\n" (next :: lines)).toList, ?_, hc⟩
      show (line ++ "\n" ++ joinWith "\n" (next :: lines)).toList = _
      rw [String.toList_append, String.toList_append, hline]
      simp

/-- Lines with line ends between them are not cut. -/
theorem cutAtEmptyLines_joinWith (h : ∀ line ∈ lines, IsLine line) (rest : List Char) :
    cutAtEmptyLines ((joinWith "\n" lines).toList ++ rest)
      = (cutAtEmptyLines rest).modifyHead ((joinWith "\n" lines).toList ++ ·) := by
  fun_induction joinWith "\n" lines with
  | case1 => exact cutAtEmptyLines_append List.not_mem_nil rest
  | case2 line => exact cutAtEmptyLines_append (h line List.mem_cons_self).unbroken rest
  | case3 line lines hlines ih =>
      obtain ⟨hline, hrest⟩ := List.forall_mem_cons.mp h
      obtain ⟨next, others, rfl⟩ := List.exists_cons_of_ne_nil hlines
      obtain ⟨c, cs, hstart, hc⟩ := exists_cons_joinWith (hrest next List.mem_cons_self) others
      -- the line end is followed by the first character of the next line
      have hend := cutAtEmptyLines_lineEnd hc (cs ++ rest)
      rw [← List.cons_append, ← hstart, ih hrest, List.modifyHead_modifyHead] at hend
      have hlineEnd : "\n".toList = ['\n'] := rfl
      rw [String.toList_append, String.toList_append, hlineEnd, List.append_assoc,
        List.append_assoc, cutAtEmptyLines_append hline.unbroken, List.singleton_append, hend,
        List.modifyHead_modifyHead]
      refine congrArg (List.modifyHead · _) (funext fun front => ?_)
      simp

theorem unlines_eq_joinWith (h : lines ≠ []) : unlines lines = joinWith "\n" lines ++ "\n" := by
  fun_induction joinWith "\n" lines with
  | case1 => exact absurd rfl h
  | case2 line => simp [TypeUse.unlines_cons]
  | case3 line lines hlines ih =>
      rw [TypeUse.unlines_cons, ih hlines]
      exact (String.append_assoc ..).symm

/-- Lines with line ends between them end with no line end. -/
theorem getLast?_joinWith (h : ∀ line ∈ lines, IsLine line) :
    (joinWith "\n" lines).toList.getLast? ≠ some '\n' := by
  fun_induction joinWith "\n" lines with
  | case1 =>
      show "".toList.getLast? ≠ some '\n'
      decide
  | case2 line => exact fun heq => (h line List.mem_cons_self).unbroken (List.mem_of_getLast? heq)
  | case3 line lines hlines ih =>
      obtain ⟨hline, hrest⟩ := List.forall_mem_cons.mp h
      obtain ⟨next, others, rfl⟩ := List.exists_cons_of_ne_nil hlines
      obtain ⟨c, cs, hstart, -⟩ := exists_cons_joinWith (hrest next List.mem_cons_self) others
      rw [String.toList_append, List.getLast?_append, hstart, List.getLast?_cons, Option.some_or,
        ← List.getLast?_cons, ← hstart]
      exact ih hrest

/-! ## Paragraphs -/

/-- A paragraph behind which the text ends, or an empty line follows. -/
theorem IsParagraph.exists_eq (h : IsParagraph text) :
    ∃ body, body ++ "\n" = text ∧ closeLine body = text ∧ closeLine text = text
      ∧ ∀ rest, cutAtEmptyLines (body.toList ++ rest)
        = (cutAtEmptyLines rest).modifyHead (body.toList ++ ·) := by
  obtain ⟨lines, hne, hlines, rfl⟩ := h
  -- all of the lines, but not the last line end
  refine ⟨joinWith "\n" lines, (unlines_eq_joinWith hne).symm, ?_, ?_,
    cutAtEmptyLines_joinWith hlines⟩
  · rw [closeLine, if_neg (getLast?_joinWith hlines), unlines_eq_joinWith hne]
  · have hend : (unlines lines).toList.getLast? = some '\n' := by
      rw [unlines_eq_joinWith hne]
      simp
    rw [closeLine, if_pos hend]

theorem IsParagraph.ne_empty (h : IsParagraph text) : text ≠ "" := by
  obtain ⟨body, rfl, -⟩ := h.exists_eq
  simp

theorem joinWith_ne_empty {sep : String} (h : ∀ text ∈ texts, text ≠ "") (hne : texts ≠ []) :
    joinWith sep texts ≠ "" := by
  fun_cases joinWith sep texts with
  | case1 => exact absurd rfl hne
  | case2 text => exact h text List.mem_cons_self
  | case3 text texts _ =>
      intro hempty
      rw [String.append_eq_empty_iff, String.append_eq_empty_iff] at hempty
      exact h text List.mem_cons_self hempty.1.1

/-- Paragraphs with one more line end between them stand between the empty lines of the
    whole, the last with its line end and the others without it. -/
theorem paragraphs_joinWith (h : ∀ text ∈ texts, IsParagraph text) :
    (paragraphs (joinWith "\n" texts)).map closeLine = texts := by
  fun_induction joinWith "\n" texts with
  | case1 => rfl
  | case2 text =>
      have htext := h text List.mem_cons_self
      obtain ⟨body, rfl, -, hclosed, hcut⟩ := htext.exists_eq
      rw [paragraphs, if_neg htext.ne_empty, String.toList_append, hcut]
      show [closeLine (String.ofList (body.toList ++ "\n".toList))] = _
      rw [← String.toList_append, String.ofList_toList, hclosed]
  | case3 text texts hne ih =>
      obtain ⟨htext, htexts⟩ := List.forall_mem_cons.mp h
      obtain ⟨body, rfl, hclosed, -, hcut⟩ := htext.exists_eq
      have hrest : joinWith "\n" texts ≠ "" :=
        joinWith_ne_empty (fun text htext => (htexts text htext).ne_empty) hne
      have hwhole : body ++ "\n" ++ "\n" ++ joinWith "\n" texts ≠ "" := by simp
      have hchars : (body ++ "\n" ++ "\n" ++ joinWith "\n" texts).toList
          = body.toList ++ '\n' :: '\n' :: (joinWith "\n" texts).toList := by
        simp
      have ih := ih htexts
      rw [paragraphs, if_neg hrest] at ih
      rw [paragraphs, if_neg hwhole, hchars, hcut]
      -- two line ends: the paragraph ends before them
      show closeLine (String.ofList (body.toList ++ [])) :: _ = _
      rw [List.append_nil, String.ofList_toList, hclosed]
      exact congrArg ((body ++ "\n") :: ·) ih

example : paragraphs "a\nb\n\nc\n" = ["a\nb", "c\n"] := by decide

end Text

/-! ## Normalized paragraphs -/

namespace TypeUse

variable {replace : List Char → List Char} {previous : Option Char}

theorem replaceTokens_ne_nil (h : cs ≠ []) : replaceTokens replace previous cs ≠ [] := by
  cases hsite : site? previous cs with
  | some site =>
      rw [replaceTokens_of_site? hsite]
      exact List.append_ne_nil_of_right_ne_nil _ (List.cons_ne_nil _ _)
  | none =>
      obtain ⟨c, cs, rfl⟩ := List.exists_cons_of_ne_nil h
      rw [replaceTokens_cons hsite]
      exact List.cons_ne_nil _ _

/-- The pass brings in no character that no replacement has. -/
theorem not_mem_replaceTokens (hreplace : ∀ token, isIdent token = true → c ∉ replace token)
    (h : c ∉ cs) : c ∉ replaceTokens replace previous cs := by
  fun_induction replaceTokens replace previous cs with
  | case1 previous cs site hsite ih =>
      obtain ⟨hafter, rfl⟩ := site?_eq_some_iff.mp hsite
      have htoken : isIdent site.token = true := by
        cases hafter with
        | bracket token rest hident => exact hident
        | declaration token rest hident hword => exact hident
      simp only [Site.text, List.mem_append, List.mem_singleton, not_or] at h
      obtain ⟨⟨⟨hbefore, -⟩, hstop⟩, hrest⟩ := h
      simp only [List.mem_append, List.mem_cons, not_or]
      exact ⟨⟨hbefore, hreplace site.token htoken⟩, hstop, ih hrest⟩
  | case2 => exact List.not_mem_nil
  | case3 previous c' cs hsite ih =>
      rw [List.mem_cons, not_or] at h ⊢
      exact ⟨h.1, ih h.2⟩

/-- What is made of a line is a line: tokens are replaced by words. -/
theorem isLine_normalize (h : IsLine line) : IsLine (normalize table line) where
  filled := by
    intro hempty
    have hchars := congrArg String.toList hempty
    rw [normalize, String.toList_ofList] at hchars
    exact replaceTokens_ne_nil (String.toList_eq_nil_iff.not.mpr h.filled) hchars
  unbroken := by
    have hreplacement : ∀ token, isIdent token = true → '\n' ∉ table.replacement token := by
      intro token htoken hmem
      have hident := all_of_isIdent (TypeTable.isIdent_replacement htoken) '\n' hmem
      exact absurd hident (by decide)
    show '\n' ∉ (String.ofList _).toList
    rw [String.toList_ofList]
    exact not_mem_replaceTokens hreplacement h.unbroken

theorem isParagraph_normalize (h : IsParagraph text) : IsParagraph (normalize table text) := by
  obtain ⟨lines, hne, hlines, rfl⟩ := h
  refine ⟨lines.map (normalize table), List.map_eq_nil_iff.not.mpr hne, ?_,
    (normalize_unlines lines).symm⟩
  intro line hline
  obtain ⟨source, hsource, rfl⟩ := List.mem_map.mp hline
  exact isLine_normalize (hlines source hsource)

/-- Between the empty lines of the normalized whole stand the normalized paragraphs. -/
theorem paragraphs_normalize_joinWith (table : TypeTable)
    (h : ∀ text ∈ texts, IsParagraph text) :
    (paragraphs (normalize table (joinWith "\n" texts))).map closeLine
      = texts.map (normalize table) := by
  rw [normalize_joinWith_lineEnd]
  refine paragraphs_joinWith fun text htext => ?_
  obtain ⟨source, hsource, rfl⟩ := List.mem_map.mp htext
  exact isParagraph_normalize (h source hsource)

end TypeUse

/-! ## Paragraphs of a module -/

/-- A declaration is a paragraph. -/
theorem Declaration.isParagraph {d : Declaration} (h : ∀ t ∈ d.texts, Unbroken t) :
    IsParagraph d.text := by
  have hne : d.lines ≠ [] := by
    cases d with
    | model m => exact List.cons_ne_nil _ _
    | enum e => exact List.cons_ne_nil _ _
  exact ⟨d.lines, hne, Declaration.isLine_lines h, rfl⟩

/-- A function is a paragraph. -/
theorem Function.isParagraph {f : Function} (h : ∀ t ∈ f.texts, Unbroken t) :
    IsParagraph f.text :=
  ⟨f.lines, List.cons_ne_nil _ _, Function.isLine_lines h, rfl⟩

end SwaggerCmdlets
