import Mathlib.Data.List.Chain
import Mathlib.Data.List.TakeWhile
import SwaggerCmdlets.Proofs.Script.References
import SwaggerCmdlets.Script.TypeUse
import SwaggerCmdlets.Text.Lines

/-! # Sites — where annotations stand

    The pass over a script finds an annotation exactly where the text goes on
    with one (`site?_eq_some_iff`): a bracketed identifier, or `public` at the
    start of a word with an identifier between two blanks.  What follows the
    annotation does not matter.

    So there are characters at which the pass can be cut in two
    (`replaceTokens_append_break`); a line end is one, and a script is
    normalized line by line (`normalize_unlines`).  Within a line the pass
    leaves alone what is calm: a text without an opening bracket in which no
    blank stands where `public` would have to end, or none where a token would
    have to start. -/

namespace SwaggerCmdlets.TypeUse

open Text

variable {replace : List Char → List Char} {previous : Option Char} {site : Site}
  {cs token rest : List Char} {stop x : Char}

/-! ## Annotations -/

/-- The text of an annotation. -/
def Site.text (site : Site) : List Char := site.before ++ site.token ++ [site.stop]

/-- The annotations that may stand after a character. -/
inductive Site.After (previous : Option Char) : Site → Prop where
  | bracket (token rest : List Char) (h : isIdent token = true) :
      After previous ⟨['['], token, ']', rest⟩
  | declaration (token rest : List Char) (h : isIdent token = true)
      (hword : previous.any isWord = false) :
      After previous ⟨"public ".toList, token, ' ', rest⟩

/-- What follows an annotation does not matter. -/
theorem Site.After.withRest (h : site.After previous) (rest : List Char) :
    ({ site with rest } : Site).After previous := by
  cases h with
  | bracket token _ h => exact .bracket token rest h
  | declaration token _ h hword => exact .declaration token rest h hword

theorem all_of_isIdent (h : isIdent token = true) : ∀ c ∈ token, isIdentRest c = true := by
  cases token with
  | nil => exact List.forall_mem_nil _
  | cons c cs =>
      obtain ⟨hc, hcs⟩ := Bool.and_eq_true_iff.mp h
      refine List.forall_mem_cons.mpr ⟨?_, List.all_eq_true.mp hcs⟩
      rw [isIdentRest, hc, Bool.true_or]

/-- An identifier is found when a text goes on with it and then with a character
    that it cannot hold. -/
theorem identThen_eq_some_iff (hstop : isIdentRest stop = false) :
    identThen stop cs = some (token, rest) ↔ isIdent token = true ∧ cs = token ++ stop :: rest := by
  constructor
  · intro h
    unfold identThen at h
    dsimp only at h
    split at h
    · rename_i c rest' hdrop
      split at h
      · rename_i hc
        obtain ⟨rfl, hident⟩ : c = stop ∧ _ := by simpa using hc
        obtain ⟨rfl, rfl⟩ := Prod.mk.inj (Option.some.inj h)
        refine ⟨hident, ?_⟩
        rw [← hdrop, List.takeWhile_append_dropWhile]
      · exact nomatch h
    · exact nomatch h
  · rintro ⟨hident, rfl⟩
    have hall := all_of_isIdent hident
    have hnot : ¬ isIdentRest stop = true := by simp [hstop]
    unfold identThen
    rw [List.takeWhile_append_of_pos hall, List.dropWhile_append_of_pos hall,
      List.takeWhile_cons_of_neg hnot, List.dropWhile_cons_of_neg hnot, List.append_nil]
    simp [hident]

/-- An annotation is found exactly where the text goes on with it. -/
theorem site?_eq_some_iff :
    site? previous cs = some site ↔ site.After previous ∧ cs = site.text ++ site.rest := by
  constructor
  · intro h
    unfold site? at h
    split at h
    · rename_i s hb
      obtain rfl := Option.some.inj h
      unfold bracketSite? at hb
      split at hb
      · obtain ⟨⟨token, rest⟩, hi, rfl⟩ := Option.map_eq_some_iff.mp hb
        obtain ⟨hident, rfl⟩ := (identThen_eq_some_iff (by decide)).mp hi
        exact ⟨.bracket token rest hident, by simp [Site.text]⟩
      · exact nomatch hb
    · split at h
      · exact nomatch h
      · rename_i hword
        unfold declarationSite? at h
        split at h
        · obtain ⟨⟨token, rest⟩, hi, rfl⟩ := Option.map_eq_some_iff.mp h
          obtain ⟨hident, rfl⟩ := (identThen_eq_some_iff (by decide)).mp hi
          exact ⟨.declaration token rest hident (by simpa using hword), by simp [Site.text]⟩
        · exact nomatch h
  · rintro ⟨hafter, rfl⟩
    cases hafter with
    | bracket token rest h =>
        have hi : identThen ']' (token ++ ']' :: rest) = some (token, rest) :=
          (identThen_eq_some_iff (by decide)).mpr ⟨h, rfl⟩
        simp [site?, bracketSite?, Site.text, hi]
    | declaration token rest h hword =>
        have hi : identThen ' ' (token ++ ' ' :: rest) = some (token, rest) :=
          (identThen_eq_some_iff (by decide)).mpr ⟨h, rfl⟩
        simp [site?, bracketSite?, declarationSite?, Site.text, hi, hword]

/-! ## The pass -/

theorem replaceTokens_nil : replaceTokens replace previous [] = [] := by
  generalize htext : ([] : List Char) = text
  fun_cases replaceTokens replace previous text with
  | case1 text site hsite =>
      have hlt : site.rest.length < text.length := site?_rest_lt hsite
      rw [← htext] at hlt
      exact absurd hlt (Nat.not_lt_zero _)
  | case2 => rfl
  | case3 => exact nomatch htext

/-- The token of an annotation is replaced, and the pass goes on after it. -/
theorem replaceTokens_of_site? (h : site? previous cs = some site) :
    replaceTokens replace previous cs
      = site.before ++ replace site.token
        ++ site.stop :: replaceTokens replace (some site.stop) site.rest := by
  fun_cases replaceTokens replace previous cs with
  | case1 cs site' hsite' =>
      obtain rfl := Option.some.inj (h.symm.trans hsite')
      rfl
  | case2 hnone => exact nomatch h.symm.trans hnone
  | case3 c cs _ hnone => exact nomatch h.symm.trans hnone

theorem replaceTokens_site (replace : List Char → List Char) (h : site.After previous) :
    replaceTokens replace previous (site.text ++ site.rest)
      = site.before ++ replace site.token
        ++ site.stop :: replaceTokens replace (some site.stop) site.rest :=
  replaceTokens_of_site? (site?_eq_some_iff.mpr ⟨h, rfl⟩)

/-- A character with which no annotation starts stays. -/
theorem replaceTokens_cons {c : Char} (h : site? previous (c :: cs) = none) :
    replaceTokens replace previous (c :: cs) = c :: replaceTokens replace (some c) cs := by
  generalize htext : c :: cs = text at h ⊢
  fun_cases replaceTokens replace previous text with
  | case1 text site hsite => exact nomatch h.symm.trans hsite
  | case2 => exact nomatch htext
  | case3 d ds =>
      obtain ⟨rfl, rfl⟩ := List.cons.inj htext
      rfl

/-- All characters but those of words tell the pass the same. -/
theorem replaceTokens_of_not_word (h : previous.any isWord = false) :
    replaceTokens replace previous cs = replaceTokens replace none cs := by
  have hsite : site? previous cs = site? none cs := by
    unfold site?
    rw [h]
    rfl
  cases hs : site? none cs with
  | some site =>
      obtain ⟨hafter, rfl⟩ := site?_eq_some_iff.mp hs
      have hafter' := (site?_eq_some_iff.mp (hsite.trans hs)).1
      rw [replaceTokens_site replace hafter, replaceTokens_site replace hafter']
  | none =>
      cases cs with
      | nil => rw [replaceTokens_nil, replaceTokens_nil]
      | cons c cs => rw [replaceTokens_cons hs, replaceTokens_cons (hsite.trans hs)]

/-! ## Breaks -/

/-- A character that no annotation holds. -/
structure IsBreak (x : Char) : Prop where
  notIdent : isIdentRest x = false
  notMark : x ∉ ['[', ']', ' ']

/-- What annotations are made of. -/
theorem Site.After.forall_mem (h : site.After previous) :
    ∀ c ∈ site.text, isIdentRest c = true ∨ c ∈ ['[', ']', ' '] := by
  have hident : ∀ {cs : List Char}, cs.all isIdentRest = true →
      ∀ c ∈ cs, isIdentRest c = true ∨ c ∈ ['[', ']', ' '] :=
    fun h c hc => Or.inl (List.all_eq_true.mp h c hc)
  have hmark : ∀ {x : Char}, x ∈ ['[', ']', ' '] →
      ∀ c ∈ [x], isIdentRest c = true ∨ c ∈ ['[', ']', ' '] :=
    fun hx => List.forall_mem_singleton.mpr (Or.inr hx)
  cases h with
  | bracket token rest h =>
      have htoken := hident (List.all_eq_true.mpr (all_of_isIdent h))
      show ∀ c ∈ ['['] ++ token ++ [']'], _
      exact List.forall_mem_append.mpr
        ⟨List.forall_mem_append.mpr ⟨hmark (by decide), htoken⟩, hmark (by decide)⟩
  | declaration token rest h hword =>
      have htoken := hident (List.all_eq_true.mpr (all_of_isIdent h))
      have hpublic : "public ".toList = "public".toList ++ [' '] := by decide
      show ∀ c ∈ "public ".toList ++ token ++ [' '], _
      rw [hpublic]
      refine List.forall_mem_append.mpr ⟨List.forall_mem_append.mpr ⟨?_, htoken⟩, hmark (by decide)⟩
      exact List.forall_mem_append.mpr ⟨hident (by decide), hmark (by decide)⟩

theorem IsBreak.not_mem (hx : IsBreak x) (h : site.After previous) : x ∉ site.text := by
  intro hmem
  rcases h.forall_mem x hmem with hident | hmark
  · exact nomatch hx.notIdent.symm.trans hident
  · exact hx.notMark hmark

/-- Before a break the same annotations are found as before the end of a text. -/
theorem site?_append_break (hx : IsBreak x) (cs rest : List Char) :
    site? previous (cs ++ x :: rest)
      = (site? previous cs).map fun site => { site with rest := site.rest ++ x :: rest } := by
  cases h : site? previous cs with
  | some site =>
      obtain ⟨hafter, rfl⟩ := site?_eq_some_iff.mp h
      refine site?_eq_some_iff.mpr ⟨hafter.withRest _, ?_⟩
      exact List.append_assoc _ _ _
  | none =>
      rw [Option.map_none, Option.eq_none_iff_forall_ne_some]
      intro site hsite
      -- an annotation before a break stands there without it
      obtain ⟨hafter, heq⟩ := site?_eq_some_iff.mp hsite
      have hstart : site.text <+: cs ++ x :: rest := ⟨site.rest, heq.symm⟩
      obtain ⟨rest', rfl⟩ := Call.prefix_of_prefix_append_cons (hx.not_mem hafter) hstart
      have hfound : site? previous (site.text ++ rest') = some { site with rest := rest' } :=
        site?_eq_some_iff.mpr ⟨hafter.withRest rest', rfl⟩
      exact nomatch h.symm.trans hfound

/-- The pass can be cut in two at a break. -/
theorem replaceTokens_append_break (hx : IsBreak x) (cs rest : List Char) :
    replaceTokens replace previous (cs ++ x :: rest)
      = replaceTokens replace previous cs ++ x :: replaceTokens replace (some x) rest := by
  fun_induction replaceTokens replace previous cs with
  | case1 previous cs site h ih =>
      obtain ⟨hafter, rfl⟩ := site?_eq_some_iff.mp h
      have hlonger := replaceTokens_site replace (hafter.withRest (site.rest ++ x :: rest))
      rw [List.append_assoc]
      refine hlonger.trans ?_
      simp only [ih, List.append_assoc, List.cons_append]
  | case2 previous h =>
      have hsite : site? previous ([] ++ x :: rest) = none := by
        rw [site?_append_break hx, h]
        rfl
      rw [List.nil_append] at hsite ⊢
      exact replaceTokens_cons hsite
  | case3 previous c cs h ih =>
      have hsite : site? previous (c :: (cs ++ x :: rest)) = none := by
        rw [← List.cons_append, site?_append_break hx, h]
        rfl
      rw [List.cons_append, replaceTokens_cons hsite, ih, List.cons_append]

/-! ## Calm texts -/

/-- A relation between neighbours that keeps declarations out of a text: if it lets a
    blank stand after the end of `public`, then it lets no token start after a blank.
    Where there are no blanks it always holds. -/
structure Parts (R : Char → Char → Prop) : Prop where
  excludes : R 'c' ' ' → ∀ c, isIdentStart c = true → ¬ R ' ' c
  words : ∀ a b, a ≠ ' ' → b ≠ ' ' → R a b

/-- No blank stands where `public` would have to end. -/
def NotAfterC (a b : Char) : Prop := a = 'c' → b ≠ ' '

/-- No blank stands where a token would have to start. -/
def NotBeforeToken (a b : Char) : Prop := a = ' ' → isIdentStart b = false

instance : DecidableRel NotAfterC := fun _ _ => inferInstanceAs (Decidable (_ → _))

instance : DecidableRel NotBeforeToken := fun _ _ => inferInstanceAs (Decidable (_ → _))

theorem parts_notAfterC : Parts NotAfterC where
  excludes := fun h => absurd rfl (h rfl)
  words := fun _ _ _ hb _ => hb

theorem parts_notBeforeToken : Parts NotBeforeToken where
  excludes := fun _ _ hc h => nomatch hc.symm.trans (h rfl)
  words := fun _ _ ha _ h => absurd h ha

/-- No bracket opens in the text, and its blanks keep declarations out. -/
structure Calm (R : Char → Char → Prop) (cs : List Char) : Prop where
  unbracketed : '[' ∉ cs
  chain : cs.IsChain R

/-- Neither brackets nor blanks stand in the text. -/
structure Bare (cs : List Char) : Prop where
  unbracketed : '[' ∉ cs
  unparted : ' ' ∉ cs

variable {R : Char → Char → Prop}

theorem Calm.of_suffix (h : Calm R cs) (hrest : rest <:+ cs) : Calm R rest :=
  ⟨fun hmem => h.unbracketed (hrest.subset hmem), h.chain.suffix hrest⟩

theorem Bare.calm (hR : Parts R) (h : Bare cs) : Calm R cs := by
  have hne : ∀ c ∈ cs, c ≠ ' ' := fun c hc heq => h.unparted (heq ▸ hc)
  refine ⟨h.unbracketed, List.Pairwise.isChain ?_⟩
  exact List.pairwise_of_forall_mem_list fun a ha b hb => hR.words a b (hne a ha) (hne b hb)

/-- No annotation starts in a calm text. -/
theorem Calm.site?_eq_none (hR : Parts R) (h : Calm R cs) : site? previous cs = none := by
  rw [Option.eq_none_iff_forall_ne_some]
  intro site hsite
  obtain ⟨hafter, rfl⟩ := site?_eq_some_iff.mp hsite
  cases hafter with
  | bracket token rest hident => exact h.unbracketed (by simp [Site.text])
  | declaration token rest hident hword =>
      cases token with
      | nil => exact nomatch hident
      | cons c token =>
          have hc : isIdentStart c = true := (Bool.and_eq_true_iff.mp hident).1
          have hinfix : ['c', ' ', c] <:+:
              Site.text ⟨"public ".toList, c :: token, ' ', rest⟩ ++ rest :=
            ⟨"publi".toList, token ++ ' ' :: rest, by simp [Site.text]⟩
          have hchain := List.IsChain.infix h.chain hinfix
          obtain ⟨hend, hchain⟩ := List.isChain_cons_cons.mp hchain
          exact hR.excludes hend c hc (List.isChain_cons_cons.mp hchain).1

/-- The pass leaves calm texts alone. -/
theorem Calm.replaceTokens_eq (hR : Parts R) (h : Calm R cs) :
    replaceTokens replace previous cs = cs := by
  induction cs generalizing previous with
  | nil => exact replaceTokens_nil
  | cons c cs ih =>
      rw [replaceTokens_cons (h.site?_eq_none hR), ih (h.of_suffix (List.suffix_cons c cs))]

/-! ## Scripts -/

variable {table : TypeTable} {type text : String}

theorem normalize_of_calm (hR : Parts R) (h : Calm R text.toList) :
    normalize table text = text := by
  rw [normalize, h.replaceTokens_eq hR, String.ofList_toList]

/-- The token in the brackets that a text starts with is normalized. -/
theorem normalize_bracket (hR : Parts R) (htype : isIdent type.toList = true)
    (htext : Calm R text.toList) :
    normalize table ("[" ++ type ++ "]" ++ text) = "[" ++ table.normalize type ++ "]" ++ text := by
  have hafter : Site.After none ⟨['['], type.toList, ']', text.toList⟩ :=
    .bracket _ _ htype
  have hsite := replaceTokens_site
    (fun token => (table.normalize (String.ofList token)).toList) hafter
  apply String.toList_inj.mp
  simpa [normalize, Site.text, htext.replaceTokens_eq hR] using hsite

/-- The token of the declaration that a text starts with is normalized. -/
theorem normalize_declaration (hR : Parts R) (htype : isIdent type.toList = true)
    (htext : Calm R text.toList) :
    normalize table ("public " ++ type ++ " " ++ text)
      = "public " ++ table.normalize type ++ " " ++ text := by
  have hafter : Site.After none ⟨"public ".toList, type.toList, ' ', text.toList⟩ :=
    .declaration _ _ htype rfl
  have hsite := replaceTokens_site
    (fun token => (table.normalize (String.ofList token)).toList) hafter
  apply String.toList_inj.mp
  simpa [normalize, Site.text, htext.replaceTokens_eq hR] using hsite

/-- A script is normalized line by line. -/
theorem normalize_append_lineEnd (a b : String) :
    normalize table (a ++ "\n" ++ b) = normalize table a ++ "\n" ++ normalize table b := by
  have hbreak : IsBreak '\n' := ⟨by decide, by decide⟩
  have hword : (some '\n').any isWord = false := by decide
  apply String.toList_inj.mp
  simp only [normalize, String.toList_append, String.toList_ofList]
  show replaceTokens _ none (a.toList ++ ['\n'] ++ b.toList) = _
  rw [List.append_assoc, List.singleton_append, replaceTokens_append_break hbreak,
    replaceTokens_of_not_word hword, List.append_assoc]
  rfl

theorem normalize_empty : normalize table "" = "" := by
  show String.ofList (replaceTokens _ none []) = ""
  rw [replaceTokens_nil]

theorem unlines_cons (line : String) (lines : List String) :
    unlines (line :: lines) = line ++ "\n" ++ unlines lines := by
  apply String.toList_inj.mp
  simp [unlines, String.toList_join]

theorem normalize_unlines (lines : List String) :
    normalize table (unlines lines) = unlines (lines.map (normalize table)) := by
  induction lines with
  | nil => exact normalize_empty
  | cons line lines ih =>
      rw [unlines_cons, normalize_append_lineEnd, ih, List.map_cons, unlines_cons]

theorem normalize_joinWith_lineEnd (texts : List String) :
    normalize table (joinWith "\n" texts) = joinWith "\n" (texts.map (normalize table)) := by
  induction texts with
  | nil => exact normalize_empty
  | cons text texts ih =>
      cases texts with
      | nil => rfl
      | cons next texts =>
          show normalize table (text ++ "\n" ++ joinWith "\n" (next :: texts)) = _
          rw [normalize_append_lineEnd, ih]
          rfl

/-- Blanks in front of a text change nothing. -/
theorem replaceTokens_blanks {blanks : List Char} (h : ∀ c ∈ blanks, c = ' ') (cs : List Char) :
    replaceTokens replace none (blanks ++ cs) = blanks ++ replaceTokens replace none cs := by
  induction blanks with
  | nil => rfl
  | cons c blanks ih =>
      obtain ⟨rfl, hblanks⟩ := List.forall_mem_cons.mp h
      have hsite : site? none (' ' :: (blanks ++ cs)) = none := rfl
      have hword : (some ' ').any isWord = false := by decide
      rw [List.cons_append, replaceTokens_cons hsite, replaceTokens_of_not_word hword,
        ih hblanks, List.cons_append]

theorem normalize_indent (n : Nat) (line : String) :
    normalize table (indent n line) = indent n (normalize table line) := by
  have hblanks : ∀ c ∈ (String.join (List.replicate n step)).toList, c = ' ' := by
    intro c hc
    rw [String.toList_join] at hc
    obtain ⟨s, hs, hc⟩ := List.mem_flatMap.mp hc
    obtain ⟨-, rfl⟩ := List.mem_replicate.mp hs
    have hstep : step.toList.all (· == ' ') = true := by decide
    exact beq_iff_eq.mp (List.all_eq_true.mp hstep c hc)
  apply String.toList_inj.mp
  simp only [normalize, indent, String.toList_append, String.toList_ofList]
  exact replaceTokens_blanks hblanks line.toList

end SwaggerCmdlets.TypeUse
