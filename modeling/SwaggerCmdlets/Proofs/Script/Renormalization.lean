import SwaggerCmdlets.Proofs.Script.Occurrences

/-! # Renormalization — nothing is left for a second pass

    A pass puts identifiers in the place of identifiers.  So a character run that ends
    in a bracket or a blank is there after the pass only if it was there before
    (`exists_run_of_replaceTokens`), and where no annotation started none starts after
    the pass (`site?_replaceTokens`).  A second pass finds the annotations that the
    first one found.  If their tokens are settled by then, it changes nothing
    (`replaceTokens_replaceTokens`). -/

namespace SwaggerCmdlets.TypeUse

open Text

variable {replace : List Char → List Char} {previous : Option Char} {site : Site}
  {cs run rest : List Char} {c stop : Char}

/-- Where an annotation starts, a run that is there after the pass is the word `public`. -/
theorem exists_run_of_site (hsite : site.After previous) (hrun : ∀ c ∈ run, isIdentRest c = true)
    (hstop : stop ∈ [']', ' '])
    (h : replaceTokens replace previous (site.text ++ site.rest) = run ++ stop :: rest) :
    ∃ rest', site.text ++ site.rest = run ++ stop :: rest' := by
  have hends : ∀ x ∈ [']', ' '], isIdentRest x = false ∧ x ≠ '[' :=
    List.forall_mem_cons.mpr ⟨by decide, List.forall_mem_singleton.mpr (by decide)⟩
  obtain ⟨hstopRest, hopen⟩ := hends stop hstop
  rw [replaceTokens_site replace hsite] at h
  cases hsite with
  | bracket token after _ =>
      -- a run neither starts nor ends with an opening bracket
      cases run with
      | nil => exact absurd (List.cons.inj h).1.symm hopen
      | cons c run =>
          obtain rfl : '[' = c := (List.cons.inj h).1
          exact absurd (hrun '[' List.mem_cons_self) (by decide)
  | declaration token after _ _ =>
      have hpublic : "public ".toList = "public".toList ++ [' '] := by decide
      have hword : "public".toList ++ ' ' :: (replace token ++ ' '
          :: replaceTokens replace (some ' ') after) = run ++ stop :: rest := by
        rw [← h, hpublic]
        simp
      have hletters := all_of_isIdent (by decide : isIdent "public".toList = true)
      obtain ⟨rfl, rfl, -⟩ := run_inj hletters hrun (by decide) hstopRest hword
      refine ⟨token ++ ' ' :: after, ?_⟩
      rw [Site.text, hpublic]
      simp

/-- A run that ends in a bracket or a blank is there after the pass only if it was there
    before. -/
theorem exists_run_of_replaceTokens (hrun : ∀ c ∈ run, isIdentRest c = true)
    (hstop : stop ∈ [']', ' '])
    (h : replaceTokens replace previous cs = run ++ stop :: rest) :
    ∃ rest', cs = run ++ stop :: rest' := by
  fun_induction replaceTokens replace previous cs generalizing run with
  | case1 previous cs site hsite _ =>
      obtain ⟨hafter, rfl⟩ := site?_eq_some_iff.mp hsite
      rw [← replaceTokens_site replace hafter] at h
      exact exists_run_of_site hafter hrun hstop h
  | case2 previous hsite =>
      have hne : run ++ stop :: rest ≠ [] :=
        List.append_ne_nil_of_right_ne_nil _ (List.cons_ne_nil _ _)
      exact absurd h.symm hne
  | case3 previous c cs hsite ih =>
      cases run with
      | nil =>
          obtain rfl : c = stop := (List.cons.inj h).1
          exact ⟨cs, rfl⟩
      | cons d run =>
          obtain ⟨rfl, hrest⟩ := List.cons.inj h
          obtain ⟨rest', rfl⟩ := ih (List.forall_mem_cons.mp hrun).2 hrest
          exact ⟨rest', rfl⟩

/-- The pass goes through a word without a change. -/
theorem replaceTokens_word (hword : previous.any isWord = true)
    (hrun : ∀ c ∈ run, isIdentRest c = true) :
    replaceTokens replace previous (run ++ cs)
      = run ++ replaceTokens replace (run.getLast?.or previous) cs := by
  induction run generalizing previous with
  | nil => rfl
  | cons c run ih =>
      obtain ⟨hc, hrun⟩ := List.forall_mem_cons.mp hrun
      have hnext : (some c).any isWord = true := isWord_of_isIdentRest hc
      have hnone : site? previous (c :: (run ++ cs)) = none := by
        rw [Option.eq_none_iff_forall_ne_some]
        intro site hsite
        rcases (standsIn_nil_iff.mpr hsite).start with rfl | ⟨-, hnot⟩
        · exact absurd hc (by decide)
        · exact absurd (hword.symm.trans hnot) (by decide)
      rw [List.cons_append, replaceTokens_cons hnone, ih hnext hrun, getLast?_cons_or,
        List.cons_append]

/-- Where no annotation starts, none starts after what follows has been passed over. -/
theorem site?_replaceTokens (h : site? previous (c :: cs) = none) :
    site? previous (c :: replaceTokens replace (some c) cs) = none := by
  rw [Option.eq_none_iff_forall_ne_some]
  intro site hsite
  obtain ⟨hafter, htext⟩ := site?_eq_some_iff.mp hsite
  cases hafter with
  | bracket token after htoken =>
      have hstart : c :: replaceTokens replace (some c) cs = '[' :: (token ++ ']' :: after) := by
        rw [htext]
        simp [Site.text]
      obtain ⟨rfl, hrest⟩ := List.cons.inj hstart
      obtain ⟨after', rfl⟩ := exists_run_of_replaceTokens (all_of_isIdent htoken) (by decide) hrest
      have hfound : site? previous ('[' :: (token ++ ']' :: after'))
          = some ⟨['['], token, ']', after'⟩ :=
        site?_eq_some_iff.mpr ⟨.bracket token after' htoken, by simp [Site.text]⟩
      exact absurd (hfound.symm.trans h) (Option.some_ne_none _)
  | declaration token after htoken hword =>
      have hpublic : "public ".toList = 'p' :: ("ublic".toList ++ [' ']) := by decide
      have hstart : c :: replaceTokens replace (some c) cs
          = 'p' :: ("ublic".toList ++ ' ' :: (token ++ ' ' :: after)) := by
        rw [htext, Site.text, hpublic]
        simp
      obtain ⟨rfl, hrest⟩ := List.cons.inj hstart
      -- first the rest of the word is found before the pass, and then the token
      have hletters := all_of_isIdent (by decide : isIdent "ublic".toList = true)
      obtain ⟨behind, rfl⟩ := exists_run_of_replaceTokens hletters (by decide) hrest
      have hnone : ∀ q : Option Char, site? q (' ' :: behind) = none := fun _ => by
        rw [Option.eq_none_iff_forall_ne_some]
        intro site hsite
        exact absurd (standsIn_nil_iff.mpr hsite).start (by simp)
      rw [replaceTokens_word (by decide) hletters, replaceTokens_cons (hnone _)] at hrest
      obtain ⟨-, hbehind⟩ := List.cons.inj (List.append_cancel_left hrest)
      obtain ⟨after', rfl⟩ :=
        exists_run_of_replaceTokens (all_of_isIdent htoken) (by decide) hbehind
      have hfound : site? previous ('p' :: ("ublic".toList ++ ' ' :: (token ++ ' ' :: after')))
          = some ⟨"public ".toList, token, ' ', after'⟩ := by
        refine site?_eq_some_iff.mpr ⟨.declaration token after' htoken hword, ?_⟩
        rw [Site.text, hpublic]
        simp
      exact absurd (hfound.symm.trans h) (Option.some_ne_none _)

/-- A second pass changes nothing, if replacements of identifiers are identifiers and are
    their own replacements. -/
theorem replaceTokens_replaceTokens
    (hident : ∀ {token}, isIdent token = true → isIdent (replace token) = true)
    (hsettled : ∀ token, replace (replace token) = replace token)
    (previous : Option Char) (cs : List Char) :
    replaceTokens replace previous (replaceTokens replace previous cs)
      = replaceTokens replace previous cs := by
  fun_induction replaceTokens replace previous cs with
  | case1 previous cs site h ih =>
      obtain ⟨hafter, rfl⟩ := site?_eq_some_iff.mp h
      -- the annotation with its token replaced
      let site' : Site := { site with
        token := replace site.token
        rest := replaceTokens replace (some site.stop) site.rest }
      have hafter' : site'.After previous := by
        cases hafter with
        | bracket token after htoken => exact .bracket _ _ (hident htoken)
        | declaration token after htoken hword => exact .declaration _ _ (hident htoken) hword
      have htext : site.before ++ replace site.token
          ++ site.stop :: replaceTokens replace (some site.stop) site.rest
          = site'.text ++ site'.rest := by
        simp [site', Site.text]
      rw [htext, replaceTokens_site replace hafter']
      show site.before ++ replace (replace site.token) ++ site.stop
        :: replaceTokens replace (some site.stop)
          (replaceTokens replace (some site.stop) site.rest) = _
      rw [ih, hsettled, ← htext]
  | case2 previous h => exact replaceTokens_nil
  | case3 previous c cs h ih => rw [replaceTokens_cons (site?_replaceTokens h), ih]

/-- Normalizing a script twice is normalizing it once, unless a primitive type of the
    script is passed through itself. -/
theorem normalize_twice (table : TypeTable) (script : String)
    (h : ∀ type ∈ ["bool", "int", "string"], type ∉ table.passthrough) :
    normalize table (normalize table script) = normalize table script := by
  apply String.toList_inj.mp
  simp only [normalize, String.toList_ofList]
  exact replaceTokens_replaceTokens TypeTable.isIdent_replacement
    (TypeTable.replacement_replacement h) none script.toList

/-- Models called like the word of declarations and like the type of passed-through models. -/
theorem normalize_twice_public :
    let table : TypeTable := ⟨["public", "object", "Widget"]⟩
    let script := "public public integer n; [Widget]$w public array public Guid id; [boolean"
    (∀ type ∈ ["bool", "int", "string"], type ∉ table.passthrough)
      ∧ normalize table script
        = "public object integer n; [object]$w public object public string id; [boolean"
      ∧ normalize table (normalize table script) = normalize table script := by
  intro table script
  have h : ∀ type ∈ ["bool", "int", "string"], type ∉ table.passthrough := by decide
  exact ⟨h, by decide +kernel, normalize_twice table script h⟩

end SwaggerCmdlets.TypeUse
