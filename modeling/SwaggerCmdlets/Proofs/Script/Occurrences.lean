import SwaggerCmdlets.Proofs.Script.Sites
import SwaggerCmdlets.Proofs.Script.Tokens

/-! # Occurrences — which annotations the pass finds

    The pass goes from left to right and never looks back, so it could miss an
    annotation that starts within another one.  There is one way only in which this
    happens: the token of a declaration is itself the word `public`, and another
    declaration starts with it (`Site.StandsIn.cases_site`).

    A reading takes a text apart into annotations and characters between them.  It
    has every annotation that stands in the text, except one whose `public` is the
    token of the declaration before it (`IsReading`).  A text has exactly one reading
    (`IsReading.unique`), and the pass replaces the tokens of its annotations and
    nothing else (`normalize_reads`). -/

namespace SwaggerCmdlets.TypeUse

open Text

variable {replace : List Char → List Char} {previous : Option Char} {site other : Site}
  {cs ds front token rest : List Char} {c d stop : Char}

/-! ## Where annotations stand -/

/-- The annotation stands in a text with `front` before it.  The text itself may follow
    a character. -/
structure Site.StandsIn (site : Site) (previous : Option Char) (front cs : List Char) : Prop where
  after : site.After (front.getLast?.or previous)
  text : cs = front ++ (site.text ++ site.rest)

theorem standsIn_nil_iff : site.StandsIn previous [] cs ↔ site? previous cs = some site := by
  rw [site?_eq_some_iff]
  constructor
  · rintro ⟨hafter, htext⟩
    exact ⟨hafter, htext⟩
  · rintro ⟨hafter, htext⟩
    exact ⟨hafter, htext⟩

/-- What stands behind the first part of a text stands in the rest of it. -/
theorem standsIn_append_iff :
    site.StandsIn previous (ds ++ front) (ds ++ cs)
      ↔ site.StandsIn (ds.getLast?.or previous) front cs := by
  have hlast : (ds ++ front).getLast?.or previous
      = front.getLast?.or (ds.getLast?.or previous) := by
    rw [List.getLast?_append, Option.or_assoc]
  constructor
  · rintro ⟨hafter, htext⟩
    rw [hlast] at hafter
    rw [List.append_assoc] at htext
    exact ⟨hafter, List.append_cancel_left htext⟩
  · rintro ⟨hafter, rfl⟩
    rw [← hlast] at hafter
    exact ⟨hafter, (List.append_assoc _ _ _).symm⟩

/-- The character before the rest of a text does not depend on what was before the text,
    once a character has been passed. -/
theorem getLast?_cons_or (c : Char) (ds : List Char) (previous : Option Char) :
    (c :: ds).getLast?.or previous = ds.getLast?.or (some c) := by
  rw [List.getLast?_cons]
  cases ds.getLast? with
  | none => rfl
  | some d => rfl

/-- An annotation starts with a bracket, or with a `p` that starts a word. -/
theorem Site.StandsIn.start (h : site.StandsIn previous [] (c :: cs)) :
    c = '[' ∨ c = 'p' ∧ previous.any isWord = false := by
  obtain ⟨hafter, htext⟩ := h
  rw [List.nil_append] at htext
  cases hafter with
  | bracket token rest _ => exact Or.inl (List.cons.inj htext).1
  | declaration token rest _ hword => exact Or.inr ⟨(List.cons.inj htext).1, hword⟩

/-- A character with which no annotation starts is passed over. -/
theorem Site.StandsIn.skip (hc : ¬ (c = '[' ∨ c = 'p' ∧ previous.any isWord = false))
    (h : site.StandsIn previous front (c :: cs)) :
    ∃ front', front = c :: front' ∧ site.StandsIn (some c) front' cs := by
  cases front with
  | nil => exact absurd h.start hc
  | cons d front =>
      obtain rfl : c = d := (List.cons.inj h.text).1
      refine ⟨front, rfl, ?_⟩
      have hsplit : site.StandsIn previous ([c] ++ front) ([c] ++ cs) := h
      exact standsIn_append_iff.mp hsplit

/-- No annotation starts within a word. -/
theorem Site.StandsIn.skip_word (hword : previous.any isWord = true)
    (hds : ∀ c ∈ ds, isIdentRest c = true) (h : site.StandsIn previous front (ds ++ cs)) :
    ∃ front', front = ds ++ front' ∧ site.StandsIn (ds.getLast?.or previous) front' cs := by
  induction ds generalizing previous front with
  | nil => exact ⟨front, rfl, h⟩
  | cons c ds ih =>
      obtain ⟨hc, hds⟩ := List.forall_mem_cons.mp hds
      have hstart : ¬ (c = '[' ∨ c = 'p' ∧ previous.any isWord = false) := by
        rintro (rfl | ⟨-, hnot⟩)
        · exact absurd hc (by decide)
        · exact absurd (hword.symm.trans hnot) (by decide)
      have hnext : (some c).any isWord = true := isWord_of_isIdentRest hc
      obtain ⟨behind, rfl, hbehind⟩ := h.skip hstart
      obtain ⟨front', rfl, hfront⟩ := ih hnext hds hbehind
      rw [getLast?_cons_or]
      exact ⟨front', rfl, hfront⟩

/-! ## Overlaps -/

/-- A text goes on with one run of letters, up to one character. -/
theorem run_inj {xs ys us vs : List Char} {x y : Char} (hxs : ∀ c ∈ xs, isIdentRest c = true)
    (hys : ∀ c ∈ ys, isIdentRest c = true) (hx : isIdentRest x = false)
    (hy : isIdentRest y = false) (h : xs ++ x :: us = ys ++ y :: vs) :
    xs = ys ∧ x = y ∧ us = vs := by
  have hrun := congrArg (List.takeWhile isIdentRest) h
  rw [List.takeWhile_append_of_pos hxs, List.takeWhile_append_of_pos hys,
    List.takeWhile_cons_of_neg (by simp [hx]), List.takeWhile_cons_of_neg (by simp [hy]),
    List.append_nil, List.append_nil] at hrun
  subst hrun
  obtain ⟨rfl, rfl⟩ := List.cons.inj (List.append_cancel_left h)
  exact ⟨rfl, rfl, rfl⟩

/-- The annotation is a declaration, not one in brackets. -/
def Site.IsDeclaration (site : Site) : Prop := site.before = "public ".toList

/-- The annotation is a declaration, and its token is the word that declarations start
    with. -/
def Site.TakesPublic (site : Site) : Prop := site.IsDeclaration ∧ site.token = "public".toList

/-- An annotation that starts with a token is a declaration, and the token is its first
    word. -/
theorem Site.StandsIn.token_eq (htoken : isIdent token = true) (hstop : isIdentRest stop = false)
    (h : site.StandsIn previous [] (token ++ stop :: rest)) :
    site.IsDeclaration ∧ token = "public".toList ∧ stop = ' ' := by
  obtain ⟨hafter, htext⟩ := h
  have hall := all_of_isIdent htoken
  rw [List.nil_append] at htext
  cases hafter with
  | bracket other rest' _ =>
      cases token with
      | nil => exact nomatch htoken
      | cons c token =>
          obtain rfl : c = '[' := (List.cons.inj htext).1
          exact absurd (hall '[' List.mem_cons_self) (by decide)
  | declaration other rest' _ _ =>
      have hpublic : token ++ stop :: rest = "public".toList ++ ' ' :: (other ++ ' ' :: rest') := by
        rw [htext]
        simp [Site.text]
      have hletters := all_of_isIdent (by decide : isIdent "public".toList = true)
      obtain ⟨hword, hblank, -⟩ := run_inj hall hletters hstop (by decide) hpublic
      exact ⟨rfl, hword, hblank⟩

/-- Behind the start of an annotation no other one starts before the end of its token,
    unless the token is `public`. -/
theorem Site.StandsIn.skip_token (htoken : isIdent token = true) (hstop : stop ∈ [']', ' '])
    (h : site.StandsIn previous front (token ++ stop :: rest)) :
    (front = [] ∧ site.IsDeclaration ∧ token = "public".toList ∧ stop = ' ')
      ∨ ∃ front', front = token ++ stop :: front' ∧ site.StandsIn (some stop) front' rest := by
  have hends : ∀ x ∈ [']', ' '], isIdentRest x = false ∧ ¬ (x = '[' ∨ x = 'p') :=
    List.forall_mem_cons.mpr ⟨by decide, List.forall_mem_singleton.mpr (by decide)⟩
  obtain ⟨hrest, hstart⟩ := hends stop hstop
  cases front with
  | nil =>
      exact Or.inl ⟨rfl, h.token_eq htoken hrest⟩
  | cons d front =>
      right
      cases token with
      | nil => exact nomatch htoken
      | cons c token =>
          obtain ⟨hc, hall⟩ := List.forall_mem_cons.mp (all_of_isIdent htoken)
          obtain rfl : c = d := (List.cons.inj h.text).1
          have hsplit : site.StandsIn previous ([c] ++ front) ([c] ++ (token ++ stop :: rest)) := h
          have hword : (some c).any isWord = true := isWord_of_isIdentRest hc
          -- the rest of the token is part of the word, and no annotation starts at its end
          obtain ⟨end', rfl, hend⟩ := (standsIn_append_iff.mp hsplit).skip_word hword hall
          obtain ⟨front', rfl, hfront⟩ := hend.skip fun hs => hstart (hs.imp id And.left)
          exact ⟨front', rfl, hfront⟩

/-- An annotation in a text that starts with one is this one, or is a declaration that starts
    with the token of this one, or stands behind it. -/
theorem Site.StandsIn.cases_site (hsite : site.After previous)
    (h : other.StandsIn previous front (site.text ++ site.rest)) :
    (front = [] ∧ other = site)
      ∨ (front = "public ".toList ∧ site.TakesPublic ∧ other.IsDeclaration)
      ∨ ∃ front', front = site.text ++ front'
        ∧ other.StandsIn (some site.stop) front' site.rest := by
  cases front with
  | nil =>
      have hhere := standsIn_nil_iff.mp h
      rw [site?_eq_some_iff.mpr ⟨hsite, rfl⟩] at hhere
      exact Or.inl ⟨rfl, (Option.some.inj hhere).symm⟩
  | cons d front =>
      right
      cases hsite with
      | bracket token rest htoken =>
          obtain rfl : '[' = d := (List.cons.inj h.text).1
          have hsplit :
              other.StandsIn previous (['['] ++ front) (['['] ++ (token ++ ']' :: rest)) := by
            simpa [Site.text] using h
          rcases (standsIn_append_iff.mp hsplit).skip_token htoken (by decide) with
            ⟨-, -, -, hblank⟩ | ⟨front', rfl, hfront⟩
          · exact absurd hblank (by decide)
          · exact Or.inr ⟨front', by simp [Site.text], hfront⟩
      | declaration token rest htoken _ =>
          have hpublic : "public ".toList = ['p'] ++ ("ublic".toList ++ [' ']) := by decide
          have htext : Site.text ⟨"public ".toList, token, ' ', rest⟩ ++ rest
              = ['p'] ++ ("ublic".toList ++ ' ' :: (token ++ ' ' :: rest)) := by
            rw [Site.text, hpublic]
            simp
          rw [htext] at h
          obtain rfl : 'p' = d := (List.cons.inj h.text).1
          have hsplit : other.StandsIn previous (['p'] ++ front) _ := h
          have hword : (['p'].getLast?.or previous).any isWord = true := by
            show isWord 'p' = true
            decide
          have hletters := all_of_isIdent (by decide : isIdent "ublic".toList = true)
          obtain ⟨end', rfl, hend⟩ := (standsIn_append_iff.mp hsplit).skip_word hword hletters
          obtain ⟨start, rfl, hstart⟩ := hend.skip (by simp)
          rcases hstart.skip_token htoken (by decide) with
            ⟨rfl, hother, rfl, -⟩ | ⟨front', rfl, hfront⟩
          · exact Or.inl ⟨hpublic.symm, ⟨rfl, rfl⟩, hother⟩
          · refine Or.inr ⟨front', ?_, hfront⟩
            rw [Site.text, hpublic]
            simp

/-! ## Readings -/

/-- A part of a text: a character that stays, or an annotation. -/
inductive Part where
  | kept (c : Char)
  | typed (site : Site)

namespace Part

/-- The text of the part. -/
def text : Part → List Char
  | kept c => [c]
  | typed s => s.text

/-- The text of the part with its token replaced. -/
def replaced (replace : List Char → List Char) : Part → List Char
  | kept c => [c]
  | typed s => s.before ++ replace s.token ++ [s.stop]

theorem text_ne_nil (part : Part) : part.text ≠ [] := by
  cases part with
  | kept c =>
      show [c] ≠ []
      exact List.cons_ne_nil c []
  | typed s =>
      show s.before ++ s.token ++ [s.stop] ≠ []
      exact List.append_ne_nil_of_right_ne_nil _ (List.cons_ne_nil s.stop [])

end Part

variable {part : Part} {parts others : List Part}

/-- The annotation is one of the parts, with `front` before it. -/
def Finds (parts : List Part) (front : List Char) (site : Site) : Prop :=
  ∃ before later, parts = before ++ .typed site :: later ∧ before.flatMap Part.text = front

/-- One of the parts is a declaration with the token `public`, and `front` ends where this
    token starts. -/
def Swallows (parts : List Part) (front : List Char) : Prop :=
  ∃ site start, site.TakesPublic ∧ Finds parts start site ∧ front = start ++ site.before

/-- The parts make up the text.  The annotations among them stand in the text, and every
    annotation that stands there is among them, except a declaration that starts with the
    token of a declaration among them. -/
structure IsReading (previous : Option Char) (parts : List Part) (cs : List Char) : Prop where
  text : parts.flatMap Part.text = cs
  stands : ∀ {front site}, Finds parts front site → site.StandsIn previous front cs
  complete : ∀ {front site}, site.StandsIn previous front cs →
    Finds parts front site ∨ (site.IsDeclaration ∧ Swallows parts front)

theorem not_finds_nil : ¬ Finds [] front site := by
  rintro ⟨before, later, h, -⟩
  exact absurd h.symm (List.append_ne_nil_of_right_ne_nil _ (List.cons_ne_nil _ _))

theorem finds_cons_iff :
    Finds (part :: parts) front site
      ↔ (front = [] ∧ part = .typed site)
        ∨ ∃ front', front = part.text ++ front' ∧ Finds parts front' site := by
  constructor
  · rintro ⟨before, later, h, rfl⟩
    cases before with
    | nil => exact Or.inl ⟨rfl, (List.cons.inj h).1⟩
    | cons first before =>
        obtain ⟨rfl, rfl⟩ := List.cons.inj h
        exact Or.inr ⟨_, List.flatMap_cons, before, later, rfl, rfl⟩
  · rintro (⟨rfl, rfl⟩ | ⟨front', rfl, before, later, rfl, rfl⟩)
    · exact ⟨[], parts, rfl, rfl⟩
    · exact ⟨part :: before, later, rfl, List.flatMap_cons⟩

theorem swallows_cons_iff :
    Swallows (part :: parts) front
      ↔ (front = "public ".toList ∧ ∃ site : Site, site.TakesPublic ∧ part = .typed site)
        ∨ ∃ front', front = part.text ++ front' ∧ Swallows parts front' := by
  constructor
  · rintro ⟨site, start, hpublic, hfinds, rfl⟩
    rcases finds_cons_iff.mp hfinds with ⟨rfl, rfl⟩ | ⟨start, rfl, hlater⟩
    · exact Or.inl ⟨hpublic.1, site, hpublic, rfl⟩
    · exact Or.inr ⟨_, List.append_assoc _ _ _, site, start, hpublic, hlater, rfl⟩
  · rintro (⟨rfl, site, hpublic, rfl⟩ | ⟨front', rfl, site, start, hpublic, hfinds, rfl⟩)
    · exact ⟨site, [], hpublic, finds_cons_iff.mpr (Or.inl ⟨rfl, rfl⟩), hpublic.1.symm⟩
    · refine ⟨site, part.text ++ start, hpublic, ?_, (List.append_assoc _ _ _).symm⟩
      exact finds_cons_iff.mpr (Or.inr ⟨start, rfl, hfinds⟩)

/-! ## The pass reads -/

theorem isReading_nil (previous : Option Char) : IsReading previous [] [] where
  text := rfl
  stands := fun h => absurd h not_finds_nil
  complete := by
    rintro front site ⟨-, htext⟩
    have hsite : site.text ≠ [] := (Part.typed site).text_ne_nil
    obtain ⟨-, hrest⟩ := List.append_eq_nil_iff.mp htext.symm
    exact absurd (List.append_eq_nil_iff.mp hrest).1 hsite

/-- A part and a reading of what follows it are a reading, if what the part hides is not
    left out. -/
theorem IsReading.cons (h : IsReading (part.text.getLast?.or previous) parts cs)
    (hhere : ∀ {site}, part = .typed site → site.StandsIn previous [] (part.text ++ cs))
    (hinside : ∀ {front site}, site.StandsIn previous front (part.text ++ cs) →
      Finds (part :: parts) front site ∨ (site.IsDeclaration ∧ Swallows (part :: parts) front)
        ∨ ∃ front', front = part.text ++ front') :
    IsReading previous (part :: parts) (part.text ++ cs) where
  text := by rw [List.flatMap_cons, h.text]
  stands := by
    intro front site hfinds
    rcases finds_cons_iff.mp hfinds with ⟨rfl, hpart⟩ | ⟨front', rfl, hlater⟩
    · exact hhere hpart
    · exact standsIn_append_iff.mpr (h.stands hlater)
  complete := by
    intro front site hstands
    rcases hinside hstands with hfinds | hswallows | ⟨front', rfl⟩
    · exact Or.inl hfinds
    · exact Or.inr hswallows
    · rcases h.complete (standsIn_append_iff.mp hstands) with hfinds | ⟨hdecl, hswallows⟩
      · exact Or.inl (finds_cons_iff.mpr (Or.inr ⟨front', rfl, hfinds⟩))
      · exact Or.inr ⟨hdecl, swallows_cons_iff.mpr (Or.inr ⟨front', rfl, hswallows⟩)⟩

theorem IsReading.kept (hnone : site? previous (c :: cs) = none)
    (h : IsReading (some c) parts cs) : IsReading previous (.kept c :: parts) (c :: cs) := by
  have hlast : (Part.kept c).text.getLast?.or previous = some c := rfl
  refine IsReading.cons (hlast.symm ▸ h) (fun hpart => nomatch hpart) ?_
  intro front site hstands
  cases front with
  | nil => exact nomatch hnone.symm.trans (standsIn_nil_iff.mp hstands)
  | cons d front =>
      obtain rfl : c = d := (List.cons.inj hstands.text).1
      exact Or.inr (Or.inr ⟨front, rfl⟩)

theorem IsReading.typed (hsite : site.After previous)
    (h : IsReading (some site.stop) parts site.rest) :
    IsReading previous (.typed site :: parts) (site.text ++ site.rest) := by
  have hstop : (Part.typed site).text.getLast?.or previous = some site.stop := by
    rw [Part.text, Site.text, List.getLast?_concat, Option.some_or]
  show IsReading previous (.typed site :: parts) ((Part.typed site).text ++ site.rest)
  refine IsReading.cons (hstop.symm ▸ h) ?_ ?_
  · intro other hpart
    obtain rfl := Part.typed.inj hpart
    exact standsIn_nil_iff.mpr (site?_eq_some_iff.mpr ⟨hsite, rfl⟩)
  · intro front other hstands
    rcases hstands.cases_site hsite with ⟨rfl, rfl⟩ | ⟨rfl, hpublic, hother⟩ | ⟨front', rfl, -⟩
    · exact Or.inl (finds_cons_iff.mpr (Or.inl ⟨rfl, rfl⟩))
    · exact Or.inr (Or.inl ⟨hother, swallows_cons_iff.mpr (Or.inl ⟨rfl, site, hpublic, rfl⟩)⟩)
    · exact Or.inr (Or.inr ⟨front', rfl⟩)

/-- The pass has a reading of the text before it, and replaces the tokens of its
    annotations. -/
theorem exists_reading (replace : List Char → List Char) (previous : Option Char) (cs : List Char) :
    ∃ parts, IsReading previous parts cs
      ∧ replaceTokens replace previous cs = parts.flatMap (Part.replaced replace) := by
  fun_induction replaceTokens replace previous cs with
  | case1 previous cs site h ih =>
      obtain ⟨hafter, rfl⟩ := site?_eq_some_iff.mp h
      obtain ⟨parts, hparts, hrest⟩ := ih
      refine ⟨.typed site :: parts, hparts.typed hafter, ?_⟩
      rw [hrest, List.flatMap_cons]
      simp [Part.replaced]
  | case2 previous h => exact ⟨[], isReading_nil previous, rfl⟩
  | case3 previous c cs h ih =>
      obtain ⟨parts, hparts, hrest⟩ := ih
      refine ⟨.kept c :: parts, hparts.kept h, ?_⟩
      rw [hrest, List.flatMap_cons]
      rfl

/-! ## One reading -/

/-- The first part is the annotation at the front of the text, if there is one. -/
theorem IsReading.site?_eq (h : IsReading previous (part :: parts) cs) :
    (∀ {site}, part = .typed site → site? previous cs = some site)
      ∧ ∀ {c}, part = .kept c → site? previous cs = none := by
  constructor
  · rintro site rfl
    exact standsIn_nil_iff.mp (h.stands (finds_cons_iff.mpr (Or.inl ⟨rfl, rfl⟩)))
  · rintro c rfl
    rw [Option.eq_none_iff_forall_ne_some]
    intro site hsite
    rcases h.complete (standsIn_nil_iff.mpr hsite) with hfinds | ⟨-, hswallows⟩
    · rcases finds_cons_iff.mp hfinds with ⟨-, hpart⟩ | ⟨front, hfront, -⟩
      · exact nomatch hpart
      · exact nomatch hfront
    · rcases swallows_cons_iff.mp hswallows with ⟨-, site, -, hpart⟩ | ⟨front, hfront, -⟩
      · exact nomatch hpart
      · exact nomatch hfront

/-- The parts after the first one read what follows it. -/
theorem IsReading.tail (h : IsReading previous (part :: parts) (part.text ++ cs)) :
    IsReading (part.text.getLast?.or previous) parts cs where
  text := by
    have htext := h.text
    rw [List.flatMap_cons] at htext
    exact List.append_cancel_left htext
  stands := by
    intro front site hfinds
    exact standsIn_append_iff.mp (h.stands (finds_cons_iff.mpr (Or.inr ⟨front, rfl, hfinds⟩)))
  complete := by
    intro front site hstands
    rcases h.complete (standsIn_append_iff.mpr hstands) with hfinds | ⟨hdecl, hswallows⟩
    · rcases finds_cons_iff.mp hfinds with ⟨hnil, -⟩ | ⟨front', heq, hlater⟩
      · exact absurd (List.append_eq_nil_iff.mp hnil).1 part.text_ne_nil
      · obtain rfl := List.append_cancel_left heq
        exact Or.inl hlater
    · rcases swallows_cons_iff.mp hswallows with ⟨heq, s, hpublic, rfl⟩ | ⟨front', heq, hlater⟩
      · -- the first part is longer than what stands before its token
        have hlength := congrArg List.length heq
        rw [Part.text, Site.text, hpublic.1] at hlength
        simp only [List.length_append, List.length_cons] at hlength
        omega
      · obtain rfl := List.append_cancel_left heq
        exact Or.inr ⟨hdecl, hlater⟩

/-- A text has one reading only. -/
theorem IsReading.unique (h : IsReading previous parts cs)
    (hothers : IsReading previous others cs) :
    others = parts := by
  induction parts generalizing previous others cs with
  | nil =>
      obtain rfl := h.text
      cases others with
      | nil => rfl
      | cons part others =>
          have htext := hothers.text
          rw [List.flatMap_cons] at htext
          exact absurd (List.append_eq_nil_iff.mp htext).1 part.text_ne_nil
  | cons part parts ih =>
      cases others with
      | nil =>
          have htext := h.text.trans hothers.text.symm
          rw [List.flatMap_cons] at htext
          exact absurd (List.append_eq_nil_iff.mp htext).1 part.text_ne_nil
      | cons other others =>
          have htext := hothers.text.trans h.text.symm
          rw [List.flatMap_cons, List.flatMap_cons] at htext
          have hpart : other = part := by
            cases part with
            | typed s =>
                have hsite := h.site?_eq.1 rfl
                cases other with
                | typed s' =>
                    have hsame := (hothers.site?_eq.1 rfl).symm.trans hsite
                    exact congrArg Part.typed (Option.some.inj hsame)
                | kept c => exact nomatch (hothers.site?_eq.2 rfl).symm.trans hsite
            | kept c =>
                have hnone := h.site?_eq.2 rfl
                cases other with
                | typed s' => exact nomatch (hothers.site?_eq.1 rfl).symm.trans hnone
                | kept d => exact congrArg Part.kept (List.cons.inj htext).1
          subst hpart
          have hrest := List.append_cancel_left htext
          obtain rfl := h.text
          rw [List.flatMap_cons] at h hothers
          rw [ih h.tail hothers.tail]

/-! ## Scripts -/

/-- A script has one reading, and in the normalized script the annotations of this reading
    have their tokens normalized; all other characters are the same.  So a script in which
    no annotation has a token of the table is kept. -/
theorem normalize_reads (table : TypeTable) (script : String) :
    (∃ parts, (∀ others, IsReading none others script.toList ↔ others = parts)
      ∧ (normalize table script).toList = parts.flatMap (Part.replaced table.replacement))
    ∧ ((∀ front (site : Site), site.StandsIn none front script.toList →
        String.ofList site.token ∉ table.keys) → normalize table script = script) := by
  obtain ⟨parts, hparts, hpass⟩ := exists_reading table.replacement none script.toList
  have hscript : (normalize table script).toList
      = parts.flatMap (Part.replaced table.replacement) := by
    rw [normalize, String.toList_ofList]
    exact hpass
  refine ⟨⟨parts, fun others => ⟨fun h => hparts.unique h, fun h => h ▸ hparts⟩, hscript⟩, ?_⟩
  intro hkeys
  have hkept : ∀ part ∈ parts, part.replaced table.replacement = part.text := by
    intro part hpart
    cases part with
    | kept c => rfl
    | typed site =>
        -- the annotation stands in the script, so its token is none of the table
        obtain ⟨before, later, hsplit⟩ := List.append_of_mem hpart
        have htoken := hkeys _ site (hparts.stands ⟨before, later, hsplit, rfl⟩)
        have hreplacement : table.replacement site.token = site.token := by
          rw [TypeTable.replacement, TypeTable.normalize_of_not_mem_keys htoken,
            String.toList_ofList]
        rw [Part.replaced, hreplacement]
        rfl
  apply String.toList_inj.mp
  rw [hscript, List.flatMap_congr hkept, hparts.text]

example : normalize ⟨[]⟩ "public public integer n; [integer]"
    = "public public integer n; [int]" := by
  decide +kernel

end SwaggerCmdlets.TypeUse
