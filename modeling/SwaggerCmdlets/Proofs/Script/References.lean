import Mathlib.Data.List.Infix
import SwaggerCmdlets.Command.PathTemplate
import SwaggerCmdlets.Script.Call

/-! # References — the variables that an address uses

    In the text of a call's address a variable is used by a reference: a mark,
    the variable's name and a closing bracket.  The address is made of base and
    path, with references in the place of placeholders.  So what it refers to
    are the names of the placeholders (`refers_target_iff`), provided that no
    other part of the text looks like a reference. -/

namespace SwaggerCmdlets

open Text (pieces unpieces trimEndOf trimStartOf)
open PathTemplate (segments placeholder?)

namespace Call

variable {base path : String} {seg name text rest : List Char}

/-- What a reference starts with. -/
def mark : List Char := ['$', '(', '$']

/-- The text refers to the name: somewhere in it stand a mark, the name, and the
    first closing bracket after the mark. -/
def Refers (text name : List Char) : Prop := ')' ∉ name ∧ mark ++ (name ++ [')']) <:+: text

instance (text name : List Char) : Decidable (Refers text name) :=
  inferInstanceAs (Decidable (_ ∧ _))

/-- A segment that has no braces but those of a placeholder, and that is filled
    with a reference to its name if it is one, and with none otherwise. -/
structure Clear (seg : List Char) : Prop where
  braces : '\x7b' ∉ (placeholder? seg).getD seg ∧ '\x7d' ∉ (placeholder? seg).getD seg
  bare : placeholder? seg = none → ¬ mark <:+: seg
  name : ∀ name ∈ placeholder? seg, ')' ∉ name ∧ ¬ mark <:+: '(' :: '$' :: name

theorem Clear.nil : Clear [] where
  braces := ⟨List.not_mem_nil, List.not_mem_nil⟩
  bare := fun _ => by decide
  name := fun _ h => nomatch h

/-! ## Reading a text from its start -/

/-- What stands at the start of a text and has no `c` stands before the first `c`. -/
theorem prefix_of_prefix_append_cons {p : List Char} {c : Char} (hc : c ∉ p)
    (h : p <+: text ++ c :: rest) : p <+: text := by
  have hend : c ∈ text ++ [c] := List.mem_append_right _ (List.mem_singleton_self c)
  have hstart : text ++ [c] <+: text ++ c :: rest := ⟨rest, (List.append_cons _ _ _).symm⟩
  rcases List.prefix_or_prefix_of_prefix h hstart with hp | hp
  · rcases List.prefix_concat_iff.mp hp with rfl | hp
    · exact absurd hend hc
    · exact hp
  · exact absurd (hp.subset hend) hc

theorem Refers.mono (h : Refers rest name) (hrest : rest <:+: text) : Refers text name :=
  ⟨h.1, h.2.trans hrest⟩

/-- Before a character that is in no mark, a text without marks adds no references. -/
theorem refers_append_cons {c : Char} (hc : c ∉ mark) (htext : ¬ mark <:+: text) :
    Refers (text ++ c :: rest) name ↔ Refers rest name := by
  have hmark {t : List Char} (ht : mark ++ (name ++ [')']) <+: t) : mark <+: t :=
    (List.prefix_append _ _).trans ht
  constructor
  · rintro ⟨hname, h⟩
    refine ⟨hname, ?_⟩
    induction text with
    | nil =>
        rcases List.infix_cons_iff.mp h with hp | hrest
        · obtain ⟨hne, -⟩ := List.cons_prefix_cons.mp (hmark hp)
          exact absurd (hne ▸ List.mem_cons_self) hc
        · exact hrest
    | cons x text ih =>
        rcases List.infix_cons_iff.mp h with hp | hrest
        · have hp : mark <+: (x :: text) ++ c :: rest := hmark hp
          exact absurd (prefix_of_prefix_append_cons hc hp).isInfix htext
        · exact ih (fun hm => htext (List.infix_cons hm)) hrest
  · exact fun h => h.mono (List.infix_append_of_infix_right (List.suffix_cons _ _).isInfix)

theorem refers_cons {c : Char} (hc : c ∉ mark) : Refers (c :: rest) name ↔ Refers rest name := by
  have hnil : ¬ mark <:+: ([] : List Char) := by decide
  exact refers_append_cons hc hnil

/-- A reference refers to its own name, and adds nothing else to what the rest of the
    text refers to. -/
theorem refers_reference {own : List Char} (hown : ')' ∉ own)
    (hplain : ¬ mark <:+: '(' :: '$' :: own) :
    Refers (mark ++ (own ++ ')' :: rest)) name ↔ name = own ∨ Refers rest name := by
  have hrest : Refers (('(' :: '$' :: own) ++ ')' :: rest) name ↔ Refers rest name :=
    refers_append_cons (by decide) hplain
  constructor
  · rintro ⟨hname, h⟩
    rcases List.infix_cons_iff.mp h with hp | htail
    · -- both names end at the first closing bracket
      left
      obtain ⟨t, ht⟩ := (List.prefix_append_right_inj mark).mp hp
      rw [List.append_assoc] at ht
      have hle : name <+: own := prefix_of_prefix_append_cons hname ⟨_, ht⟩
      have hge : own <+: name := prefix_of_prefix_append_cons hown ⟨_, ht.symm⟩
      exact hle.eq_of_length_le hge.length_le
    · exact Or.inr (hrest.mp ⟨hname, htail⟩)
  · rintro (rfl | h)
    · refine ⟨hown, List.IsPrefix.isInfix ?_⟩
      exact (List.prefix_append_right_inj mark).mpr ⟨rest, (List.append_cons _ _ _).symm⟩
    · exact (hrest.mpr h).mono (List.suffix_cons _ _).isInfix

/-- No reference ends with a slash. -/
theorem refers_concat_slash : Refers (text ++ ['/']) name ↔ Refers text name := by
  constructor
  · rintro ⟨hname, h⟩
    refine ⟨hname, ?_⟩
    rcases List.infix_concat_iff.mp h with hs | h
    · rcases List.suffix_concat_iff.mp hs with hnil | ⟨t, ht, -⟩
      · exact nomatch hnil
      · rw [← List.append_assoc] at ht
        exact nomatch (List.append_inj' ht rfl).2
    · exact h
  · exact fun h => h.mono List.infix_append_left

/-! ## Segments -/

theorem references_append (xs ys : List Char) :
    references (xs ++ ys) = references xs ++ references ys := List.flatMap_append

/-- Text without braces stays as it is. -/
theorem references_of_no_braces (h : '\x7b' ∉ text ∧ '\x7d' ∉ text) :
    references text = text := by
  induction text with
  | nil => rfl
  | cons c text ih =>
      obtain ⟨hopen, hclose⟩ := h
      rw [List.mem_cons, not_or] at hopen hclose
      rw [references, List.flatMap_cons, if_neg (Ne.symm hopen.1), if_neg (Ne.symm hclose.1)]
      exact congrArg (c :: ·) (ih ⟨hopen.2, hclose.2⟩)

/-- A placeholder is a name in braces. -/
theorem eq_of_placeholder? (h : placeholder? seg = some name) :
    seg = '\x7b' :: (name ++ ['\x7d']) := by
  unfold placeholder? at h
  split at h
  · rename_i rest
    split at h
    · rename_i own hrest
      obtain rfl : own.reverse = name := Option.some.inj h
      rw [List.reverse_eq_cons_iff.mp hrest]
    · exact nomatch h
  · exact nomatch h

/-- What a filled segment refers to, followed by the next one. -/
theorem Clear.refers (h : Clear seg) :
    Refers (references seg ++ '/' :: rest) name ↔
      placeholder? seg = some name ∨ Refers rest name := by
  have hslash : '/' ∉ mark := by decide
  have hbraces := h.braces
  cases hseg : placeholder? seg with
  | none =>
      have hfilled : references seg = seg := by
        rw [hseg] at hbraces
        exact references_of_no_braces hbraces
      rw [hfilled, refers_append_cons hslash (h.bare hseg)]
      exact ⟨Or.inr, fun hor => hor.resolve_left (nomatch ·)⟩
  | some own =>
      obtain ⟨hown, hplain⟩ := h.name own hseg
      have hfilled : references seg = mark ++ (own ++ [')']) := by
        rw [hseg] at hbraces
        have hname : references own = own := references_of_no_braces hbraces
        rw [eq_of_placeholder? hseg, ← List.singleton_append, references_append, references_append,
          hname]
        rfl
      rw [hfilled, List.append_assoc, List.append_assoc]
      show Refers (mark ++ (own ++ ')' :: '/' :: rest)) name ↔ _
      rw [refers_reference hown hplain, refers_cons hslash, Option.some_inj, eq_comm]

/-- What a row of filled segments refers to. -/
theorem refers_segments {segs : List (List Char)} (h : ∀ seg ∈ segs, Clear seg) :
    Refers (segs.flatMap fun seg => references seg ++ ['/']) name ↔
      ∃ seg ∈ segs, placeholder? seg = some name := by
  induction segs with
  | nil =>
      refine iff_of_false (fun h => ?_) (by simp)
      exact nomatch List.eq_nil_of_infix_nil h.2
  | cons seg segs ih =>
      obtain ⟨hseg, hsegs⟩ := List.forall_mem_cons.mp h
      rw [List.flatMap_cons, List.append_assoc, List.singleton_append, hseg.refers, ih hsegs]
      simp

/-! ## Addresses -/

/-- Filling a text fills its pieces. -/
theorem references_unpieces {segs : List (List Char)} (h : segs ≠ []) :
    references (unpieces '/' segs) ++ ['/'] = segs.flatMap fun seg => references seg ++ ['/'] := by
  induction segs with
  | nil => exact absurd rfl h
  | cons seg segs ih =>
      cases segs with
      | nil => exact (List.append_nil _).symm
      | cons next segs =>
          have hslash : references ['/'] = ['/'] := by decide
          have hstep : unpieces '/' (seg :: next :: segs)
              = seg ++ (['/'] ++ unpieces '/' (next :: segs)) := rfl
          rw [List.flatMap_cons, ← ih (List.cons_ne_nil _ _), hstep, references_append,
            references_append, hslash]
          simp only [List.append_assoc]

/-- What a filled path refers to. -/
theorem refers_references (h : ∀ seg ∈ segments path, Clear seg) :
    Refers (references path.toList) name ↔ ∃ seg ∈ segments path, placeholder? seg = some name := by
  have hsegment {seg : List Char} :
      seg ∈ segments path ↔ seg ∈ pieces '/' path.toList ∧ seg ≠ [] := by
    simp [segments]
  have hpieces : ∀ seg ∈ pieces '/' path.toList, Clear seg := by
    intro seg hseg
    by_cases hnil : seg = []
    · rw [hnil]
      exact Clear.nil
    · exact h seg (hsegment.mpr ⟨hseg, hnil⟩)
  rw [← refers_concat_slash, ← Text.unpieces_pieces '/' path.toList,
    references_unpieces (Text.pieces_ne_nil _ _), refers_segments hpieces]
  constructor
  · rintro ⟨seg, hseg, hname⟩
    refine ⟨seg, hsegment.mpr ⟨hseg, ?_⟩, hname⟩
    rintro rfl
    exact nomatch hname
  · rintro ⟨seg, hseg, hname⟩
    exact ⟨seg, (hsegment.mp hseg).1, hname⟩

theorem refers_trimStartOf : Refers (trimStartOf '/' text) name ↔ Refers text name := by
  induction text with
  | nil => exact Iff.rfl
  | cons c text ih =>
      rw [trimStartOf, List.dropWhile_cons]
      by_cases hc : (c == '/') = true
      · rw [if_pos hc, eq_of_beq hc, refers_cons (by decide)]
        exact ih
      · rw [if_neg hc]

/-- The address of a call refers to the names of the path's placeholders, and to
    nothing else. -/
theorem refers_target_iff (hbase : ¬ mark <:+: base.toList) (h : ∀ seg ∈ segments path, Clear seg) :
    Refers (target base path).toList name ↔
      ∃ seg ∈ segments path, placeholder? seg = some name := by
  rw [← refers_references h, target]
  by_cases habsolute : Url.isAbsolute path = true
  · rw [if_pos habsolute, String.toList_ofList]
  · have hprefix : trimEndOf '/' base.toList <+: base.toList :=
      ⟨_, Text.dropEndWhile_append_dropped _ _⟩
    have htrim : ¬ mark <:+: trimEndOf '/' base.toList := fun hm =>
      hbase (hm.trans hprefix.isInfix)
    rw [if_neg habsolute, String.toList_ofList, joinSlash, refers_append_cons (by decide) htrim,
      refers_trimStartOf]

end Call

end SwaggerCmdlets
