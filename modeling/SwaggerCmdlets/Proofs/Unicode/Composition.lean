import Mathlib.Data.Option.Basic
import SwaggerCmdlets.Unicode.Normal

/-! # Composition — what normal form brings in

    Normal form replaces code points by others, but only by those of its tables and by
    letters and syllables of Hangul.  So a property that the numbers of the tables have,
    and all numbers from those letters on, is kept (`compose_keeps`).

    Whether all numbers of a table have a property is told from its text, one character
    at a time (`numbersAll`). -/

namespace SwaggerCmdlets.Unicode

variable {p : Nat → Bool} {codes acc : List Nat} {c : Composer} {r : RowReader} {n : Nat}

/-! ## Tables -/

/-- Whether all numbers of a text have the property, after the digits of an open one. -/
def numbersAll (p : Nat → Bool) : Option Nat → List Char → Bool
  | number, [] => number.all p
  | number, c :: cs =>
    match hexDigit? c with
    | some d => numbersAll p (some (16 * number.getD 0 + d)) cs
    | none => number.all p && numbersAll p none cs

/-- All numbers that have been read have the property. -/
structure RowReader.Has (p : Nat → Bool) (r : RowReader) : Prop where
  closed : ∀ row ∈ r.closed, ∀ n ∈ row, p n = true
  row : ∀ n ∈ r.row, p n = true

theorem RowReader.Has.push (h : r.Has p) (hnumber : r.number.all p = true) :
    ∀ n ∈ r.number.toList ++ r.row, p n = true := by
  rw [List.forall_mem_append]
  refine ⟨fun n hn => ?_, h.row⟩
  rw [Option.mem_toList.mp hn] at hnumber
  exact hnumber

theorem RowReader.Has.close (h : r.Has p) (hnumber : r.number.all p = true) : r.close.Has p := by
  rw [RowReader.close]
  have hpush := h.push hnumber
  cases hopen : r.number with
  | none => exact h
  | some n =>
      rw [hopen] at hpush
      refine ⟨List.forall_mem_cons.mpr ⟨fun m hm => ?_, h.closed⟩, List.forall_mem_nil _⟩
      exact hpush m (List.mem_reverse.mp hm)

theorem RowReader.close_number (r : RowReader) : r.close.number = none := by
  rw [RowReader.close]
  cases hopen : r.number with
  | none => exact hopen
  | some n => rfl

/-- The numbers that are read are those that are told. -/
theorem RowReader.Has.foldl {cs : List Char} (h : r.Has p) (hcs : numbersAll p r.number cs = true) :
    (cs.foldl next r).close.Has p := by
  induction cs generalizing r with
  | nil => exact h.close hcs
  | cons c cs ih =>
      rw [numbersAll] at hcs
      rw [List.foldl_cons]
      by_cases hcomma : c = ','
      · subst hcomma
        obtain ⟨hnumber, hcs⟩ := Bool.and_eq_true_iff.mp hcs
        exact ih ⟨h.closed, h.push hnumber⟩ hcs
      · rw [RowReader.next, if_neg hcomma]
        cases hdigit : hexDigit? c with
        | some d =>
            rw [hdigit] at hcs
            exact ih ⟨h.closed, h.row⟩ hcs
        | none =>
            rw [hdigit] at hcs
            obtain ⟨hnumber, hcs⟩ := Bool.and_eq_true_iff.mp hcs
            refine ih (h.close hnumber) ?_
            rw [RowReader.close_number]
            exact hcs

theorem forall_mem_rows {text : String} (h : numbersAll p none text.toList = true) :
    ∀ row ∈ rows text, ∀ n ∈ row, p n = true := by
  have hstart : (⟨[], [], none⟩ : RowReader).Has p := ⟨List.forall_mem_nil _, List.forall_mem_nil _⟩
  intro row hrow
  exact (hstart.foldl h).closed row (List.mem_reverse.mp hrow)

theorem forall_mem_flatMap_rows {texts : List String}
    (h : ∀ text ∈ texts, numbersAll p none text.toList = true) :
    ∀ row ∈ texts.flatMap rows, ∀ n ∈ row, p n = true := by
  intro row hrow
  obtain ⟨text, htext, hrow⟩ := List.mem_flatMap.mp hrow
  exact forall_mem_rows (h text htext) row hrow

/-- The tables lead to nothing without the property, and neither does Hangul. -/
structure TablesKeep (p : Nat → Bool) : Prop where
  pairs : ∀ row ∈ pairTable, ∀ n ∈ row, p n = true
  splits : ∀ row ∈ splitTable, ∀ n ∈ row, p n = true
  hangul : ∀ n, 0x1100 ≤ n → p n = true

/-! ## Decomposition -/

namespace TablesKeep

theorem hangulParts {parts : List Nat} (h : TablesKeep p) (hparts : hangulParts? n = some parts) :
    ∀ m ∈ parts, p m = true := by
  rw [hangulParts?] at hparts
  split at hparts
  · -- the letters of a syllable are counted from the first letters on
    obtain rfl := Option.some.inj hparts
    intro m hm
    refine h.hangul m ?_
    split at hm <;> simp only [List.mem_append, List.mem_cons, List.not_mem_nil, or_false] at hm
    · omega
    · omega
  · exact absurd hparts (Option.some_ne_none parts).symm

theorem rowAt {table : List (List Nat)} {parts : List Nat}
    (htable : ∀ row ∈ table, ∀ m ∈ row, p m = true) (hparts : rowAt? table n = some parts) :
    ∀ m ∈ parts, p m = true := by
  obtain ⟨row, hfind, rfl⟩ := Option.map_eq_some_iff.mp hparts
  exact fun m hm => htable row (List.mem_of_find?_eq_some hfind) m (List.mem_of_mem_tail hm)

theorem parts {parts : List Nat} (h : TablesKeep p) (hparts : parts? n = some parts) :
    ∀ m ∈ parts, p m = true := by
  rw [parts?, Option.ite_none_left_eq_some] at hparts
  rcases (Option.orElse_eq_some _ _ _).mp hparts.2 with hsyllable | ⟨-, htables⟩
  · exact h.hangulParts hsyllable
  · rcases (Option.orElse_eq_some _ _ _).mp htables with hpair | ⟨-, hsplit⟩
    · exact rowAt h.pairs hpair
    · exact rowAt h.splits hsplit

theorem decomposeCode (h : TablesKeep p) (steps : Nat) (hn : p n = true) :
    ∀ m ∈ decomposeCode steps n, p m = true := by
  induction steps generalizing n with
  | zero => exact List.forall_mem_singleton.mpr hn
  | succ steps ih =>
      rw [Unicode.decomposeCode]
      cases hparts : parts? n with
      | none => exact List.forall_mem_singleton.mpr hn
      | some parts =>
          intro m hm
          obtain ⟨part, hpart, hm⟩ := List.mem_flatMap.mp hm
          exact ih (h.parts hparts part hpart) m hm

end TablesKeep

theorem mem_insertMark {m : Nat} : m ∈ insertMark n acc ↔ m = n ∨ m ∈ acc := by
  induction acc with
  | nil => rw [insertMark, List.mem_singleton, or_iff_left List.not_mem_nil]
  | cons first acc ih =>
      rw [insertMark]
      split
      · rw [List.mem_cons, ih, List.mem_cons]
        exact or_left_comm
      · rw [List.mem_cons]

theorem mem_foldl_insertMark {m : Nat} :
    m ∈ codes.foldl (fun acc n => insertMark n acc) acc ↔ m ∈ codes ∨ m ∈ acc := by
  induction codes generalizing acc with
  | nil => rw [List.foldl_nil, or_iff_right List.not_mem_nil]
  | cons n codes ih =>
      rw [List.foldl_cons, ih, mem_insertMark, List.mem_cons, or_left_comm, or_assoc]

/-- Putting marks in order brings in nothing. -/
theorem mem_decompose {m : Nat} : m ∈ decompose codes ↔ ∃ n ∈ codes, m ∈ decomposeCode 6 n := by
  rw [decompose, List.mem_reverse, mem_foldl_insertMark, or_iff_left List.not_mem_nil,
    List.mem_flatMap]

theorem TablesKeep.decompose (h : TablesKeep p) (hcodes : ∀ n ∈ codes, p n = true) :
    ∀ n ∈ decompose codes, p n = true := by
  intro n hn
  obtain ⟨code, hcode, hn⟩ := mem_decompose.mp hn
  exact h.decomposeCode 6 (hcodes code hcode) n hn

/-! ## Composition -/

theorem TablesKeep.composite {a b whole : Nat} (h : TablesKeep p)
    (hwhole : composite? a b = some whole) : p whole = true := by
  rw [composite?] at hwhole
  split at hwhole
  · obtain rfl := Option.some.inj hwhole
    exact h.hangul _ (by omega)
  · split at hwhole
    · rename_i hsyllable
      obtain rfl := Option.some.inj hwhole
      simp only [Bool.and_eq_true, decide_eq_true_eq] at hsyllable
      exact h.hangul _ (by omega)
    · obtain ⟨row, hrow, hhead⟩ := Option.bind_eq_some_iff.mp hwhole
      exact h.pairs row (List.mem_of_find?_eq_some hrow) whole (List.mem_of_mem_head? hhead)

theorem TablesKeep.next (h : TablesKeep p) (hc : ∀ m ∈ c.text, p m = true) (hn : p n = true) :
    ∀ m ∈ (c.next n).text, p m = true := by
  obtain ⟨done, starter, marks⟩ := c
  simp only [Composer.text, List.forall_mem_append, Option.mem_toList] at hc
  obtain ⟨⟨hmarks, hstarter⟩, hdone⟩ := hc
  rw [Composer.next]
  split
  · -- the starter takes the code point
    rename_i whole hwhole
    obtain ⟨s, -, hwhole⟩ := Option.bind_eq_some_iff.mp hwhole
    have hwhole := (Option.ite_none_right_eq_some.mp hwhole).2
    simp only [Composer.text, List.forall_mem_append, Option.mem_toList, Option.some.injEq,
      forall_eq']
    exact ⟨⟨hmarks, h.composite hwhole⟩, hdone⟩
  · split
    · simp only [Composer.text, List.forall_mem_append, Option.mem_toList, Option.some.injEq,
        forall_eq', List.nil_append]
      exact ⟨hn, ⟨hmarks, hstarter⟩, hdone⟩
    · cases starter with
      | some s =>
          simp only [Composer.text, List.forall_mem_append, List.forall_mem_cons,
            Option.mem_toList]
          exact ⟨⟨⟨hn, hmarks⟩, hstarter⟩, hdone⟩
      | none =>
          simp only [Composer.text, List.forall_mem_append, List.forall_mem_cons,
            Option.mem_toList]
          exact ⟨⟨hmarks, hstarter⟩, hn, hdone⟩

/-- Normal form keeps what the tables keep. -/
theorem TablesKeep.compose (h : TablesKeep p) (hcodes : ∀ n ∈ codes, p n = true) :
    ∀ n ∈ compose codes, p n = true := by
  have hrun : ∀ (ns : List Nat) (c : Composer), (∀ n ∈ ns, p n = true) →
      (∀ m ∈ c.text, p m = true) → ∀ m ∈ (ns.foldl Composer.next c).text, p m = true := by
    intro ns
    induction ns with
    | nil => exact fun c _ hc => hc
    | cons n ns ih =>
        intro c hns hc
        obtain ⟨hn, hns⟩ := List.forall_mem_cons.mp hns
        exact ih (c.next n) hns (h.next hc hn)
  intro n hn
  exact hrun _ ⟨[], none, []⟩ (h.decompose hcodes) (List.forall_mem_nil _) n
    (List.mem_reverse.mp hn)

end SwaggerCmdlets.Unicode
