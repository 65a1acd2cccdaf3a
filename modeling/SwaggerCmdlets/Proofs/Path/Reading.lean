import Mathlib.Data.List.TakeWhile
import SwaggerCmdlets.Proofs.Path.Stretches

/-! # Readings — what a path says as a whole

    A path without bare segments says nothing.  In any other one the last bare
    segment is the subject, and the stretches give one pair each, from the last one
    to the first.  But when neither the last stretch nor the one before it has a
    placeholder, the last bare segment is a keyword, the one before it the subject,
    and only the stretches before these two give pairs.

    A scan knows nothing of this: it goes by the number of entries that it has found.
    As long as no placeholder has the subject's own name, so that each pair counts,
    it comes to the same (`shape?_eq_reading?`). -/

namespace SwaggerCmdlets

namespace PathTemplate

open Parameter (addNew untaken subjectName)

/-- The pairs of stretches, from the last one to the first. -/
def pairs (last : Stretch) (earlier : List Stretch) : List Parameter :=
  last.lastPair?.toList ++ earlier.filterMap Stretch.pair?

/-- The last bare segment is the subject. -/
def plainReading (last : Stretch) (earlier : List Stretch) : PathShape :=
  ⟨last.word, .subject last.word :: untaken [subjectName] (pairs last earlier)⟩

/-- The last bare segment is a keyword, and the one before it the subject. -/
def keywordReading (last previous : Stretch) (earlier : List Stretch) : PathShape :=
  ⟨previous.word, .subject previous.word :: ⟨last.word, .switch⟩
    :: untaken [subjectName, last.word] (earlier.filterMap Stretch.pair?)⟩

/-- What stretches say, given from the last one to the first. -/
def readingOf : List Stretch → Option PathShape
  | [] => none
  | [last] => some (plainReading last [])
  | last :: previous :: earlier =>
    if previous.run = [] ∧ last.run = [] then some (keywordReading last previous earlier)
    else some (plainReading last (previous :: earlier))

/-- What a path says. -/
def reading? (path : String) : Option PathShape :=
  readingOf (stretches (segments path)).reverse

variable {s last previous : Stretch} {earlier : List Stretch} {segs : List (List Char)}

/-! ## Pairs -/

namespace Stretch

theorem name_mem_run {p : Parameter} (h : s.pair? = some p ∨ s.lastPair? = some p) :
    p.name ∈ s.run := by
  rcases h with h | h
  · obtain ⟨name, hname, rfl⟩ := Option.map_eq_some_iff.mp h
    exact List.mem_of_getLast? hname
  · obtain ⟨name, hname, rfl⟩ := Option.map_eq_some_iff.mp h
    exact List.mem_of_head? hname

end Stretch

/-- Each pair has its name from one of the runs. -/
theorem name_mem_of_mem_pairs {p : Parameter} (h : p ∈ pairs last earlier) :
    ∃ s ∈ last :: earlier, p.name ∈ s.run := by
  rcases List.mem_append.mp h with h | h
  · exact ⟨last, List.mem_cons_self, Stretch.name_mem_run (Or.inr (Option.mem_toList.mp h))⟩
  · obtain ⟨s, hs, hp⟩ := List.mem_filterMap.mp h
    exact ⟨s, List.mem_cons_of_mem last hs, Stretch.name_mem_run (Or.inl hp)⟩

/-- There are pairs if there are placeholders. -/
theorem pairs_ne_nil (h : last.run ≠ [] ∨ ∃ s ∈ earlier, s.run ≠ []) :
    pairs last earlier ≠ [] := by
  intro hnil
  obtain ⟨hlast, hearlier⟩ := List.append_eq_nil_iff.mp hnil
  rw [Option.toList_eq_nil_iff, Stretch.lastPair?_eq_none_iff] at hlast
  rw [List.filterMap_eq_nil_iff] at hearlier
  rcases h with h | ⟨s, hs, h⟩
  · exact h hlast
  · exact h (Stretch.pair?_eq_none_iff.mp (hearlier s hs))

/-! ## Entries -/

theorem entries_plainReading (last : Stretch) (earlier : List Stretch) :
    (plainReading last earlier).entries
      = (pairs last earlier).foldl addNew [.subject last.word] := by
  rw [Parameter.foldl_addNew_eq]
  rfl

theorem entries_keywordReading (last previous : Stretch) (earlier : List Stretch) :
    (keywordReading last previous earlier).entries
      = (earlier.filterMap Stretch.pair?).foldl addNew
          [.subject previous.word, ⟨last.word, .switch⟩] := by
  rw [Parameter.foldl_addNew_eq]
  rfl

/-- A pair whose name is not the subject's stands beside the subject. -/
theorem two_le_plainReading (hne : pairs last earlier ≠ [])
    (h : ∀ p ∈ pairs last earlier, p.name ≠ subjectName) :
    2 ≤ (plainReading last earlier).entries.length := by
  obtain ⟨p, ps, hpairs⟩ := List.exists_cons_of_ne_nil hne
  have hp : p.name ∉ [subjectName] := by
    rw [List.mem_singleton]
    refine h p ?_
    rw [hpairs]
    exact List.mem_cons_self
  rw [plainReading, hpairs, Parameter.untaken_cons_of_not_mem hp]
  simp

/-- Where there is more than the subject, a stretch adds its pair. -/
theorem Stretch.extend_eq {entries : List Parameter} (h : s.pair? = none → 2 ≤ entries.length) :
    s.extend entries = s.pair?.toList.foldl addNew entries := by
  cases hpair : s.pair? with
  | some p => exact extend_of_pair hpair entries
  | none =>
      match entries, h hpair with
      | first :: second :: rest, _ => exact extend_of_two hpair first second rest

theorem filterMap_pair?_concat (earlier : List Stretch) (s : Stretch) :
    (earlier ++ [s]).filterMap Stretch.pair?
      = earlier.filterMap Stretch.pair? ++ s.pair?.toList := by
  rw [List.filterMap_append]
  cases hpair : s.pair? with
  | none => rw [List.filterMap_cons_none hpair, List.filterMap_nil, Option.toList_none]
  | some p => rw [List.filterMap_cons_some hpair, List.filterMap_nil, Option.toList_some]

theorem extend_plainReading (h : s.pair? = none → 2 ≤ (plainReading last earlier).entries.length) :
    s.extend (plainReading last earlier).entries
      = (plainReading last (earlier ++ [s])).entries := by
  rw [Stretch.extend_eq h, entries_plainReading, entries_plainReading, ← List.foldl_append,
    pairs, pairs, filterMap_pair?_concat, List.append_assoc]

theorem extend_keywordReading (s last previous : Stretch) (earlier : List Stretch) :
    s.extend (keywordReading last previous earlier).entries
      = (keywordReading last previous (earlier ++ [s])).entries := by
  have htwo : 2 ≤ (keywordReading last previous earlier).entries.length := by
    rw [keywordReading]
    simp
  rw [Stretch.extend_eq fun _ => htwo, entries_keywordReading, entries_keywordReading,
    ← List.foldl_append, filterMap_pair?_concat]

theorem entriesOf_cons {st : List Stretch} (h : st ≠ []) :
    entriesOf (s :: st) = s.extend (entriesOf st) := by
  obtain ⟨next, rest, rfl⟩ := List.exists_cons_of_ne_nil h
  rfl

/-- The entries of a reading; none without bare segments. -/
def readEntries (st : List Stretch) : List Parameter := (readingOf st).elim [] (·.entries)

/-- One more stretch on the left does to the entries of a reading what it does in a
    scan. -/
theorem extend_readEntries {st : List Stretch} (s : Stretch) (hne : st ≠ [])
    (h : ∀ s ∈ st, subjectName ∉ s.run) :
    s.extend (readEntries st) = readEntries (st ++ [s]) := by
  have hnames : ∀ last earlier, st = last :: earlier →
      ∀ p ∈ pairs last earlier, p.name ≠ subjectName := by
    rintro last earlier rfl p hp hname
    obtain ⟨s, hs, hrun⟩ := name_mem_of_mem_pairs hp
    exact h s hs (hname ▸ hrun)
  match st, hne with
  | [last], _ =>
      show s.extend (plainReading last []).entries = (readingOf [last, s]).elim [] (·.entries)
      rw [readingOf]
      by_cases hkeyword : s.run = [] ∧ last.run = []
      · rw [if_pos hkeyword]
        have hpairs : pairs last [] = [] := by
          rw [pairs, Stretch.lastPair?_eq_none_iff.mpr hkeyword.2]
          rfl
        rw [plainReading, hpairs]
        exact Stretch.extend_singleton (Stretch.pair?_eq_none_iff.mpr hkeyword.1) _
      · -- one of the two stretches has a placeholder, which has been found if `s` has none
        rw [if_neg hkeyword]
        refine extend_plainReading fun hpair => two_le_plainReading ?_ (hnames last [] rfl)
        rw [Stretch.pair?_eq_none_iff] at hpair
        exact pairs_ne_nil (Or.inl fun hlast => hkeyword ⟨hpair, hlast⟩)
  | last :: previous :: earlier, _ =>
      -- which of the two readings it is has been settled on the right
      show s.extend ((readingOf (last :: previous :: earlier)).elim [] (·.entries))
        = (readingOf (last :: previous :: (earlier ++ [s]))).elim [] (·.entries)
      rw [readingOf, readingOf]
      by_cases hkeyword : previous.run = [] ∧ last.run = []
      · rw [if_pos hkeyword, if_pos hkeyword]
        exact extend_keywordReading s last previous earlier
      · rw [if_neg hkeyword, if_neg hkeyword]
        refine extend_plainReading fun _ => two_le_plainReading ?_ (hnames last _ rfl)
        refine pairs_ne_nil ?_
        by_cases hlast : last.run = []
        · exact Or.inr ⟨previous, List.mem_cons_self, fun hrun => hkeyword ⟨hrun, hlast⟩⟩
        · exact Or.inl hlast

/-- Taking up stretches one after the other gives the entries of their reading. -/
theorem entriesOf_reverse (st : List Stretch) (h : ∀ s ∈ st, subjectName ∉ s.run) :
    entriesOf st.reverse = readEntries st := by
  induction st using List.reverseRecOn with
  | nil => rfl
  | append_singleton st s ih =>
      have hst : ∀ s ∈ st, subjectName ∉ s.run := fun s hs => h s (List.mem_append_left _ hs)
      rw [List.reverse_concat]
      by_cases hne : st = []
      · subst hne
        show s.lastPair?.toList.foldl addNew [.subject s.word] = (plainReading s []).entries
        rw [entries_plainReading, pairs, List.filterMap_nil, List.append_nil]
      · rw [entriesOf_cons (List.reverse_ne_nil_iff.mpr hne), ih hst]
        exact extend_readEntries s hne hst

/-- A reading starts with its subject. -/
theorem head_readingOf {st : List Stretch} {shape : PathShape} (h : readingOf st = some shape) :
    shape.entries.head? = some (.subject shape.subject) := by
  match st, h with
  | [last], h =>
      obtain rfl : plainReading last [] = shape := Option.some.inj h
      rfl
  | last :: previous :: earlier, h =>
      rw [readingOf] at h
      by_cases hkeyword : previous.run = [] ∧ last.run = []
      · rw [if_pos hkeyword] at h
        obtain rfl := Option.some.inj h
        rfl
      · rw [if_neg hkeyword] at h
        obtain rfl := Option.some.inj h
        rfl

/-! ## Runs and segments -/

theorem mem_leadingRun {name : String} (h : name ∈ leadingRun segs) :
    '\x7b' :: (name.toList ++ ['\x7d']) ∈ segs := by
  obtain ⟨seg, hseg, rfl⟩ := List.mem_map.mp h
  have hbraced : IsBraced seg := by simpa using List.mem_takeWhile_imp hseg
  obtain ⟨name, rfl⟩ := isBraced_iff.mp hbraced
  have hname : (inside ('\x7b' :: (name ++ ['\x7d']))).toList = name := by simp [inside]
  rw [hname]
  exact (List.takeWhile_prefix _).subset hseg

/-- The names in the runs are those of placeholders. -/
theorem mem_run_of_mem_stretches {name : String} (hs : s ∈ stretches segs) (h : name ∈ s.run) :
    '\x7b' :: (name.toList ++ ['\x7d']) ∈ segs := by
  induction segs with
  | nil => exact nomatch hs
  | cons seg segs ih =>
      by_cases hseg : IsBraced seg
      · rw [stretches_of_braced hseg] at hs
        exact List.mem_cons_of_mem seg (ih hs)
      · rw [stretches_of_bare hseg] at hs
        rcases List.mem_cons.mp hs with rfl | hs
        · exact List.mem_cons_of_mem seg (mem_leadingRun h)
        · exact List.mem_cons_of_mem seg (ih hs)

/-- A path in which no placeholder has the subject's own name is read as a whole: by
    its bare segments and the placeholders behind them. -/
theorem shape?_eq_reading? (path : String) (h : "\x7bnoun\x7d".toList ∉ segments path) :
    shape? path = reading? path := by
  have hruns : ∀ s ∈ (stretches (segments path)).reverse, subjectName ∉ s.run :=
    fun s hs hname => h (mem_run_of_mem_stretches (List.mem_reverse.mp hs) hname)
  have hentries := entriesOf_reverse _ hruns
  rw [List.reverse_reverse] at hentries
  rw [shape?_eq, hentries, reading?, readEntries]
  cases hreading : readingOf (stretches (segments path)).reverse with
  | none => rfl
  | some shape =>
      show shape.entries.head?.map (fun first => PathShape.mk first.type.text shape.entries) = _
      rw [head_readingOf hreading]
      rfl

/-- A path that starts with a placeholder, has runs of several ones, and repeats a
    name. -/
theorem shape?_eq_reading?_farms :
    let path := "/\x7btenant\x7d/api/farms/\x7bx\x7d/\x7bid\x7d//desktops/\x7bid\x7d/\x7by\x7d"
    "\x7bnoun\x7d".toList ∉ segments path ∧ shape? path = reading? path
      ∧ shape? path = some ⟨"desktops", [.subject "desktops", ⟨"id", .named "desktops"⟩]⟩ := by
  intro path
  have hpath : "\x7bnoun\x7d".toList ∉ segments path := by decide +kernel
  exact ⟨hpath, shape?_eq_reading? path hpath, by decide +kernel⟩

/-- Without placeholders the last segment is a keyword. -/
example : shape? "/v1/widgets/active"
    = some ⟨"widgets", [.subject "widgets", ⟨"active", .switch⟩]⟩ := by
  decide +kernel

end PathTemplate

end SwaggerCmdlets
