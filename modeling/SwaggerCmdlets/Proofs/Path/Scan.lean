import Mathlib.Data.List.Chain
import SwaggerCmdlets.Proofs.Merge.Names

/-! # Scans — what is read off a path

    The scan of a path is a fold over its segments from the right (`scanOf`).
    Whatever the path is, the entries start with the subject's, and no two
    inputs among them share a name (`scanOf_keeps`).

    Where no two placeholders stand next to each other, only one that starts the
    path is left waiting for its type.  The name of any other one becomes the
    name of an entry (`placeholder_mem_names`), and of those only the subject's
    own name makes no input. -/

namespace SwaggerCmdlets

namespace Parameter

/-- Parameters that start with the subject's entry and whose inputs, which are
    all others, have different names. -/
structure AreEntries (ps : List Parameter) : Prop where
  subject : ∃ word rest, ps = .subject word :: rest
  distinct : ((ps.map (·.name)).filter (· ≠ subjectName)).Nodup

theorem AreEntries.single (word : String) : AreEntries [.subject word] where
  subject := ⟨word, [], rfl⟩
  distinct := by
    show ([subjectName].filter (· ≠ subjectName)).Nodup
    decide

theorem AreEntries.addNew {ps : List Parameter} (h : AreEntries ps) (p : Parameter) :
    AreEntries (Parameter.addNew ps p) where
  subject := by
    obtain ⟨word, rest, rfl⟩ := h.subject
    by_cases hp : p.name ∈ (Parameter.subject word :: rest).map (·.name)
    · exact ⟨word, rest, addNew_of_mem hp⟩
    · exact ⟨word, rest ++ [p], addNew_of_not_mem hp⟩
  distinct := by
    rw [names_addNew]
    exact nodup_filter_insertNew h.distinct p.name

theorem AreEntries.foldl_addNew {ps : List Parameter} (h : AreEntries ps) (qs : List Parameter) :
    AreEntries (qs.foldl Parameter.addNew ps) := by
  induction qs generalizing ps with
  | nil => exact h
  | cons q qs ih => exact ih (h.addNew q)

end Parameter

namespace PathTemplate

open Parameter (AreEntries subjectName)

variable {s : Scan} {segs : List (List Char)} {n word : String}

/-- The scan of a row of segments, from the last one to the first. -/
def scanOf (segs : List (List Char)) : Scan :=
  segs.foldr (fun seg s => s.segment seg) Scan.start

theorem scan_eq (path : String) : scan path = scanOf (segments path) := List.foldl_reverse

theorem scanOf_cons (seg : List Char) (segs : List (List Char)) :
    scanOf (seg :: segs) = (scanOf segs).segment seg := rfl

/-! ## Entries -/

/-- There is nothing as long as the subject is looked for, and from then on there
    are entries. -/
def Scan.Keeps (s : Scan) : Prop :=
  match s.phase with
  | .subject _ => s.entries = []
  | .name => AreEntries s.entries
  | .type _ => AreEntries s.entries

theorem Scan.Keeps.placeholder (h : s.Keeps) (name : String) : (s.placeholder name).Keeps := by
  obtain ⟨entries, phase⟩ := s
  cases phase with
  | subject waiting => exact h
  | name => exact h
  | type waiting => exact h

/-- A bare segment leaves entries: it is the subject, or it types what waits, or
    it turns the only entry into a switch. -/
theorem Scan.Keeps.bare (h : s.Keeps) (word : String) : AreEntries (s.bare word).entries := by
  have hsubject : AreEntries [.subject word] := .single word
  obtain ⟨entries, phase⟩ := s
  cases phase with
  | subject waiting =>
      obtain rfl : entries = [] := h
      cases waiting with
      | none => exact hsubject
      | some name => exact hsubject.addNew _
  | name =>
      obtain ⟨first, rest, hentries⟩ := AreEntries.subject h
      obtain rfl : entries = _ := hentries
      cases rest with
      | nil =>
          refine ⟨⟨word, _, rfl⟩, ?_⟩
          show ([subjectName, first].filter (· ≠ subjectName)).Nodup
          by_cases hf : first = subjectName
          · simp [hf]
          · simp [hf]
      | cons second rest => exact h
  | type waiting => exact AreEntries.addNew h _

theorem Scan.bare_phase (s : Scan) (word : String) : (s.bare word).phase = .name := by
  obtain ⟨entries, phase⟩ := s
  cases phase with
  | subject waiting =>
      cases waiting with
      | none => rfl
      | some name => rfl
  | name =>
      match entries with
      | [] => rfl
      | [_] => rfl
      | _ :: _ :: _ => rfl
  | type waiting => rfl

theorem scanOf_keeps (segs : List (List Char)) : (scanOf segs).Keeps := by
  induction segs with
  | nil => rfl
  | cons seg segs ih =>
      rw [scanOf_cons, Scan.segment]
      cases placeholder? seg with
      | some name => exact ih.placeholder _
      | none =>
          show ((scanOf segs).bare _).Keeps
          rw [Scan.Keeps, Scan.bare_phase]
          exact ih.bare _

/-- A path that has a subject has entries. -/
theorem areEntries_of_shape? {path : String} {shape : PathShape} (h : shape? path = some shape) :
    AreEntries shape.entries := by
  have hkeeps := scanOf_keeps (segments path)
  rw [← scan_eq, Scan.Keeps] at hkeeps
  obtain ⟨first, hfirst, rfl⟩ := Option.map_eq_some_iff.mp h
  cases hphase : (scan path).phase with
  | subject waiting =>
      rw [hphase] at hkeeps
      rw [show (scan path).entries = [] from hkeeps] at hfirst
      exact nomatch hfirst
  | name =>
      rw [hphase] at hkeeps
      exact hkeeps
  | type waiting =>
      rw [hphase] at hkeeps
      exact hkeeps

/-! ## Placeholders -/

/-- The placeholder that waits for the segment that types it. -/
def Phase.waiting? : Phase → Option String
  | .subject waiting => waiting
  | .name => none
  | .type waiting => some waiting

/-- The name is that of an entry, or waits to become one, or is the subject's. -/
def Scan.Knows (s : Scan) (n : String) : Prop :=
  n ∈ s.entries.map (·.name) ∨ s.phase.waiting? = some n ∨ n = subjectName

/-- A placeholder waits when no other one does. -/
theorem Scan.placeholder_waiting (hw : s.phase.waiting? = none) (name : String) :
    (s.placeholder name).phase.waiting? = some name := by
  obtain ⟨entries, phase⟩ := s
  cases phase with
  | subject waiting => rfl
  | name => rfl
  | type waiting => exact nomatch hw

/-- A placeholder is taken when no other one waits. -/
theorem Scan.knows_placeholder (hw : s.phase.waiting? = none) (name : String)
    (h : n = name ∨ s.Knows n) : (s.placeholder name).Knows n := by
  obtain ⟨entries, phase⟩ := s
  have hold : n = name ∨ n ∈ entries.map (·.name) ∨ n = subjectName := by
    rcases h with h | h | h | h
    · exact Or.inl h
    · exact Or.inr (Or.inl h)
    · exact nomatch hw.symm.trans h
    · exact Or.inr (Or.inr h)
  cases phase with
  | subject waiting =>
      rcases hold with rfl | h | h
      · exact Or.inr (Or.inl rfl)
      · exact Or.inl h
      · exact Or.inr (Or.inr h)
  | name =>
      rcases hold with rfl | h | h
      · exact Or.inr (Or.inl rfl)
      · exact Or.inl h
      · exact Or.inr (Or.inr h)
  | type waiting => exact nomatch hw

/-- A bare segment makes an entry of the placeholder that waits. -/
theorem Scan.knows_bare (hk : s.Keeps) (h : s.Knows n) (word : String) :
    (s.bare word).Knows n := by
  obtain ⟨entries, phase⟩ := s
  have hadd : ∀ name qs, n ∈ qs.map (·.name) ∨ n = name →
      n ∈ (Parameter.addNew qs ⟨name, .named word⟩).map (·.name) := by
    intro name qs hn
    rw [Parameter.names_addNew]
    exact mem_insertNew.mpr hn
  rcases h with h | h | rfl
  · -- the entries stay, unless the only one becomes a switch, and that is the subject's
    cases phase with
    | subject waiting =>
        obtain rfl : entries = [] := hk
        exact nomatch h
    | name =>
        obtain ⟨first, rest, hentries⟩ := AreEntries.subject hk
        obtain rfl : entries = _ := hentries
        cases rest with
        | nil => exact Or.inr (Or.inr (List.mem_singleton.mp h))
        | cons second rest => exact Or.inl h
    | type waiting => exact Or.inl (hadd waiting entries (Or.inl h))
  · cases phase with
    | subject waiting =>
        obtain rfl : waiting = some n := h
        exact Or.inl (hadd n _ (Or.inr rfl))
    | name => exact nomatch h
    | type waiting =>
        obtain rfl : waiting = n := Option.some.inj h
        exact Or.inl (hadd waiting entries (Or.inr rfl))
  · exact Or.inr (Or.inr rfl)

/-- No two placeholders stand next to each other. -/
def Apart (segs : List (List Char)) : Prop :=
  segs.IsChain fun a b => placeholder? a = none ∨ placeholder? b = none

/-- The name of a placeholder that the segments start with. -/
def leading? (segs : List (List Char)) : Option (List Char) := segs.head?.bind placeholder?

/-- Where no two placeholders stand next to each other, all of them are known, and
    only one that comes first still waits. -/
theorem scanOf_knows (h : Apart segs) :
    (∀ seg ∈ segs, ∀ name, placeholder? seg = some name →
        (scanOf segs).Knows (String.ofList name))
      ∧ (scanOf segs).phase.waiting? = (leading? segs).map String.ofList := by
  induction segs with
  | nil => exact ⟨List.forall_mem_nil _, rfl⟩
  | cons seg segs ih =>
      obtain ⟨hnext, htail⟩ := List.isChain_cons.mp h
      obtain ⟨hknows, hwaits⟩ := ih htail
      have hfirst : leading? (seg :: segs) = placeholder? seg := rfl
      rw [scanOf_cons, Scan.segment, hfirst]
      cases hseg : placeholder? seg with
      | some name =>
          have hw : (scanOf segs).phase.waiting? = none := by
            rw [hwaits, Option.map_eq_none_iff, leading?, Option.bind_eq_none_iff]
            intro next hhead
            rcases hnext next hhead with hbare | hbare
            · rw [hseg] at hbare
              exact nomatch hbare
            · exact hbare
          refine ⟨fun other hother m hm => ?_, Scan.placeholder_waiting hw _⟩
          refine Scan.knows_placeholder hw _ ?_
          rcases List.mem_cons.mp hother with rfl | hmem
          · rw [hseg] at hm
            exact Or.inl (congrArg String.ofList (Option.some.inj hm).symm)
          · exact Or.inr (hknows other hmem m hm)
      | none =>
          refine ⟨fun other hother m hm => ?_, ?_⟩
          · refine Scan.knows_bare (scanOf_keeps segs) ?_ _
            rcases List.mem_cons.mp hother with rfl | hmem
            · rw [hseg] at hm
              exact nomatch hm
            · exact hknows other hmem m hm
          · show ((scanOf segs).bare _).phase.waiting? = none
            rw [Scan.bare_phase]
            rfl

/-- Where no two placeholders stand next to each other, every placeholder names an
    entry, or has the subject's name, or starts the path. -/
theorem placeholder_mem_names {path : String} {shape : PathShape} {seg name : List Char}
    (hshape : shape? path = some shape) (hapart : Apart (segments path))
    (hseg : seg ∈ segments path) (hname : placeholder? seg = some name) :
    String.ofList name ∈ shape.entries.map (·.name) ∨ String.ofList name = subjectName
      ∨ leading? (segments path) = some name := by
  obtain ⟨hknows, hwaits⟩ := scanOf_knows hapart
  have hk := hknows seg hseg name hname
  rw [Scan.Knows, hwaits, ← scan_eq] at hk
  obtain ⟨_, -, rfl⟩ := Option.map_eq_some_iff.mp hshape
  rcases hk with hk | hk | hk
  · exact Or.inl hk
  · obtain ⟨first, hfirst, heq⟩ := Option.map_eq_some_iff.mp hk
    rw [String.ofList_inj.mp heq] at hfirst
    exact Or.inr (Or.inr hfirst)
  · exact Or.inr (Or.inl hk)

end PathTemplate

end SwaggerCmdlets
