import SwaggerCmdlets.Proofs.Path.Scan

/-! # Stretches — a path by its bare segments

    Each bare segment of a path begins a stretch: the segment, and the run of
    placeholders between it and the next bare one.  A scan takes up stretches as a
    whole, from the last one to the first (`scanOf_eq`).  Of the last run it keeps
    the placeholder on the left, which is read last, and of any other run the one
    on the right, which is read first. -/

namespace SwaggerCmdlets

namespace Parameter

/-- The parameters whose names are not taken, each name once. -/
def untaken (taken : List String) : List Parameter → List Parameter
  | [] => []
  | p :: ps =>
    if p.name ∈ taken then untaken taken ps else p :: untaken (taken ++ [p.name]) ps

/-- Adding parameters by name appends those whose names are not taken. -/
theorem foldl_addNew_eq (ps qs : List Parameter) :
    ps.foldl addNew qs = qs ++ untaken (qs.map (·.name)) ps := by
  induction ps generalizing qs with
  | nil => exact (List.append_nil qs).symm
  | cons p ps ih =>
      rw [List.foldl_cons, ih, untaken]
      by_cases hp : p.name ∈ qs.map (·.name)
      · rw [addNew_of_mem hp, if_pos hp]
      · rw [addNew_of_not_mem hp, if_neg hp, List.append_assoc, List.map_append]
        rfl

theorem untaken_cons_of_not_mem {taken : List String} {p : Parameter} {ps : List Parameter}
    (h : p.name ∉ taken) :
    untaken taken (p :: ps) = p :: untaken (taken ++ [p.name]) ps := if_neg h

theorem not_mem_of_mem_untaken {taken : List String} {ps : List Parameter} {p : Parameter}
    (h : p ∈ untaken taken ps) : p.name ∉ taken := by
  induction ps generalizing taken with
  | nil => exact nomatch h
  | cons q ps ih =>
      rw [untaken] at h
      by_cases hq : q.name ∈ taken
      · rw [if_pos hq] at h
        exact ih h
      · rw [if_neg hq] at h
        rcases List.mem_cons.mp h with rfl | h
        · exact hq
        · exact fun hp => ih h (List.mem_append_left _ hp)

end Parameter

namespace PathTemplate

open Parameter (addNew subjectName)

variable {seg : List Char} {segs : List (List Char)}

/-! ## Segments in braces -/

/-- Whether a segment stands in braces. -/
def IsBraced (seg : List Char) : Prop :=
  2 ≤ seg.length ∧ seg.head? = some '\x7b' ∧ seg.getLast? = some '\x7d'

instance : DecidablePred IsBraced := fun _ => inferInstanceAs (Decidable (_ ∧ _))

/-- What stands between the braces of a segment. -/
def inside (seg : List Char) : String := String.ofList seg.tail.dropLast

theorem isBraced_iff : IsBraced seg ↔ ∃ name, seg = '\x7b' :: (name ++ ['\x7d']) := by
  constructor
  · rintro ⟨hlength, hhead, hlast⟩
    cases seg with
    | nil => exact nomatch hhead
    | cons c rest =>
        obtain rfl : c = '\x7b' := Option.some.inj hhead
        have hne : rest ≠ [] := by
          rintro rfl
          exact absurd hlength (by decide)
        rw [List.getLast?_cons_of_ne_nil hne] at hlast
        obtain ⟨name, rfl⟩ := List.getLast?_eq_some_iff.mp hlast
        exact ⟨name, rfl⟩
  · rintro ⟨name, rfl⟩
    refine ⟨by simp, rfl, ?_⟩
    rw [← List.cons_append, List.getLast?_concat]

/-- A placeholder is a segment in braces, and its name stands between them. -/
theorem placeholder?_eq (seg : List Char) :
    (placeholder? seg).map String.ofList = if IsBraced seg then some (inside seg) else none := by
  by_cases h : IsBraced seg
  · rw [if_pos h]
    obtain ⟨name, rfl⟩ := isBraced_iff.mp h
    simp [placeholder?, inside]
  · rw [if_neg h, Option.map_eq_none_iff, Option.eq_none_iff_forall_ne_some]
    intro name hname
    refine h (isBraced_iff.mpr ⟨name, ?_⟩)
    unfold placeholder? at hname
    split at hname
    · rename_i rest
      split at hname
      · rename_i back hback
        obtain rfl : back.reverse = name := Option.some.inj hname
        rw [← List.reverse_reverse rest, hback, List.reverse_cons]
      · exact nomatch hname
    · exact nomatch hname

theorem segment_of_braced (h : IsBraced seg) (s : Scan) :
    s.segment seg = s.placeholder (inside seg) := by
  have hname := placeholder?_eq seg
  rw [if_pos h, Option.map_eq_some_iff] at hname
  obtain ⟨name, hplaceholder, hinside⟩ := hname
  rw [Scan.segment, hplaceholder, ← hinside]

theorem segment_of_bare (h : ¬ IsBraced seg) (s : Scan) :
    s.segment seg = s.bare (String.ofList seg) := by
  have hname := placeholder?_eq seg
  rw [if_neg h, Option.map_eq_none_iff] at hname
  rw [Scan.segment, hname]

/-! ## Stretches -/

/-- A bare segment, and the names of the placeholders between it and the next one. -/
structure Stretch where
  word : String
  run : List String
deriving DecidableEq, Repr

/-- The names of the placeholders that the segments start with. -/
def leadingRun (segs : List (List Char)) : List String :=
  (segs.takeWhile (IsBraced ·)).map inside

/-- The stretches of a row of segments, left to right.  Placeholders before the first
    bare segment are in none. -/
def stretches : List (List Char) → List Stretch
  | [] => []
  | seg :: segs =>
    if IsBraced seg then stretches segs
    else ⟨String.ofList seg, leadingRun segs⟩ :: stretches segs

theorem leadingRun_of_braced (h : IsBraced seg) :
    leadingRun (seg :: segs) = inside seg :: leadingRun segs := by
  rw [leadingRun, List.takeWhile_cons, if_pos (decide_eq_true h)]
  rfl

theorem leadingRun_of_bare (h : ¬ IsBraced seg) : leadingRun (seg :: segs) = [] := by
  rw [leadingRun, List.takeWhile_cons, if_neg fun hd => h (of_decide_eq_true hd)]
  rfl

theorem stretches_of_braced (h : IsBraced seg) : stretches (seg :: segs) = stretches segs :=
  if_pos h

theorem stretches_of_bare (h : ¬ IsBraced seg) :
    stretches (seg :: segs) = ⟨String.ofList seg, leadingRun segs⟩ :: stretches segs :=
  if_neg h

namespace Stretch

/-- What the last stretch of a path gives: the first placeholder of its run, typed by
    its bare segment. -/
def lastPair? (s : Stretch) : Option Parameter :=
  s.run.head?.map fun name => ⟨name, .named s.word⟩

/-- What any other stretch gives: the last placeholder of its run. -/
def pair? (s : Stretch) : Option Parameter :=
  s.run.getLast?.map fun name => ⟨name, .named s.word⟩

/-- The entries when a stretch is taken up after those to its right.  Without a
    placeholder its bare segment takes the subject's place, if there is nothing but
    the subject so far. -/
def extend (s : Stretch) (entries : List Parameter) : List Parameter :=
  match s.pair?, entries with
  | some p, entries => addNew entries p
  | none, [keyword] => [.subject s.word, ⟨keyword.type.text, .switch⟩]
  | none, entries => entries

variable {s : Stretch}

theorem pair?_eq_none_iff : s.pair? = none ↔ s.run = [] := by
  rw [pair?, Option.map_eq_none_iff, List.getLast?_eq_none_iff]

theorem lastPair?_eq_none_iff : s.lastPair? = none ↔ s.run = [] := by
  rw [lastPair?, Option.map_eq_none_iff, List.head?_eq_none_iff]

theorem extend_of_pair {p : Parameter} (h : s.pair? = some p) (entries : List Parameter) :
    s.extend entries = addNew entries p := by
  unfold extend
  rw [h]

theorem extend_singleton (h : s.pair? = none) (keyword : Parameter) :
    s.extend [keyword] = [.subject s.word, ⟨keyword.type.text, .switch⟩] := by
  unfold extend
  rw [h]

theorem extend_of_two (h : s.pair? = none) (first second : Parameter) (rest : List Parameter) :
    s.extend (first :: second :: rest) = first :: second :: rest := by
  unfold extend
  rw [h]

end Stretch

/-- The entries of a row of stretches, taken up from the last one to the first. -/
def entriesOf : List Stretch → List Parameter
  | [] => []
  | [last] => last.lastPair?.toList.foldl addNew [.subject last.word]
  | s :: next :: rest => s.extend (entriesOf (next :: rest))

/-- What a scan expects when it has read stretches and then a run to their left. -/
def phaseOf : List Stretch → List String → Phase
  | [], run => .subject run.head?
  | _ :: _, run =>
    match run.getLast? with
    | none => .name
    | some name => .type name

theorem phaseOf_nil_run {s : Stretch} {st : List Stretch} : phaseOf (s :: st) [] = .name := rfl

/-- A scan finds what the stretches say. -/
theorem scanOf_eq (segs : List (List Char)) :
    scanOf segs = ⟨entriesOf (stretches segs), phaseOf (stretches segs) (leadingRun segs)⟩ := by
  induction segs with
  | nil => rfl
  | cons seg segs ih =>
      rw [scanOf_cons, ih]
      by_cases hseg : IsBraced seg
      · rw [segment_of_braced hseg, stretches_of_braced hseg, leadingRun_of_braced hseg]
        generalize leadingRun segs = run
        cases stretches segs with
        | nil => rfl
        | cons s st =>
            -- left of a bare segment only the first placeholder that is read is kept
            cases run using List.reverseRecOn with
            | nil => rfl
            | append_singleton run name =>
                rw [← List.cons_append, phaseOf, phaseOf, List.getLast?_concat,
                  List.getLast?_concat]
                rfl
      · rw [segment_of_bare hseg, stretches_of_bare hseg, leadingRun_of_bare hseg]
        generalize leadingRun segs = run
        generalize String.ofList seg = word
        cases stretches segs with
        | nil =>
            cases run with
            | nil => rfl
            | cons name run => rfl
        | cons s st =>
            rw [phaseOf_nil_run, entriesOf, phaseOf]
            cases hrun : run.getLast? with
            | some name =>
                have hpair : (Stretch.mk word run).pair? = some ⟨name, .named word⟩ := by
                  rw [Stretch.pair?, hrun]
                  rfl
                rw [Stretch.extend_of_pair hpair]
                rfl
            | none =>
                have hpair : (Stretch.mk word run).pair? = none := by
                  rw [Stretch.pair?, hrun]
                  rfl
                unfold Stretch.extend
                rw [hpair]
                generalize entriesOf (s :: st) = entries
                match entries with
                | [] => rfl
                | [_] => rfl
                | _ :: _ :: _ => rfl

theorem shape?_eq (path : String) :
    shape? path = (entriesOf (stretches (segments path))).head?.map fun first =>
      ⟨first.type.text, entriesOf (stretches (segments path))⟩ := by
  rw [shape?, scan_eq, scanOf_eq]

end PathTemplate

end SwaggerCmdlets
