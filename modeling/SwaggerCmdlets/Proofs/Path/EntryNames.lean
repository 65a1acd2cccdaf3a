import SwaggerCmdlets.Proofs.Path.Marker

/-! # Names of entries — what a path makes a parameter

    Beside the subject's own entry, a path has entries for two reasons.  A placeholder
    is typed by the bare segment of its stretch (`Types`), and a bare segment that
    follows another one is a keyword, which becomes a switch (`Switches`).

    An entry that is found stays.  So a name other than the subject's is that of an
    entry exactly if there is one of the two reasons for it somewhere in the path
    (`mem_names_entriesOf_iff`). -/

namespace SwaggerCmdlets

namespace PathTemplate

open Parameter (addNew subjectName)

variable {s : Stretch} {st : List Stretch} {n w : String} {found : List Parameter}

/-- A placeholder of the name is typed: it is the first one behind the last bare segment,
    or the last one behind an earlier bare segment. -/
def Types (n : String) : List Stretch → Prop
  | [] => False
  | [last] => last.run.head? = some n
  | s :: next :: rest => s.run.getLast? = some n ∨ Types n (next :: rest)

theorem types_cons (h : st ≠ []) : Types n (s :: st) ↔ s.run.getLast? = some n ∨ Types n st := by
  obtain ⟨next, rest, rfl⟩ := List.exists_cons_of_ne_nil h
  rfl

theorem names_subject_cons :
    (Parameter.subject w :: found).map (·.name) = subjectName :: found.map (·.name) := rfl

/-- A pair brings its name along. -/
theorem mem_names_addNew_iff {word name : String} (hn : n ≠ subjectName) :
    n ∈ (addNew (.subject w :: found) ⟨name, .named word⟩).map (·.name)
      ↔ name = n ∨ n ∈ found.map (·.name) := by
  rw [Parameter.names_addNew, mem_insertNew, names_subject_cons, List.mem_cons, or_iff_right hn,
    or_comm, eq_comm]

/-- A stretch brings the name of its pair along; without one it switches a lone subject. -/
theorem Stretch.mem_names_extend_iff (hn : n ≠ subjectName) :
    n ∈ (s.extend (.subject w :: found)).map (·.name)
      ↔ s.run.getLast? = some n ∨ (s.run = [] ∧ Parameter.subject w :: found = [.subject n])
        ∨ n ∈ found.map (·.name) := by
  rcases s.extend_cases w found with ⟨hrun, rfl, h⟩ | ⟨hrun, hfound, h⟩ | ⟨name, hname, h⟩
  · rw [h, hrun]
    simp [hn, Parameter.subject, eq_comm]
  · rw [h, hrun, names_subject_cons, List.mem_cons, or_iff_right hn]
    have hmore : Parameter.subject w :: found ≠ [.subject n] :=
      fun heq => hfound (List.cons_eq_cons.mp heq).2
    simp [hmore]
  · have hrun : s.run ≠ [] := by
      intro hnil
      rw [hnil, List.getLast?_nil] at hname
      exact absurd hname (Option.some_ne_none name).symm
    rw [h, mem_names_addNew_iff hn, hname, Option.some_inj]
    simp [hrun]

/-- A name other than the subject's is that of an entry if a placeholder of the name is
    typed, or a keyword of the name is switched. -/
theorem mem_names_entriesOf_iff (hn : n ≠ subjectName) :
    n ∈ (entriesOf st).map (·.name) ↔ Types n st ∨ Switches n st := by
  induction st with
  | nil => simp [entriesOf, Types, not_switches_nil]
  | cons s st ih =>
      cases st with
      | nil =>
          have hswitches : ¬ Switches n [s] := by
            rw [switches_cons]
            simp [IsLone, not_switches_nil]
          rw [or_iff_left hswitches, Types]
          rcases entriesOf_single_cases s with ⟨hrun, hs⟩ | ⟨name, hrun, hs⟩
          · rw [hs, hrun, names_subject_cons]
            simp [hn]
          · rw [hs, hrun, mem_names_addNew_iff hn, Option.some_inj]
            simp
      | cons next rest =>
          -- what `s` does depends on whether the rest has found a lone subject
          have hne := List.cons_ne_nil next rest
          obtain ⟨w, found, hfound⟩ := exists_entriesOf_eq hne
          rw [types_cons hne, switches_cons, ← entriesOf_eq_singleton_iff hne, entriesOf]
          rw [hfound, names_subject_cons, List.mem_cons, or_iff_right hn] at ih
          rw [hfound, Stretch.mem_names_extend_iff hn, ih, ← or_assoc, or_or_or_comm]

end PathTemplate

end SwaggerCmdlets
