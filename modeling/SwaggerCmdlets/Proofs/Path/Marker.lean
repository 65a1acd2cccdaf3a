import SwaggerCmdlets.Proofs.Path.Stretches

/-! # Markers — the subject's entry among the parameters

    The parameters of a descriptor start with the entry of its subject, under a
    reserved name (`Descriptor.IsMarked`).  Parameters are added by name, and so none
    of them has this name or repeats another one.  Only a keyword is made a switch
    whatever it is called.  It has the reserved name just where the bare segment
    `noun` is the subject, and all that was found, when another bare segment is read
    (`SwitchesMarker`). -/

namespace SwaggerCmdlets

open Parameter (AreEntries addNew subjectName untaken)

namespace PathTemplate

variable {s : Stretch} {st : List Stretch} {w : String}

/-- The subject `w` is all that the stretches give: where a placeholder would be an
    entry, it has the subject's own name. -/
def IsLone (w : String) : List Stretch → Prop
  | [] => False
  | [last] => last.word = w ∧ ∀ name ∈ last.run.head?, name = subjectName
  | s :: next :: rest => s.run.getLast? = some subjectName ∧ IsLone w (next :: rest)

/-- A bare segment is followed by a bare segment, and from that one on the subject `w` is
    all there is, so that it becomes a switch. -/
def Switches (w : String) (st : List Stretch) : Prop :=
  ∃ left s right, st = left ++ s :: right ∧ s.run = [] ∧ IsLone w right

theorem not_switches_nil : ¬ Switches w [] := by
  rintro ⟨left, s, right, hst, -⟩
  exact List.append_ne_nil_of_right_ne_nil left (List.cons_ne_nil s right) hst.symm

theorem switches_cons : Switches w (s :: st) ↔ s.run = [] ∧ IsLone w st ∨ Switches w st := by
  constructor
  · rintro ⟨left, t, right, hst, hrun, hlone⟩
    cases left with
    | nil =>
        obtain ⟨rfl, rfl⟩ := List.cons_eq_cons.mp hst
        exact Or.inl ⟨hrun, hlone⟩
    | cons first left =>
        obtain ⟨-, rfl⟩ := List.cons_eq_cons.mp hst
        exact Or.inr ⟨left, t, right, rfl, hrun, hlone⟩
  · rintro (⟨hrun, hlone⟩ | ⟨left, t, right, rfl, hrun, hlone⟩)
    · exact ⟨[], s, st, rfl, hrun, hlone⟩
    · exact ⟨s :: left, t, right, rfl, hrun, hlone⟩

/-- A bare segment is followed by a bare segment, and from that one on the subject
    `noun` is all there is. -/
def SwitchesMarker (st : List Stretch) : Prop := Switches subjectName st

/-! ## What is added to a subject -/

/-- The pair of a name and the word that types it is added to entries, unless the name
    is among theirs, the subject's included. -/
theorem addNew_subject_cases (w word name : String) (found : List Parameter) :
    (addNew (.subject w :: found) ⟨name, .named word⟩ = .subject w :: found
        ∧ (name = subjectName ∨ name ∈ found.map (·.name)))
      ∨ (addNew (.subject w :: found) ⟨name, .named word⟩
          = .subject w :: (found ++ [⟨name, .named word⟩])
        ∧ name ≠ subjectName) := by
  by_cases h : name ∈ (Parameter.subject w :: found).map (·.name)
  · exact Or.inl ⟨Parameter.addNew_of_mem h, List.mem_cons.mp h⟩
  · refine Or.inr ⟨Parameter.addNew_of_not_mem h, ?_⟩
    rintro rfl
    exact h List.mem_cons_self

theorem exists_addNew_subject_eq (w word name : String) (found : List Parameter) :
    ∃ rest, addNew (.subject w :: found) ⟨name, .named word⟩ = .subject w :: rest := by
  rcases addNew_subject_cases w word name found with ⟨h, -⟩ | ⟨h, -⟩
  · exact ⟨_, h⟩
  · exact ⟨_, h⟩

/-- What a stretch does to entries that start with a subject: it takes the subject's
    place, or it has no placeholder and leaves them as they are, or its placeholder is
    a pair that is added. -/
theorem Stretch.extend_cases (s : Stretch) (w : String) (found : List Parameter) :
    (s.run = [] ∧ found = []
        ∧ s.extend (.subject w :: found) = [.subject s.word, ⟨w, .switch⟩])
      ∨ (s.run = [] ∧ found ≠ [] ∧ s.extend (.subject w :: found) = .subject w :: found)
      ∨ ∃ name, s.run.getLast? = some name
        ∧ s.extend (.subject w :: found) = addNew (.subject w :: found) ⟨name, .named s.word⟩ := by
  cases hpair : s.pair? with
  | some p =>
      obtain ⟨name, hname, rfl⟩ := Option.map_eq_some_iff.mp hpair
      exact Or.inr (Or.inr ⟨name, hname, extend_of_pair hpair _⟩)
  | none =>
      have hrun := pair?_eq_none_iff.mp hpair
      cases found with
      | nil => exact Or.inl ⟨hrun, rfl, extend_singleton hpair _⟩
      | cons second more =>
          exact Or.inr (Or.inl ⟨hrun, List.cons_ne_nil _ _, extend_of_two hpair _ second more⟩)

theorem Stretch.exists_extend_eq (s : Stretch) (w : String) (found : List Parameter) :
    ∃ v rest, s.extend (.subject w :: found) = .subject v :: rest := by
  rcases s.extend_cases w found with ⟨-, -, h⟩ | ⟨-, -, h⟩ | ⟨name, -, h⟩
  · exact ⟨s.word, _, h⟩
  · exact ⟨w, _, h⟩
  · obtain ⟨rest, hadd⟩ := exists_addNew_subject_eq w s.word name found
    exact ⟨w, rest, h.trans hadd⟩

/-- A pair leaves a lone subject alone if it has the same name. -/
theorem addNew_subject_eq_iff {v word name : String} {found : List Parameter} :
    addNew (.subject v :: found) ⟨name, .named word⟩ = [.subject w]
      ↔ name = subjectName ∧ Parameter.subject v :: found = [.subject w] := by
  rcases addNew_subject_cases v word name found with ⟨h, hname⟩ | ⟨h, hname⟩
  · rw [h]
    refine ⟨fun heq => ⟨?_, heq⟩, fun hboth => hboth.2⟩
    obtain ⟨-, rfl⟩ := List.cons_eq_cons.mp heq
    exact hname.resolve_right List.not_mem_nil
  · rw [h]
    refine iff_of_false (fun heq => ?_) (fun hboth => hname hboth.1)
    simp at heq

/-- A stretch leaves a lone subject alone if it has a placeholder of the same name. -/
theorem Stretch.extend_eq_singleton_iff {v : String} {found : List Parameter} :
    s.extend (.subject v :: found) = [.subject w]
      ↔ s.run.getLast? = some subjectName ∧ Parameter.subject v :: found = [.subject w] := by
  rcases s.extend_cases v found with ⟨hrun, -, h⟩ | ⟨hrun, hfound, h⟩ | ⟨name, hname, h⟩
  · rw [h, hrun]
    exact iff_of_false (fun heq => nomatch heq) (fun hboth => nomatch hboth.1)
  · rw [h, hrun]
    refine iff_of_false (fun heq => ?_) (fun hboth => nomatch hboth.1)
    exact hfound (List.cons_eq_cons.mp heq).2
  · rw [h, hname, addNew_subject_eq_iff, Option.some_inj]

/-- A pair that is added has another name than the subject. -/
theorem marker_mem_addNew_iff {word name : String} {found : List Parameter} :
    subjectName ∈ (addNew (.subject w :: found) ⟨name, .named word⟩).tail.map (·.name)
      ↔ subjectName ∈ found.map (·.name) := by
  rcases addNew_subject_cases w word name found with ⟨h, -⟩ | ⟨h, hname⟩
  · rw [h, List.tail_cons]
  · rw [h, List.tail_cons, List.map_append, List.mem_append]
    exact or_iff_left fun hmem => hname (List.mem_singleton.mp hmem).symm

/-- A stretch without a placeholder brings the reserved name along if it finds nothing but
    a subject that is called so. -/
theorem Stretch.marker_mem_extend_iff {v : String} {found : List Parameter} :
    subjectName ∈ (s.extend (.subject v :: found)).tail.map (·.name)
      ↔ s.run = [] ∧ Parameter.subject v :: found = [.subject subjectName]
        ∨ subjectName ∈ found.map (·.name) := by
  rcases s.extend_cases v found with ⟨hrun, rfl, h⟩ | ⟨-, hfound, h⟩ | ⟨name, hname, h⟩
  · rw [h]
    simp [hrun, Parameter.subject, eq_comm]
  · rw [h, List.tail_cons]
    refine (or_iff_right fun hboth => ?_).symm
    exact hfound (List.cons_eq_cons.mp hboth.2).2
  · rw [h, marker_mem_addNew_iff]
    refine (or_iff_right fun hboth => ?_).symm
    rw [hboth.1] at hname
    exact nomatch hname

/-! ## Entries of stretches -/

/-- The last stretch gives the subject, and a pair if it has a placeholder. -/
theorem entriesOf_single_cases (s : Stretch) :
    (s.run.head? = none ∧ entriesOf [s] = [.subject s.word])
      ∨ ∃ name, s.run.head? = some name
        ∧ entriesOf [s] = addNew [.subject s.word] ⟨name, .named s.word⟩ := by
  have hentries : entriesOf [s] = s.lastPair?.toList.foldl addNew [.subject s.word] := rfl
  rw [hentries, Stretch.lastPair?]
  cases s.run.head? with
  | none => exact Or.inl ⟨rfl, rfl⟩
  | some name => exact Or.inr ⟨name, rfl, rfl⟩

/-- The entries start with the subject's. -/
theorem exists_entriesOf_eq (h : st ≠ []) : ∃ w rest, entriesOf st = .subject w :: rest := by
  induction st with
  | nil => exact absurd rfl h
  | cons s st ih =>
      cases st with
      | nil =>
          rcases entriesOf_single_cases s with ⟨-, hs⟩ | ⟨name, -, hs⟩
          · exact ⟨s.word, [], hs⟩
          · obtain ⟨rest, hadd⟩ := exists_addNew_subject_eq s.word s.word name []
            exact ⟨s.word, rest, hs.trans hadd⟩
      | cons next rest =>
          obtain ⟨w, found, hfound⟩ := ih (List.cons_ne_nil _ _)
          rw [entriesOf, hfound]
          exact s.exists_extend_eq w found

/-- The subject is the only entry if it is all that the stretches give. -/
theorem entriesOf_eq_singleton_iff (h : st ≠ []) : entriesOf st = [.subject w] ↔ IsLone w st := by
  induction st with
  | nil => exact absurd rfl h
  | cons s st ih =>
      cases st with
      | nil =>
          rw [IsLone]
          rcases entriesOf_single_cases s with ⟨hrun, hs⟩ | ⟨name, hrun, hs⟩
          · rw [hs, hrun]
            simp [Parameter.subject]
          · rw [hs, hrun, addNew_subject_eq_iff, and_comm]
            simp [Parameter.subject]
      | cons next rest =>
          have hne := List.cons_ne_nil next rest
          obtain ⟨v, found, hfound⟩ := exists_entriesOf_eq hne
          rw [entriesOf, IsLone, ← ih hne, hfound]
          exact Stretch.extend_eq_singleton_iff

/-- The reserved name comes a second time where it has been made a switch. -/
theorem marker_mem_tail_iff :
    subjectName ∈ (entriesOf st).tail.map (·.name) ↔ SwitchesMarker st := by
  rw [SwitchesMarker]
  induction st with
  | nil => exact iff_of_false List.not_mem_nil not_switches_nil
  | cons s st ih =>
      rw [switches_cons]
      cases st with
      | nil =>
          have hnone : ¬ (s.run = [] ∧ IsLone subjectName [] ∨ Switches subjectName []) := by
            rintro (⟨-, hlone⟩ | hswitches)
            · exact hlone
            · exact not_switches_nil hswitches
          refine iff_of_false (fun hmem => ?_) hnone
          rcases entriesOf_single_cases s with ⟨-, hs⟩ | ⟨name, -, hs⟩
          · rw [hs] at hmem
            exact nomatch hmem
          · rw [hs, marker_mem_addNew_iff] at hmem
            exact nomatch hmem
      | cons next rest =>
          -- whether `s` brings the name along depends on what the rest has found
          have hne := List.cons_ne_nil next rest
          obtain ⟨v, found, hfound⟩ := exists_entriesOf_eq hne
          refine Iff.trans ?_ (or_congr_right ih)
          rw [← entriesOf_eq_singleton_iff hne, entriesOf, hfound]
          exact Stretch.marker_mem_extend_iff

end PathTemplate

/-! ## Parameters of descriptors -/

/-- Entries are different but for the reserved name, which may be that of the first
    one only. -/
theorem Parameter.AreEntries.nodup_names {w : String} {ps : List Parameter}
    (h : AreEntries (.subject w :: ps)) (hnot : subjectName ∉ ps.map (·.name)) :
    ((Parameter.subject w :: ps).map (·.name)).Nodup := by
  have hother : ∀ n ∈ ps.map (·.name), decide (n ≠ subjectName) = true := by
    intro n hn
    rw [decide_eq_true_iff]
    rintro rfl
    exact hnot hn
  have hdistinct := h.distinct
  rw [List.map_cons, List.filter_cons_of_neg (by simp [Parameter.subject]),
    List.filter_eq_self.mpr hother] at hdistinct
  exact List.nodup_cons.mpr ⟨hnot, hdistinct⟩

namespace Descriptor

open PathTemplate (shape? segments stretches entriesOf IsLone SwitchesMarker)

variable {path endpoint : String} {shape : PathShape} {op : Operation} {d : Descriptor}

/-- The names of the parameters are different, and the reserved one is that of the
    first, which carries the subject. -/
structure IsMarked (d : Descriptor) : Prop where
  distinct : d.names.Nodup
  marker : ∃ inputs, d.parameters = .subject d.subject :: inputs
    ∧ ∀ p ∈ inputs, p.name ≠ subjectName

/-- The parameters are the subject's entry, the other entries of the path, and declared
    ones under new names. -/
theorem parameters_eq (hshape : shape? path = some shape)
    (hd : ofOperation? shape endpoint op = some d) :
    ∃ new, d.parameters
        = .subject d.subject :: ((entriesOf (stretches (segments path))).tail ++ new)
      ∧ subjectName ∉ new.map (·.name) := by
  obtain ⟨action, -, rfl⟩ := Option.map_eq_some_iff.mp hd
  rw [PathTemplate.shape?_eq] at hshape
  obtain ⟨first, hfirst, rfl⟩ := Option.map_eq_some_iff.mp hshape
  have hne : stretches (segments path) ≠ [] := by
    intro hnil
    rw [hnil] at hfirst
    exact nomatch hfirst
  obtain ⟨w, rest, hentries⟩ := PathTemplate.exists_entriesOf_eq hne
  rw [hentries] at hfirst ⊢
  obtain rfl : Parameter.subject w = first := Option.some.inj hfirst
  refine ⟨untaken ((Parameter.subject w :: rest).map (·.name)) op.parameters, ?_, ?_⟩
  · exact Parameter.foldl_addNew_eq op.parameters (.subject w :: rest)
  · intro hmem
    obtain ⟨p, hp, hname⟩ := List.mem_map.mp hmem
    exact Parameter.not_mem_of_mem_untaken hp (hname ▸ List.mem_cons_self)

/-- The descriptor of an operation is marked, unless its path makes the reserved name a
    switch. -/
theorem isMarked_iff (hshape : shape? path = some shape)
    (hd : ofOperation? shape endpoint op = some d) :
    d.IsMarked ↔ ¬ SwitchesMarker (stretches (segments path)) := by
  obtain ⟨new, hparameters, hnew⟩ := parameters_eq hshape hd
  have hmarker : subjectName ∈ ((entriesOf (stretches (segments path))).tail ++ new).map (·.name)
      ↔ SwitchesMarker (stretches (segments path)) := by
    rw [List.map_append, List.mem_append, PathTemplate.marker_mem_tail_iff]
    exact or_iff_left hnew
  rw [← hmarker]
  constructor
  · rintro ⟨-, inputs, hinputs, hother⟩ hmem
    obtain ⟨-, rfl⟩ := List.cons_eq_cons.mp (hparameters.symm.trans hinputs)
    obtain ⟨p, hp, hname⟩ := List.mem_map.mp hmem
    exact hother p hp hname
  · intro hnot
    have hentries : AreEntries d.parameters := by
      obtain ⟨action, -, rfl⟩ := Option.map_eq_some_iff.mp hd
      exact (PathTemplate.areEntries_of_shape? hshape).foldl_addNew op.parameters
    refine ⟨?_, _, hparameters, fun p hp hname => hnot (hname ▸ List.mem_map_of_mem hp)⟩
    rw [hparameters] at hentries
    rw [names, hparameters]
    exact hentries.nodup_names hnot

/-- A path that has the reserved name as a bare segment and as a placeholder, with a
    declared parameter of this name and one that repeats another. -/
theorem isMarked_farmWidgets :
    let path := "/v1/noun/farms/\x7bnoun\x7d/\x7bfarm\x7d/widgets"
    let op : Operation :=
      ⟨"GET", [⟨"noun", .named "string"⟩, ⟨"limit", .named "integer"⟩, ⟨"limit", .switch⟩]⟩
    ∃ shape d, shape? path = some shape ∧ ofOperation? shape path op = some d
      ∧ ¬ SwitchesMarker (stretches (segments path))
      ∧ d.IsMarked ∧ d.names = ["noun", "farm", "limit"] := by
  intro path op
  let shape : PathShape := ⟨"widgets", [.subject "widgets", ⟨"farm", .named "farms"⟩]⟩
  let d : Descriptor := ⟨.read, "widgets", path,
    [.subject "widgets", ⟨"farm", .named "farms"⟩, ⟨"limit", .named "integer"⟩],
    "allwidgets"⟩
  have hshape : shape? path = some shape := by decide +kernel
  have hd : ofOperation? shape path op = some d := by decide +kernel
  have hnot : ¬ SwitchesMarker (stretches (segments path)) := by
    have hst : stretches (segments path)
        = [⟨"v1", []⟩, ⟨"noun", []⟩, ⟨"farms", ["noun", "farm"]⟩, ⟨"widgets", []⟩] := by
      decide +kernel
    rw [hst, SwitchesMarker]
    simp [PathTemplate.switches_cons, PathTemplate.not_switches_nil, IsLone, subjectName]
  exact ⟨shape, d, hshape, hd, hnot, (isMarked_iff hshape hd).mpr hnot, rfl⟩

/-- Where the bare segment `noun` follows that of the subject, the switch has the
    reserved name. -/
theorem widgetsNoun_not_isMarked :
    ∃ shape d, shape? "/widgets/noun" = some shape
      ∧ ofOperation? shape "/widgets/noun" ⟨"GET", []⟩ = some d
      ∧ d.parameters = [.subject "widgets", ⟨"noun", .switch⟩] ∧ ¬ d.names.Nodup := by
  refine ⟨⟨"widgets", [.subject "widgets", ⟨"noun", .switch⟩]⟩,
    ⟨.read, "widgets", "/widgets/noun", [.subject "widgets", ⟨"noun", .switch⟩], "noun"⟩,
    by decide +kernel, by decide +kernel, rfl, by decide⟩

end Descriptor

end SwaggerCmdlets
