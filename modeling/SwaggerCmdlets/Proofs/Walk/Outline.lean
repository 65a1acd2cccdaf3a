import SwaggerCmdlets.Proofs.Walk.Parts

/-! # Outlines — the reference graph unfolded

    The outline of a document is its row of entries, with what stands in the
    referenced document in the place of each reference, over and over.  It is a
    reading of the documents alone: nothing in it is skipped, and no state is
    kept.  A document has an outline only if everything below it can be read and
    references do not go on forever; then it has exactly one
    (`Unfolds.unique`), and the documents in it are those that references lead
    to (`Unfolds.mem_documents_iff`).

    `Outline.steps` is the walk of an outline in which each address counts only
    where it is met first. -/

namespace SwaggerCmdlets

variable {src : Source} {root u v : Url} {endpointPrefix : String} {es : List Entry}

/-- A row of entries, with the insides of the documents that they refer to. -/
inductive Outline where
  | nil
  | endpoint (endpointPrefix path : String) (ops : List Operation) (rest : Outline)
  | document (u : Url) (d : Description) (inside rest : Outline)

/-- What is met on the walk of an outline. -/
inductive Outline.Step where
  | document (u : Url) (d : Description)
  | endpoint (endpointPrefix path : String) (ops : List Operation)

namespace Outline.Step

/-- What a step adds to the descriptors. -/
def descriptors : Step → List Descriptor
  | document _ _ => []
  | endpoint endpointPrefix path ops => endpointDescriptors endpointPrefix path ops

/-- What a step declares. -/
def declare (r : Registry) : Step → Registry
  | document _ d => r.registerSection d.models
  | endpoint _ _ _ => r

/-- The address that a step asks for. -/
def uri? : Step → Option String
  | document u _ => some u.text
  | endpoint _ _ _ => none

end Outline.Step

namespace Outline

/-- The documents of an outline, each as often as it is referred to. -/
def documents : Outline → List Url
  | nil => []
  | endpoint _ _ _ rest => rest.documents
  | document u _ inside rest => u :: (inside.documents ++ rest.documents)

/-- The addresses of the documents of an outline. -/
def texts (o : Outline) : List String := o.documents.map Url.text

/-- The walk of an outline when the addresses `seen` were met before: a document
    that was met contributes nothing, neither itself nor its inside. -/
def steps : List String → Outline → List Step
  | _, nil => []
  | seen, endpoint endpointPrefix path ops rest =>
      .endpoint endpointPrefix path ops :: steps seen rest
  | seen, document u d inside rest =>
      (if u.text ∈ seen then [] else .document u d :: steps (u.text :: seen) inside)
        ++ steps (u.text :: (inside.texts ++ seen)) rest

/-- Nothing stands against the walk: endpoints are supported, and no document
    stands inside itself. -/
def Clear : Outline → Prop
  | nil => True
  | endpoint _ path ops rest => Supported path ops ∧ rest.Clear
  | document u _ inside rest => u.text ∉ inside.texts ∧ inside.Clear ∧ rest.Clear

section Texts

variable {seen seen' : List String} {d : Description} {inside rest o : Outline}

theorem text_mem_texts (h : u ∈ o.documents) : u.text ∈ o.texts :=
  List.mem_map_of_mem h

theorem texts_document :
    (document u d inside rest).texts = u.text :: (inside.texts ++ rest.texts) := by
  simp [texts, documents]

/-- The addresses of a document with its inside, and then those of the rest. -/
theorem texts_append (u : Url) (d : Description) (inside rest : Outline) :
    (document u d inside rest).texts = (document u d inside nil).texts ++ rest.texts := by
  simp [texts, documents]

theorem mem_texts_document {t : String} :
    t ∈ (document u d inside nil).texts ↔ t = u.text ∨ t ∈ inside.texts := by
  simp [texts, documents]

/-- The walk of a document with its inside, and then that of the rest. -/
theorem steps_append :
    (document u d inside rest).steps seen = (document u d inside nil).steps seen
      ++ rest.steps (u.text :: (inside.texts ++ seen)) := by
  simp [steps]

/-- A document that was met before contributes nothing. -/
theorem steps_of_mem (h : u.text ∈ seen) : (document u d inside nil).steps seen = [] := by
  simp [steps, h]

/-- A walk depends only on which of the outline's own addresses were met. -/
theorem steps_congr (h : ∀ t ∈ o.texts, t ∈ seen ↔ t ∈ seen') :
    o.steps seen = o.steps seen' := by
  -- what is met on the way counts as met on both sides
  induction o generalizing seen seen' with
  | nil => rfl
  | endpoint p path ops rest ih =>
      show _ :: rest.steps seen = _ :: rest.steps seen'
      rw [ih h]
  | document u d inside rest ihi ihr =>
      rw [texts_document] at h
      simp only [List.mem_cons, List.mem_append] at h
      have hi : inside.steps (u.text :: seen) = inside.steps (u.text :: seen') := by
        refine ihi fun t ht => ?_
        rw [List.mem_cons, List.mem_cons, h t (Or.inr (Or.inl ht))]
      have hr : rest.steps (u.text :: (inside.texts ++ seen))
          = rest.steps (u.text :: (inside.texts ++ seen')) := by
        refine ihr fun t ht => ?_
        simp only [List.mem_cons, List.mem_append, h t (Or.inr (Or.inr ht))]
      rw [steps, steps, hi, hr]
      simp only [h u.text (Or.inl rfl)]

/-- A document that was not met before stands before its inside.  It is not met
    there again, so that its own address need not count as met. -/
theorem steps_of_not_mem (h : u.text ∉ seen) (hself : u.text ∉ inside.texts) :
    (document u d inside nil).steps seen = .document u d :: inside.steps seen := by
  have hcongr : inside.steps (u.text :: seen) = inside.steps seen := by
    refine steps_congr fun t ht => ?_
    rw [List.mem_cons]
    exact or_iff_right fun heq => hself (heq ▸ ht)
  rw [← hcongr]
  simp [steps, h]

end Texts

end Outline

/-- The addresses in `ts` that were not met before, each where it is met
    first. -/
def firstVisits (seen ts : List String) : List String := (ts.removeAll seen).eraseDups

/-- When nothing was met before, only repeats are left out. -/
theorem firstVisits_nil (ts : List String) : firstVisits [] ts = ts.eraseDups := by
  have hall : ts.removeAll [] = ts := List.filter_eq_self.mpr fun _ _ => rfl
  rw [firstVisits, hall]

theorem firstVisits_append (seen ts ts' : List String) :
    firstVisits seen (ts ++ ts') = firstVisits seen ts ++ firstVisits (ts ++ seen) ts' := by
  have happ : (ts ++ ts').removeAll seen = ts.removeAll seen ++ ts'.removeAll seen := by
    simp [List.removeAll]
  have hrest : (ts'.removeAll seen).removeAll (ts.removeAll seen)
      = ts'.removeAll (ts ++ seen) := by
    rw [List.removeAll, List.removeAll, List.removeAll, List.removeAll, List.filter_filter]
    refine List.filter_congr fun t _ => ?_
    by_cases hs : t ∈ seen
    · simp [hs]
    · by_cases ht : t ∈ ts
      · simp [hs, ht]
      · simp [hs, ht]
  rw [firstVisits, happ, List.eraseDups_append, hrest]
  rfl

theorem firstVisits_eq_nil {seen ts : List String} (h : ∀ t ∈ ts, t ∈ seen) :
    firstVisits seen ts = [] := by
  have hnone : ts.removeAll seen = [] := by
    rw [List.removeAll, List.filter_eq_nil_iff]
    intro t ht
    simp [h t ht]
  rw [firstVisits, hnone]
  rfl

theorem firstVisits_cons {seen ts : List String} {t : String} (h : t ∉ seen) :
    firstVisits seen (t :: ts) = t :: firstVisits (t :: seen) ts := by
  have hone : firstVisits seen [t] = [t] := by
    simp [firstVisits, List.removeAll, h, List.eraseDups_cons]
  rw [show t :: ts = [t] ++ ts from rfl, firstVisits_append, hone]
  rfl

theorem firstVisits_congr {seen seen' ts : List String}
    (h : ∀ t ∈ ts, t ∈ seen ↔ t ∈ seen') : firstVisits seen ts = firstVisits seen' ts := by
  refine congrArg List.eraseDups (List.filter_congr fun t ht => ?_)
  simp [h t ht]

/-! ## Unfolding -/

/-- The entries `es` of the document at `u`, whose endpoints stand below
    `endpointPrefix`, unfold to the outline. -/
inductive Unfolds (src : Source) : Url → String → List Entry → Outline → Prop
  | nil (u : Url) (endpointPrefix : String) : Unfolds src u endpointPrefix [] .nil
  | endpoint {u : Url} {endpointPrefix : String} {es : List Entry} {o : Outline}
      (path : String) (ops : List Operation) :
      Unfolds src u endpointPrefix es o →
      Unfolds src u endpointPrefix (.endpoint path ops :: es)
        (.endpoint endpointPrefix path ops o)
  | reference {u : Url} {endpointPrefix path : String} {es es' : List Entry}
      {d : Description} {inside rest : Outline} :
      src.Reads (Locate.child u path) d es' →
      Unfolds src (Locate.child u path) d.endpointPrefix es' inside →
      Unfolds src u endpointPrefix es rest →
      Unfolds src u endpointPrefix (.reference path :: es)
        (.document (Locate.child u path) d inside rest)

/-- The outline of a document: the document itself with its inside. -/
def Outlines (src : Source) (u : Url) (o : Outline) : Prop :=
  ∃ d es inside, src.Reads u d es ∧ Unfolds src u d.endpointPrefix es inside
    ∧ o = .document u d inside .nil

/-- Entries unfold in one way only. -/
theorem Unfolds.unique {o o' : Outline} (h : Unfolds src u endpointPrefix es o)
    (h' : Unfolds src u endpointPrefix es o') : o = o' := by
  induction h generalizing o' with
  | nil => cases h'; rfl
  | endpoint path ops _ ih =>
      cases h' with
      | endpoint _ _ h' => rw [ih h']
  | reference hd _ _ ihi ihr =>
      cases h' with
      | reference hd' hi' hr' =>
          obtain ⟨rfl, rfl⟩ := hd.unique hd'
          rw [ihi hi', ihr hr']

/-- A document has one outline at most. -/
theorem Outlines.unique {o o' : Outline} (h : Outlines src u o) (h' : Outlines src u o') :
    o = o' := by
  obtain ⟨d, es, inside, hd, hi, rfl⟩ := h
  obtain ⟨d', es', inside', hd', hi', rfl⟩ := h'
  obtain ⟨rfl, rfl⟩ := hd.unique hd'
  rw [hi.unique hi']

/-- A reference entry unfolds to its document, whose inside is part of the
    outline. -/
theorem Unfolds.of_reference_mem {o : Outline} {path : String}
    (h : Unfolds src u endpointPrefix es o) (hp : Entry.reference path ∈ es) :
    ∃ d es' inside, src.Reads (Locate.child u path) d es'
      ∧ Unfolds src (Locate.child u path) d.endpointPrefix es' inside
      ∧ Locate.child u path ∈ o.documents ∧ inside.documents ⊆ o.documents := by
  induction h with
  | nil => exact nomatch hp
  | endpoint path' ops _ ih =>
      rcases List.mem_cons.mp hp with heq | hmem
      · exact nomatch heq
      · exact ih hmem
  | @reference u endpointPrefix path' es es' d inside rest hd hi hr ihi ihr =>
      rcases List.mem_cons.mp hp with heq | hmem
      · obtain rfl : path = path' := by injection heq
        refine ⟨d, es', inside, hd, hi, List.mem_cons_self, fun w hw => ?_⟩
        exact List.mem_cons_of_mem _ (List.mem_append_left _ hw)
      · obtain ⟨d', es'', inside', hd', hi', hmem', hsub'⟩ := ihr hmem
        refine ⟨d', es'', inside', hd', hi', ?_, fun w hw => ?_⟩
        · exact List.mem_cons_of_mem _ (List.mem_append_right _ hmem')
        · exact List.mem_cons_of_mem _ (List.mem_append_right _ (hsub' hw))

/-- References lead to every document of an outline. -/
theorem Unfolds.reachesBelow {o : Outline} (h : Unfolds src u endpointPrefix es o)
    (hes : ∀ path, Entry.reference path ∈ es → Refers src u (Locate.child u path))
    (hv : v ∈ o.documents) : ReachesBelow src u v := by
  -- `es` need not be all entries of the document, so that what is left of them is covered too
  induction h with
  | nil => exact nomatch hv
  | endpoint path ops _ ih =>
      exact ih (fun path' hp => hes path' (List.mem_cons_of_mem _ hp)) hv
  | reference hd _ _ ihi ihr =>
      have hchild := hes _ List.mem_cons_self
      rcases List.mem_cons.mp hv with rfl | hv
      · exact .single hchild
      · rcases List.mem_append.mp hv with hv | hv
        · exact .head hchild (ihi (fun _ hp => hd.refers hp) hv)
        · exact ihr (fun path' hp => hes path' (List.mem_cons_of_mem _ hp)) hv

/-- An outline holds every document that references lead to. -/
theorem ReachesBelow.mem_documents (h : ReachesBelow src u v) :
    ∀ {d es o}, src.Reads u d es → Unfolds src u d.endpointPrefix es o → v ∈ o.documents := by
  -- the induction takes the first reference off, and what it leads to has an inside of its own
  induction h using Relation.TransGen.head_induction_on with
  | single href =>
      intro d es o hd ho
      obtain ⟨d', es', path, hd', hp, rfl⟩ := href
      obtain ⟨rfl, rfl⟩ := hd.unique hd'
      obtain ⟨_, _, _, _, _, hmem, _⟩ := ho.of_reference_mem hp
      exact hmem
  | head href _ ih =>
      intro d es o hd ho
      obtain ⟨d', es', path, hd', hp, rfl⟩ := href
      obtain ⟨rfl, rfl⟩ := hd.unique hd'
      obtain ⟨_, _, inside, hdc, hic, _, hsub⟩ := ho.of_reference_mem hp
      exact hsub (ih hdc hic)

/-- The documents of an outline are those that references lead to. -/
theorem Unfolds.mem_documents_iff {d : Description} {o : Outline} (hd : src.Reads u d es)
    (h : Unfolds src u d.endpointPrefix es o) : v ∈ o.documents ↔ ReachesBelow src u v :=
  ⟨h.reachesBelow fun _ hp => hd.refers hp, fun hv => ReachesBelow.mem_documents hv hd h⟩

/-- The documents of a document's outline are the document and those that
    references lead to. -/
theorem Outlines.mem_documents_iff {o : Outline} (h : Outlines src u o) :
    v ∈ o.documents ↔ Reaches src u v := by
  obtain ⟨d, es, inside, hd, hi, rfl⟩ := h
  show v ∈ u :: (inside.documents ++ []) ↔ Relation.ReflTransGen (Refers src) u v
  rw [Relation.reflTransGen_iff_eq_or_transGen]
  rw [List.append_nil, List.mem_cons, hi.mem_documents_iff hd]

/-! ## Clear outlines -/

/-- The endpoints of a clear outline are supported. -/
theorem Unfolds.supported_of_clear {o : Outline} {path : String} {ops : List Operation}
    (h : Unfolds src u endpointPrefix es o) (hc : o.Clear)
    (he : Entry.endpoint path ops ∈ es) : Supported path ops := by
  induction h with
  | nil => exact nomatch he
  | endpoint path' ops' _ ih =>
      obtain ⟨hs, hrest⟩ := hc
      rcases List.mem_cons.mp he with heq | hmem
      · obtain ⟨rfl, rfl⟩ : path = path' ∧ ops = ops' := by injection heq; exact ⟨‹_›, ‹_›⟩
        exact hs
      · exact ih hrest hmem
  | reference _ _ _ _ ihr =>
      obtain ⟨-, -, hrest⟩ := hc
      rcases List.mem_cons.mp he with heq | hmem
      · exact nomatch heq
      · exact ihr hrest hmem

/-- Each document of a clear outline reads, and has a clear inside that it does
    not stand in. -/
theorem Unfolds.inside_of_clear {o : Outline} (h : Unfolds src u endpointPrefix es o)
    (hc : o.Clear) (hv : v ∈ o.documents) :
    ∃ d es' inside, src.Reads v d es' ∧ Unfolds src v d.endpointPrefix es' inside
      ∧ inside.Clear ∧ v.text ∉ inside.texts := by
  induction h with
  | nil => exact nomatch hv
  | endpoint path ops _ ih => exact ih hc.2 hv
  | @reference u endpointPrefix path es es' d inside rest hd hi hr ihi ihr =>
      obtain ⟨hself, hinside, hrest⟩ := hc
      rcases List.mem_cons.mp hv with rfl | hv
      · exact ⟨d, es', inside, hd, hi, hinside, hself⟩
      · rcases List.mem_append.mp hv with hv | hv
        · exact ihi hinside hv
        · exact ihr hrest hv

/-- Below a document with a clear outline everything is in order, and nothing
    refers back to itself. -/
theorem Outlines.inOrder_of_clear {o : Outline} (h : Outlines src root o) (hc : o.Clear)
    (hu : Reaches src root u) :
    src.InOrder u ∧ ∀ v, ReachesBelow src u v → v.text ≠ u.text := by
  obtain ⟨d, es, inside, hd, hi, hic, hself⟩ : ∃ d es inside, src.Reads u d es
      ∧ Unfolds src u d.endpointPrefix es inside ∧ inside.Clear ∧ u.text ∉ inside.texts := by
    have hmem := h.mem_documents_iff.mpr hu
    obtain ⟨d, es, inside, hd, hi, rfl⟩ := h
    obtain ⟨hself, hinside, -⟩ := hc
    rcases List.mem_cons.mp hmem with rfl | hmem
    · exact ⟨d, es, inside, hd, hi, hinside, hself⟩
    · exact hi.inside_of_clear hinside (by simpa [Outline.documents] using hmem)
  refine ⟨Source.inOrder_iff.mpr ⟨d, es, hd, fun path ops he => ?_⟩, fun v hv heq => ?_⟩
  · exact hi.supported_of_clear hic he
  · rw [← heq] at hself
    exact hself (Outline.text_mem_texts ((hi.mem_documents_iff hd).mpr hv))

end SwaggerCmdlets
