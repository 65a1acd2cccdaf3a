import Mathlib.Tactic.Tauto
import SwaggerCmdlets.Proofs.Walk.Outline

/-! # Covering — a successful walk is the walk of an outline

    A successful visit of a document below the first one leaves the session as
    the walk of the document's outline says (`Covers`), and everything that is
    completed stays completed together with all that it refers to (`Settled`).

    The two go together: a document that is completed already is skipped, and
    only because it is settled does its outline contribute nothing.  The
    induction of `visit_covers` is on the room that is left; `visit_root_covers`
    is the first document itself, where nothing is completed yet. -/

namespace SwaggerCmdlets

variable {src : Source} {explicit : Option String} {root u : Url} {s s₁ s' : Session}
  {d : Description} {es : List Entry} {inside rest : Outline} {endpointPrefix path : String}
  {ops : List Operation} {visit : Url → Session → Outcome}

/-- A run from `s` to `s'` has walked the outline. -/
structure Covers (s s' : Session) (o : Outline) : Prop where
  clear : o.Clear
  apart : ∀ t ∈ o.texts, t ∉ s.active
  completed : ∀ t, t ∈ s'.completed ↔ t ∈ o.texts ∨ t ∈ s.completed
  active : s'.active = s.active
  depth : s'.depth = s.depth
  base : ∀ b, s.base = some b → s'.base = some b
  descriptors : s'.descriptors
    = s.descriptors ++ (o.steps s.completed).flatMap Outline.Step.descriptors
  registry : s'.registry = (o.steps s.completed).foldl Outline.Step.declare s.registry
  requests : s'.requests.map (·.uri)
    = s.requests.map (·.uri) ++ (o.steps s.completed).filterMap Outline.Step.uri?
  visits : (o.steps s.completed).filterMap Outline.Step.uri? = firstVisits s.completed o.texts

/-- Everything that is completed has an outline that is completed too, and none
    of it is active. -/
structure Settled (src : Source) (root : Url) (active completed : List String) : Prop where
  whole : ∀ t ∈ completed, ∃ v d es inside, IsBelow root v ∧ v.text = t ∧ src.Reads v d es
    ∧ Unfolds src v d.endpointPrefix es inside ∧ inside.Clear ∧ t ∉ inside.texts
    ∧ ∀ t' ∈ inside.texts, t' ∈ completed
  apart : ∀ t ∈ completed, t ∉ active

/-- Successful visits below `root` walk outlines and leave everything settled. -/
def VisitsCover (src : Source) (root : Url) (visit : Url → Session → Outcome) : Prop :=
  ∀ u s s', IsBelow root u → Settled src root s.active s.completed →
    visit u s = ⟨s', none⟩ →
    ∃ o, Outlines src u o ∧ Covers s s' o ∧ Settled src root s'.active s'.completed

/-! ## Walks from parts -/

theorem Covers.nil (s : Session) : Covers s s .nil where
  clear := trivial
  apart := List.forall_mem_nil _
  completed t := by simp [Outline.texts, Outline.documents]
  active := rfl
  depth := rfl
  base _ h := h
  descriptors := by simp [Outline.steps]
  registry := rfl
  requests := by simp [Outline.steps]
  visits := rfl

/-- An endpoint, and then the rest. -/
theorem Covers.endpoint {notices : List Notice} (hs : Supported path ops)
    (h₁ : s₁ = { s with
      descriptors := s.descriptors ++ endpointDescriptors endpointPrefix path ops
      notices := notices })
    (h : Covers s₁ s' rest) : Covers s s' (.endpoint endpointPrefix path ops rest) := by
  subst h₁
  exact {
    clear := ⟨hs, h.clear⟩
    apart := h.apart
    completed := h.completed
    active := h.active
    depth := h.depth
    base := h.base
    descriptors := by
      rw [h.descriptors, List.append_assoc]
      rfl
    registry := h.registry
    requests := h.requests
    visits := h.visits }

/-- A referenced document, and then the rest. -/
theorem Covers.reference (h : Covers s s₁ (.document u d inside .nil))
    (h' : Covers s₁ s' rest) : Covers s s' (.document u d inside rest) := by
  have hcompleted : ∀ t, t ∈ s₁.completed ↔ t ∈ u.text :: (inside.texts ++ s.completed) := by
    intro t
    rw [h.completed, Outline.mem_texts_document, List.mem_cons, List.mem_append, or_assoc]
  -- what the rest was walked with and what its steps start from are the same addresses
  have hsteps : (Outline.document u d inside rest).steps s.completed
      = (Outline.document u d inside .nil).steps s.completed ++ rest.steps s₁.completed := by
    rw [Outline.steps_append, Outline.steps_congr fun t _ => hcompleted t]
  exact {
    clear := ⟨h.clear.1, h.clear.2.1, h'.clear⟩
    apart := by
      intro t ht
      rw [Outline.texts_append u d inside rest] at ht
      rcases List.mem_append.mp ht with ht | ht
      · exact h.apart t ht
      · rw [← h.active]
        exact h'.apart t ht
    completed := by
      intro t
      rw [h'.completed, h.completed, Outline.texts_append u d inside rest, List.mem_append]
      tauto
    active := h'.active.trans h.active
    depth := h'.depth.trans h.depth
    base := fun b hb => h'.base b (h.base b hb)
    descriptors := by
      rw [h'.descriptors, h.descriptors, hsteps, List.flatMap_append, List.append_assoc]
    registry := by
      rw [h'.registry, h.registry, hsteps, List.foldl_append]
    requests := by
      rw [h'.requests, h.requests, hsteps, List.filterMap_append, List.append_assoc]
    visits := by
      rw [hsteps, List.filterMap_append, h.visits, h'.visits,
        Outline.texts_append u d inside rest, firstVisits_append]
      refine congrArg (_ ++ ·) (firstVisits_congr fun t _ => ?_)
      rw [h.completed, List.mem_append] }

/-- A walk one level further down. -/
theorem Covers.descend {o : Outline} (h : Covers { s with depth := s.depth + 1 } s₁ o) :
    Covers s { s₁ with depth := s₁.depth - 1 } o where
  clear := h.clear
  apart := h.apart
  completed := h.completed
  active := h.active
  depth := by
    show s₁.depth - 1 = s.depth
    rw [h.depth]
    rfl
  base := h.base
  descriptors := h.descriptors
  registry := h.registry
  requests := h.requests
  visits := h.visits

/-- A document that is completed contributes nothing. -/
theorem Covers.again {n : Notice} (hu : u.text ∈ s.completed)
    (hinside : ∀ t ∈ inside.texts, t ∈ s.completed) (hclear : inside.Clear)
    (hself : u.text ∉ inside.texts) (hapart : ∀ t ∈ s.completed, t ∉ s.active) :
    Covers s (s.note n) (.document u d inside .nil) := by
  have hall : ∀ t ∈ (Outline.document u d inside .nil).texts, t ∈ s.completed := by
    intro t ht
    rcases Outline.mem_texts_document.mp ht with rfl | ht
    · exact hu
    · exact hinside t ht
  have hsteps : (Outline.document u d inside .nil).steps s.completed = [] :=
    Outline.steps_of_mem hu
  exact {
    clear := ⟨hself, hclear, trivial⟩
    apart := fun t ht => hapart t (hall t ht)
    completed := fun t => ⟨Or.inr, fun h => h.elim (hall t) id⟩
    active := rfl
    depth := rfl
    base := fun _ hb => hb
    descriptors := by
      rw [hsteps]
      exact (List.append_nil _).symm
    registry := by
      rw [hsteps]
      rfl
    requests := by
      rw [hsteps]
      exact (List.append_nil _).symm
    visits := by
      rw [hsteps, firstVisits_eq_nil hall]
      rfl }

/-- A document that is neither active nor completed stands before its inside. -/
theorem Covers.fresh (ha : u.text ∉ s.active) (hc : u.text ∉ s.completed)
    (h : Covers (Walk.opening explicit u d s) s₁ inside) :
    Covers s (s₁.complete u.text) (.document u d inside .nil) := by
  obtain ⟨notices, ho⟩ := Walk.opening_eq explicit u d s
  rw [ho] at h
  -- the document is active while its inside is walked
  have hself : u.text ∉ inside.texts := fun hmem => h.apart _ hmem List.mem_cons_self
  have hsteps : (Outline.document u d inside .nil).steps s.completed
      = .document u d :: inside.steps s.completed := Outline.steps_of_not_mem hc hself
  have hvisits : (inside.steps s.completed).filterMap Outline.Step.uri?
      = firstVisits s.completed inside.texts := h.visits
  exact {
    clear := ⟨hself, h.clear, trivial⟩
    apart := by
      intro t ht
      rcases Outline.mem_texts_document.mp ht with rfl | ht
      · exact ha
      · exact fun hmem => h.apart t ht (List.mem_cons_of_mem _ hmem)
    completed := by
      intro t
      show t ∈ u.text :: s₁.completed ↔ _
      rw [List.mem_cons, h.completed, Outline.mem_texts_document, or_assoc]
    active := by
      show s₁.active.tail = s.active
      rw [h.active]
      rfl
    depth := h.depth
    base := by
      intro b hb
      refine h.base b ?_
      show some (s.base.getD _) = some b
      rw [hb]
      rfl
    descriptors := by
      rw [hsteps]
      exact h.descriptors
    registry := by
      rw [hsteps]
      exact h.registry
    requests := by
      rw [hsteps]
      show s₁.requests.map (·.uri) = _
      rw [h.requests]
      simp [Outline.Step.uri?]
    visits := by
      rw [hsteps]
      show u.text :: (inside.steps s.completed).filterMap Outline.Step.uri? = _
      have hnil : inside.texts ++ Outline.nil.texts = inside.texts := List.append_nil _
      rw [hvisits, Outline.texts_document, hnil, firstVisits_cons hc]
      refine congrArg (u.text :: ·) ?_
      refine firstVisits_congr fun t ht => ?_
      have hne : t ≠ u.text := fun heq => hself (heq ▸ ht)
      rw [List.mem_cons]
      exact (or_iff_right hne).symm }

/-! ## What is completed -/

/-- Opening a document that is not completed leaves everything settled. -/
theorem Settled.opening (hs : Settled src root s.active s.completed)
    (hc : u.text ∉ s.completed) :
    Settled src root (Walk.opening explicit u d s).active
      (Walk.opening explicit u d s).completed := by
  obtain ⟨notices, ho⟩ := Walk.opening_eq explicit u d s
  rw [ho]
  refine ⟨hs.whole, fun t ht hmem => ?_⟩
  rcases List.mem_cons.mp hmem with rfl | hmem
  · exact hc ht
  · exact hs.apart t ht hmem

/-- A document that is walked is settled when it is completed. -/
theorem Settled.complete (hbelow : IsBelow root u) (hd : src.Reads u d es)
    (hi : Unfolds src u d.endpointPrefix es inside) (ha : u.text ∉ s.active)
    (h : Covers (Walk.opening explicit u d s) s₁ inside)
    (hs : Settled src root s₁.active s₁.completed) :
    Settled src root (s₁.complete u.text).active (s₁.complete u.text).completed := by
  obtain ⟨notices, ho⟩ := Walk.opening_eq explicit u d s
  rw [ho] at h
  have hactive : s₁.active = u.text :: s.active := h.active
  -- what was completed before was settled by `hs`, so that only `u` itself is new
  refine ⟨fun t ht => ?_, fun t ht => ?_⟩
  · rcases List.mem_cons.mp ht with rfl | ht
    · refine ⟨u, d, es, inside, hbelow, rfl, hd, hi, h.clear, ?_, fun t' ht' => ?_⟩
      · exact fun hmem => h.apart _ hmem List.mem_cons_self
      · exact List.mem_cons_of_mem _ ((h.completed t').mpr (Or.inl ht'))
    · obtain ⟨v, d', es', inside', hb, hv, hd', hi', hclear, hself, hsub⟩ := hs.whole t ht
      exact ⟨v, d', es', inside', hb, hv, hd', hi', hclear, hself,
        fun t' ht' => List.mem_cons_of_mem _ (hsub t' ht')⟩
  · show t ∉ s₁.active.tail
    rw [hactive]
    rcases List.mem_cons.mp ht with rfl | ht
    · exact ha
    · have hnot := hs.apart t ht
      rw [hactive] at hnot
      exact fun hmem => hnot (List.mem_cons_of_mem _ hmem)

/-! ## Successful walks -/

/-- A successful walk of entries walks what they unfold to. -/
theorem VisitsCover.entries (hvisit : VisitsCover src root visit)
    (hchild : ∀ path, IsBelow root (Locate.child u path))
    (hs : Settled src root s.active s.completed)
    (h : Walk.entries visit u endpointPrefix es s = ⟨s', none⟩) :
    ∃ o, Unfolds src u endpointPrefix es o ∧ Covers s s' o
      ∧ Settled src root s'.active s'.completed := by
  -- each entry leaves settled what the next one needs settled
  induction es generalizing s with
  | nil =>
      obtain rfl : s = s' := congrArg Outcome.session h
      exact ⟨.nil, .nil u endpointPrefix, Covers.nil s, hs⟩
  | cons e es ih =>
      cases e with
      | reference path =>
          obtain ⟨s₂, hdescend, hrest⟩ := Outcome.andThen_eq_ok_iff.mp h
          obtain ⟨s₁, hv, rfl⟩ := Walk.descend_ok hdescend
          obtain ⟨_, ⟨d, es', inside, hd, hi, rfl⟩, hcov, hset⟩ :=
            hvisit _ { s with depth := s.depth + 1 } s₁ (hchild path) hs hv
          obtain ⟨rest, hunf, hcov', hset'⟩ :=
            ih (s := { s₁ with depth := s₁.depth - 1 }) hset hrest
          exact ⟨_, .reference hd hi hunf, hcov.descend.reference hcov', hset'⟩
      | endpoint path ops =>
          obtain ⟨s₁, hadd, hrest⟩ := Outcome.andThen_eq_ok_iff.mp h
          obtain ⟨hsupp, notices, h₁⟩ := Walk.addEndpoint_ok hadd
          have hset : Settled src root s₁.active s₁.completed := by
            rw [h₁]
            exact hs
          obtain ⟨rest, hunf, hcov, hset'⟩ := ih hset hrest
          exact ⟨_, .endpoint path ops hunf, Covers.endpoint hsupp h₁ hcov, hset'⟩

/-- A successful walk of a document that is not completed walks its inside. -/
theorem VisitsCover.fresh (hvisit : VisitsCover src root visit)
    (hchild : ∀ path, IsBelow root (Locate.child u path))
    (hs : Settled src root s.active s.completed) (hc : u.text ∉ s.completed)
    (h : Walk.fresh src visit explicit u s = ⟨s', none⟩) :
    ∃ d es inside s₁, src.Reads u d es ∧ Unfolds src u d.endpointPrefix es inside
      ∧ Covers (Walk.opening explicit u d s) s₁ inside
      ∧ Settled src root s₁.active s₁.completed ∧ s' = s₁.complete u.text := by
  obtain ⟨d, es, s₁, hd, hentries, hs'⟩ := Walk.fresh_ok h
  obtain ⟨inside, hi, hcov, hset⟩ := hvisit.entries hchild (hs.opening hc) hentries
  exact ⟨d, es, inside, s₁, hd, hi, hcov, hset, hs'⟩

/-- A successful visit of a document below the first one walks its outline. -/
theorem visit_covers (src : Source) (explicit : Option String) (root : Url) (room : Nat) :
    VisitsCover src root (Walk.visit src explicit room) := by
  induction room with
  | zero => exact fun u s s' _ _ h => nomatch congrArg Outcome.failure h
  | succ below ih =>
      intro u s s' hu hs h
      obtain ⟨_, heq, ha, h⟩ := Walk.visit_ok h
      obtain rfl := Nat.succ.inj heq
      rcases h with ⟨hc, rfl⟩ | ⟨hc, hfresh⟩
      · -- the completed document of this address is `u` itself, and its inside is done
        obtain ⟨v, d, es, inside, hv, htext, hd, hi, hclear, hself, hsub⟩ := hs.whole _ hc
        obtain rfl := hv.eq_of_text hu htext
        exact ⟨_, ⟨d, es, inside, hd, hi, rfl⟩, Covers.again hc hsub hclear hself hs.apart, hs⟩
      · obtain ⟨d, es, inside, s₁, hd, hi, hcov, hset, rfl⟩ := ih.fresh hu.child hs hc hfresh
        exact ⟨_, ⟨d, es, inside, hd, hi, rfl⟩, hcov.fresh ha hc,
          Settled.complete hu hd hi ha hcov hset⟩

/-- A successful visit of the first document walks its outline, below the base
    that the user or else the document's own address names. -/
theorem visit_root_covers {room : Nat}
    (h : Walk.visit src explicit room root .empty = ⟨s', none⟩) :
    ∃ o, Outlines src root o ∧ Covers .empty s' o
      ∧ s'.base = some (explicit.getD root.origin) := by
  obtain ⟨below, -, ha, ⟨hc, -⟩ | ⟨hc, hfresh⟩⟩ := Walk.visit_ok h
  · exact nomatch hc
  · have hs : Settled src root Session.empty.active Session.empty.completed :=
      ⟨List.forall_mem_nil _, List.forall_mem_nil _⟩
    obtain ⟨d, es, inside, s₁, hd, hi, hcov, -, rfl⟩ :=
      (visit_covers src explicit root below).fresh (child_isBelow root) hs hc hfresh
    refine ⟨_, ⟨d, es, inside, hd, hi, rfl⟩, hcov.fresh ha hc, hcov.base _ ?_⟩
    obtain ⟨notices, ho⟩ := Walk.opening_eq explicit root d .empty
    rw [ho]
    rfl

end SwaggerCmdlets
