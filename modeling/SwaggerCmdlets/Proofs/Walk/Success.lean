import Mathlib.Data.List.Perm.Subperm
import SwaggerCmdlets.Proofs.Walk.Covering

/-! # Success — when a run comes to its end

    A run over a list of documents succeeds exactly when everything that
    references lead to is in order and nothing refers back to itself, and only
    then something is written.

    One direction reads the outline that a successful walk has covered.  In the
    other one the walk cannot fail: what is active refers to what is visited, so
    that meeting it again would be a cycle, and the room that is left always
    exceeds the listed documents that are not active (`Roomy`). -/

namespace SwaggerCmdlets

variable {docs : Source.Listing} {u : Url}

/-- Only listed documents are active, each once, and the room exceeds what is
    left of the list. -/
structure Roomy (docs : Source.Listing) (room : Nat) (active : List String) : Prop where
  nodup : active.Nodup
  listed : active ⊆ docs.map Prod.fst
  spare : docs.length < active.length + room

theorem Roomy.pos {room : Nat} {active : List String} (h : Roomy docs room active) :
    0 < room := by
  have hle : active.length ≤ (docs.map Prod.fst).length :=
    (List.subperm_of_subset h.nodup h.listed).length_le
  rw [List.length_map] at hle
  have := h.spare
  omega

/-- A document that is fetched is listed. -/
theorem mem_keys_of_get {t text : String} (h : docs.get t = .ok text) :
    t ∈ docs.map Prod.fst := by
  rw [Source.Listing.get] at h
  cases hf : docs.find? (·.1 == t) with
  | none =>
      rw [hf] at h
      exact nomatch h
  | some p =>
      have hp : p.1 = t := by simpa using List.find?_some hf
      rw [← hp]
      exact List.mem_map_of_mem (List.mem_of_find?_eq_some hf)

/-- Starting with a listed document that is not active takes one from the
    room. -/
theorem Roomy.start {room : Nat} {active : List String} {t text : String}
    (h : Roomy docs (room + 1) active) (ht : t ∉ active) (hget : docs.get t = .ok text) :
    Roomy docs room (t :: active) where
  nodup := List.nodup_cons.mpr ⟨ht, h.nodup⟩
  listed := List.cons_subset.mpr ⟨mem_keys_of_get hget, h.listed⟩
  spare := by
    have := h.spare
    rw [List.length_cons]
    omega

/-- Walking supported entries succeeds when visiting what they refer to does. -/
theorem entries_succeeds (visit : Url → Session → Outcome) (endpointPrefix : String)
    {es : List Entry} {active : List String}
    (hvisit : ∀ path, Entry.reference path ∈ es → ∀ s, s.active = active →
      ∃ s', visit (Locate.child u path) s = ⟨s', none⟩ ∧ s'.active = active)
    (hsupp : ∀ path ops, Entry.endpoint path ops ∈ es → Supported path ops) :
    ∀ s, s.active = active →
      ∃ s', Walk.entries visit u endpointPrefix es s = ⟨s', none⟩ ∧ s'.active = active := by
  induction es with
  | nil => exact fun s hs => ⟨s, rfl, hs⟩
  | cons e es ih =>
      intro s hs
      have ih := ih (fun path hp => hvisit path (List.mem_cons_of_mem _ hp))
        (fun path ops he => hsupp path ops (List.mem_cons_of_mem _ he))
      cases e with
      | reference path =>
          obtain ⟨s₁, hv, h₁⟩ :=
            hvisit path List.mem_cons_self { s with depth := s.depth + 1 } hs
          obtain ⟨s', hrest, h'⟩ := ih { s₁ with depth := s₁.depth - 1 } h₁
          refine ⟨s', Outcome.andThen_eq_ok_iff.mpr ⟨_, ?_, hrest⟩, h'⟩
          exact Outcome.mapSession_eq_ok_iff.mpr ⟨s₁, hv, rfl⟩
      | endpoint path ops =>
          obtain ⟨s₁, hadd⟩ :=
            Walk.addEndpoint_succeeds (hsupp path ops List.mem_cons_self) endpointPrefix s
          obtain ⟨-, notices, h₁⟩ := Walk.addEndpoint_ok hadd
          obtain ⟨s', hrest, h'⟩ := ih s₁ (by rw [h₁]; exact hs)
          exact ⟨s', Outcome.andThen_eq_ok_iff.mpr ⟨s₁, hadd, hrest⟩, h'⟩

/-- A visit succeeds if everything that references lead to is in order, is not
    active and does not refer back to itself. -/
theorem visit_succeeds (explicit : Option String) (room : Nat) :
    ∀ {u : Url} {s : Session}, Roomy docs room s.active →
      (∀ v, Reaches (.ofListing docs) u v → v.text ∉ s.active
        ∧ (Source.ofListing docs).InOrder v
        ∧ ∀ w, ReachesBelow (.ofListing docs) v w → w.text ≠ v.text) →
      ∃ s', Walk.visit (.ofListing docs) explicit room u s = ⟨s', none⟩
        ∧ s'.active = s.active := by
  induction room with
  | zero =>
      intro u s hroom _
      exact absurd hroom.pos (Nat.lt_irrefl 0)
  | succ below ih =>
      -- nothing active is met, and there is room for one more document
      intro u s hroom hall
      obtain ⟨ha, hord, hacyclic⟩ := hall u .refl
      rw [Walk.visit, if_neg ha]
      by_cases hc : u.text ∈ s.completed
      · rw [if_pos hc]
        exact ⟨s.note (.alreadyResolved u.text), rfl, rfl⟩
      · rw [if_neg hc]
        obtain ⟨d, es, hd, hsupp⟩ := Source.inOrder_iff.mp hord
        obtain ⟨text, hfetch, -⟩ := Source.load_eq_ok_iff.mp hd.1
        have hopen : (Walk.opening explicit u d s).active = u.text :: s.active := by
          obtain ⟨notices, ho⟩ := Walk.opening_eq explicit u d s
          rw [ho]
        have hvisit : ∀ path, Entry.reference path ∈ es → ∀ s', s'.active = u.text :: s.active →
            ∃ s'', Walk.visit (.ofListing docs) explicit below (Locate.child u path) s'
              = ⟨s'', none⟩ ∧ s''.active = u.text :: s.active := by
          intro path hp s' hs'
          have href : Refers (.ofListing docs) u (Locate.child u path) := hd.refers hp
          rw [← hs']
          refine ih (hs' ▸ hroom.start ha hfetch) fun v hv => ?_
          obtain ⟨hv_active, hv_rest⟩ := hall v (.head href hv)
          refine ⟨?_, hv_rest⟩
          -- meeting `u` again would be a cycle
          rw [hs', List.mem_cons, not_or]
          exact ⟨hacyclic v (.head' href hv), hv_active⟩
        obtain ⟨s₁, hes, h₁⟩ := entries_succeeds _ d.endpointPrefix hvisit hsupp _ hopen
        refine ⟨s₁.complete u.text, Walk.fresh_succeeds hd hes, ?_⟩
        show s₁.active.tail = s.active
        rw [h₁]
        rfl

/-- A run succeeds exactly when the document's name is an address and, for every
    document that references lead to from there, the document is in order and no
    reference leads from it back to it.  A module is handed to the writer once,
    with the composed text, if the run succeeds, and not at all if it fails. -/
theorem gather_succeeds_iff (docs : Source.Listing) (config : Config) (cwd : Option String)
    (document : String) :
    let src := Source.ofListing docs
    let g : Setup := ⟨config, src, cwd⟩
    ((∃ s, (g.gather document).result = .ok s) ↔
      ∃ root, Locate.root cwd document = .ok root ∧ ∀ u, Reaches src root u →
        src.InOrder u ∧ ∀ v, ReachesBelow src u v → v.text ≠ u.text)
    ∧ ∀ path write,
      (∀ s, (g.gather document).result = .ok s → ∃ text,
        (g.compose document).result = .ok text
          ∧ (g.writeModule document path write).handed = [(path, text)])
      ∧ ∀ f, (g.gather document).result = .error f →
        (g.writeModule document path write).handed = [] := by
  intro src g
  refine ⟨⟨?_, ?_⟩, fun path write => ⟨?_, ?_⟩⟩
  · rintro ⟨s, h⟩
    obtain ⟨root, s', hroot, hvisit, -⟩ := gather_eq_ok_iff.mp h
    obtain ⟨o, ho, hcov, -⟩ := visit_root_covers hvisit
    exact ⟨root, hroot, fun u hu => ho.inOrder_of_clear hcov.clear hu⟩
  · rintro ⟨root, hroot, hall⟩
    have hroom : Roomy docs src.nesting Session.empty.active := by
      refine ⟨List.nodup_nil, List.nil_subset _, ?_⟩
      show docs.length < 0 + (docs.length + 1)
      omega
    obtain ⟨s', hvisit, -⟩ := visit_succeeds config.apiBase src.nesting hroom
      fun v hv => ⟨List.not_mem_nil, hall v hv⟩
    exact ⟨_, gather_eq_ok_iff.mpr ⟨root, s', hroot, hvisit, rfl⟩⟩
  · intro s h
    have hcompose : (g.compose document).result = .ok (s.script config) := by
      rw [compose_result, h]
      rfl
    refine ⟨s.script config, hcompose, ?_⟩
    rw [writeModule_handed, hcompose]
    rfl
  · intro f h
    rw [writeModule_handed, compose_result, h]
    rfl

end SwaggerCmdlets
