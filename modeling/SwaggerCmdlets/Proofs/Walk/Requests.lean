import Mathlib.Data.List.Nodup
import SwaggerCmdlets.Proofs.Walk.Outcomes
import SwaggerCmdlets.Proofs.Walk.Success

/-! # Requests — what a run asks for before it ends

    Over a list of documents every run ends by itself, and whether it succeeds
    or fails it has asked for no document twice.

    Between two requests everything that was asked for is active or completed
    (`Logged`), and all of that is listed; a document that is asked for is
    neither, so that it is new.  Only a request that fails can go to a document
    that is not listed, and it is the last one.  The room of a visit exceeds the
    listed documents that are not active (`Roomy`) and so is never used up. -/

namespace SwaggerCmdlets

variable {docs : Source.Listing} {explicit : Option String} {u : Url} {s : Session}
  {requests : List Request} {active completed : List String} {room depth : Nat}
  {visit : Url → Session → Outcome}

/-- At the request, the active documents are different from each other and from
    the completed ones, and the depth is their number. -/
structure Request.Orderly (r : Request) : Prop where
  nodup : r.active.Nodup
  disjoint : r.active.Disjoint r.completed
  depth : r.depth = r.active.length

/-- How many documents are listed, each counted once. -/
def Source.Listing.size (docs : Source.Listing) : Nat := (docs.map Prod.fst).eraseDups.length

/-- No document was asked for twice, and at most one that is not listed. -/
structure AsksOnce (docs : Source.Listing) (requests : List Request) : Prop where
  once : (requests.map (·.uri)).Nodup
  bounded : requests.length ≤ docs.size + 1
  orderly : ∀ r ∈ requests, r.Orderly

/-- The requests of a run that is between two of them. -/
structure Logged (docs : Source.Listing) (requests : List Request)
    (active completed : List String) : Prop where
  once : (requests.map (·.uri)).Nodup
  orderly : ∀ r ∈ requests, r.Orderly
  known : ∀ r ∈ requests, r.uri ∈ active ∨ r.uri ∈ completed
  listed : completed ⊆ docs.map Prod.fst
  disjoint : active.Disjoint completed

theorem Roomy.init (h : docs.length < room) : Roomy docs room [] :=
  ⟨List.nodup_nil, List.nil_subset _, by simpa using h⟩

namespace Logged

theorem init (docs : Source.Listing) : Logged docs [] [] [] where
  once := List.nodup_nil
  orderly := List.forall_mem_nil _
  known := List.forall_mem_nil _
  listed := List.nil_subset _
  disjoint := List.disjoint_nil_left _

/-- Between requests, all that was asked for is listed. -/
theorem length_le (h : Logged docs requests active completed)
    (ha : active ⊆ docs.map Prod.fst) : requests.length ≤ docs.size := by
  have hsub : requests.map (·.uri) ⊆ (docs.map Prod.fst).eraseDups := by
    intro t ht
    obtain ⟨r, hr, rfl⟩ := List.mem_map.mp ht
    exact List.mem_eraseDups.mpr ((h.known r hr).elim (ha ·) (h.listed ·))
  rw [← List.length_map (·.uri)]
  exact (List.subperm_of_subset h.once hsub).length_le

theorem asksOnce (h : Logged docs requests active completed)
    (ha : active ⊆ docs.map Prod.fst) : AsksOnce docs requests :=
  ⟨h.once, Nat.le_succ_of_le (h.length_le ha), h.orderly⟩

/-- A request for a document that is neither active nor completed is the first
    one for it. -/
theorem asking (h : Logged docs s.requests s.active s.completed)
    (hroom : Roomy docs room s.active) (hdepth : s.depth = s.active.length)
    (ha : u.text ∉ s.active) (hc : u.text ∉ s.completed) :
    AsksOnce docs (Walk.asking explicit u s).requests := by
  obtain ⟨_, hask⟩ := Walk.asking_eq explicit u s
  rw [hask]
  have hnew : u.text ∉ s.requests.map (·.uri) := by
    intro hmem
    obtain ⟨r, hr, heq⟩ := List.mem_map.mp hmem
    rw [← heq] at ha hc
    exact (h.known r hr).elim ha hc
  exact {
    once := by
      rw [List.map_append]
      exact List.Nodup.append h.once (List.nodup_singleton _) (List.disjoint_singleton.mpr hnew)
    bounded := by
      rw [List.length_append]
      exact Nat.succ_le_succ (h.length_le hroom.listed)
    orderly := by
      intro r hr
      rcases List.mem_append.mp hr with hr | hr
      · exact h.orderly r hr
      · obtain rfl := List.mem_singleton.mp hr
        exact ⟨hroom.nodup, h.disjoint, hdepth⟩ }

/-- A document that is opened is active from then on. -/
theorem opening (h : Logged docs s.requests s.active s.completed)
    (hask : AsksOnce docs (Walk.asking explicit u s).requests) (hc : u.text ∉ s.completed) :
    Logged docs (Walk.asking explicit u s).requests (u.text :: s.active) s.completed := by
  have hknown : ∀ r ∈ (Walk.asking explicit u s).requests,
      r.uri ∈ u.text :: s.active ∨ r.uri ∈ s.completed := by
    obtain ⟨_, hs⟩ := Walk.asking_eq explicit u s
    rw [hs]
    intro r hr
    rcases List.mem_append.mp hr with hr | hr
    · exact (h.known r hr).imp_left (List.mem_cons_of_mem _)
    · obtain rfl := List.mem_singleton.mp hr
      exact Or.inl List.mem_cons_self
  exact ⟨hask.once, hask.orderly, hknown, h.listed, List.disjoint_cons_left.mpr ⟨hc, h.disjoint⟩⟩

/-- The innermost document is completed. -/
theorem complete {t : String} (h : Logged docs requests (t :: active) completed)
    (ha : t ∉ active) (ht : t ∈ docs.map Prod.fst) :
    Logged docs requests active (t :: completed) where
  once := h.once
  orderly := h.orderly
  known := by
    intro r hr
    rcases h.known r hr with hm | hm
    · rcases List.mem_cons.mp hm with heq | hm
      · exact Or.inr (List.mem_cons.mpr (Or.inl heq))
      · exact Or.inl hm
    · exact Or.inr (List.mem_cons_of_mem _ hm)
  listed := List.cons_subset.mpr ⟨ht, h.listed⟩
  disjoint := List.disjoint_cons_right.mpr ⟨ha, (List.disjoint_cons_left.mp h.disjoint).2⟩

end Logged

/-! ## Visits -/

/-- What a visit leaves when it succeeds: the documents that were active before
    are active again. -/
structure Returns (docs : Source.Listing) (active : List String) (depth : Nat) (s : Session) :
    Prop where
  logged : Logged docs s.requests s.active s.completed
  active : s.active = active
  depth : s.depth = depth

/-- What a visit leaves when it fails, which is not for want of room. -/
structure Fails (docs : Source.Listing) (f : Failure) (s : Session) : Prop where
  fits : ∀ t, f ≠ .nesting t
  asksOnce : AsksOnce docs s.requests

/-- Visits in a room ask for each document once, however they end. -/
def VisitsOnce (docs : Source.Listing) (room : Nat) (visit : Url → Session → Outcome) : Prop :=
  ∀ u s, Logged docs s.requests s.active s.completed → Roomy docs room s.active →
    s.depth = s.active.length → (visit u s).Meets (Returns docs s.active s.depth) (Fails docs)

/-- Below the active documents, entries ask for each document once. -/
theorem VisitsOnce.entries (hvisit : VisitsOnce docs room visit) (hroom : Roomy docs room active)
    (hdepth : depth + 1 = active.length) (endpointPrefix : String) (es : List Entry) :
    ∀ s, Returns docs active depth s →
      (Walk.entries visit u endpointPrefix es s).Meets (Returns docs active depth)
        (Fails docs) := by
  refine Walk.entries_meets ?_ ?_
  · rintro path - s ⟨hlog, rfl, rfl⟩
    -- a reference goes one level down, and the visit returns to where it came from
    have hchild := hvisit (Locate.child u path) { s with depth := s.depth + 1 } hlog hroom hdepth
    refine (hchild.mono ?_ ?_).mapSession
    · exact fun s' h => ⟨h.logged, h.active, congrArg (· - 1) h.depth⟩
    · exact fun f s' h => ⟨h.fits, h.asksOnce⟩
  · rintro path ops - s ⟨hlog, rfl, rfl⟩
    refine Walk.addEndpoint_meets endpointPrefix path ops s ?_ ?_
    · exact fun _ _ => ⟨hlog, rfl, rfl⟩
    · exact fun _ _ _ _ => ⟨fun t ht => (nomatch ht), hlog.asksOnce hroom.listed⟩

/-- A document that is neither active nor completed is asked for once, and what
    its entries lead to as well. -/
theorem VisitsOnce.fresh (hvisit : VisitsOnce docs room visit)
    (hlog : Logged docs s.requests s.active s.completed)
    (hroom : Roomy docs (room + 1) s.active) (hdepth : s.depth = s.active.length)
    (ha : u.text ∉ s.active) (hc : u.text ∉ s.completed) :
    (Walk.fresh (.ofListing docs) visit explicit u s).Meets (Returns docs s.active s.depth)
      (Fails docs) := by
  have hask : AsksOnce docs (Walk.asking explicit u s).requests :=
    hlog.asking hroom hdepth ha hc
  refine Walk.fresh_meets ?_ ?_ ?_
  · intro f hf
    refine ⟨fun t ht => ?_, hask⟩
    subst ht
    rcases Source.load_error hf with ⟨_, h⟩ | ⟨_, h⟩ | ⟨_, h⟩
    · exact nomatch h
    · exact nomatch h
    · exact nomatch h
  · intro d f _ hf
    refine ⟨fun t ht => ?_, hask⟩
    subst ht
    rcases Description.entries_error hf with ⟨_, h⟩ | ⟨_, h⟩
    · exact nomatch h
    · exact nomatch h
  · intro d es hd
    obtain ⟨text, hfetch, -⟩ := Source.load_eq_ok_iff.mp hd.1
    obtain ⟨_, hs⟩ := Walk.asking_eq explicit u s
    have hopen : Returns docs (u.text :: s.active) s.depth (Walk.opening explicit u d s) := by
      have hlog' := hlog.opening hask hc
      obtain ⟨_, ho⟩ := Walk.opening_eq explicit u d s
      rw [hs] at hlog'
      rw [ho]
      exact ⟨hlog', rfl, rfl⟩
    have hwalk := hvisit.entries (u := u) (hroom.start ha hfetch) (congrArg (· + 1) hdepth)
      d.endpointPrefix es _ hopen
    refine hwalk.mono (fun s₁ h => ?_) fun _ _ h => h
    have htail : s₁.active.tail = s.active := congrArg List.tail h.active
    refine ⟨?_, htail, h.depth⟩
    have hlog₁ := h.logged
    rw [h.active] at hlog₁
    show Logged docs s₁.requests s₁.active.tail (u.text :: s₁.completed)
    rw [htail]
    exact hlog₁.complete ha (mem_keys_of_get hfetch)

/-- Every visit that has room asks for each document once, however it ends. -/
theorem visit_visitsOnce (docs : Source.Listing) (explicit : Option String) (room : Nat) :
    VisitsOnce docs room (Walk.visit (.ofListing docs) explicit room) := by
  induction room with
  | zero => exact fun u s _ hroom _ => absurd hroom.pos (Nat.lt_irrefl 0)
  | succ below ih =>
      intro u s hlog hroom hdepth
      have hasks : AsksOnce docs s.requests := hlog.asksOnce hroom.listed
      refine Walk.visit_meets (fun h => nomatch h) ?_ ?_ ?_
      · exact fun _ => ⟨fun t ht => (nomatch ht), hasks⟩
      · exact fun _ => ⟨hlog, rfl, rfl⟩
      · intro _ heq ha hc
        obtain rfl := Nat.succ.inj heq
        exact ih.fresh hlog hroom hdepth ha hc

/-! ## Runs -/

/-- From the start, a visit fits in any room above the number of listed documents
    and asks for each document once. -/
theorem visit_root_asksOnce (explicit : Option String) (root : Url) (h : docs.length < room) :
    let o := Walk.visit (.ofListing docs) explicit room root .empty
    o.Fits ∧ AsksOnce docs o.session.requests := by
  intro o
  have hmeets : o.Meets (Returns docs [] 0) (Fails docs) :=
    visit_visitsOnce docs explicit room root .empty (Logged.init docs) (Roomy.init h) rfl
  obtain ⟨s, failure⟩ : Outcome := o
  cases failure with
  | none =>
      obtain ⟨hlog, hactive, -⟩ := hmeets
      refine ⟨fun t ht => (nomatch ht), hlog.asksOnce ?_⟩
      rw [hactive]
      exact List.nil_subset _
  | some f => exact ⟨fun t ht => hmeets.fits t (Option.some.inj ht), hmeets.asksOnce⟩

/-- Over a list of documents every run ends by itself: it never wants for room,
    and more room changes nothing.  However it ends, it has asked for no document
    twice and for at most one that is not listed; and at each request the active
    documents are different from each other and from the completed ones, and the
    depth is their number. -/
theorem gather_asksOnce (docs : Source.Listing) (config : Config) (cwd : Option String)
    (document : String) :
    let src := Source.ofListing docs
    let run := Setup.gather ⟨config, src, cwd⟩ document
    (∀ t, run.result ≠ .error (.nesting t))
      ∧ (∀ root, Locate.root cwd document = .ok root → ∀ more,
        Walk.visit src config.apiBase (src.nesting + more) root .empty
          = Walk.visit src config.apiBase src.nesting root .empty)
      ∧ AsksOnce docs run.session.requests := by
  intro src run
  cases hr : Locate.root cwd document with
  | error f =>
      have hrun : run = ⟨.empty, .error f⟩ := by
        show Setup.gather _ document = _
        rw [Setup.gather, hr]
      rw [hrun]
      refine ⟨fun t ht => ?_, fun _ h => ?_, (Logged.init docs).asksOnce (List.nil_subset _)⟩
      · obtain rfl := Except.error.inj ht
        rcases Locate.root_error hr with h | ⟨_, _, h⟩
        · cases h
        · cases h
      · cases h
  | ok root =>
      obtain ⟨hfits, hasks⟩ :=
        visit_root_asksOnce config.apiBase root (Nat.lt_succ_self docs.length)
      obtain ⟨hrequests, hresult⟩ := gather_of_root (g := ⟨config, src, cwd⟩) hr
      refine ⟨fun t ht => hfits t ((hresult _).mp ht), ?_, ?_⟩
      · rintro _ h more
        obtain rfl := Except.ok.inj h
        exact Walk.visit_eq_of_fits hfits more
      · show AsksOnce docs (Setup.gather ⟨config, src, cwd⟩ document).session.requests
        rw [hrequests]
        exact hasks

end SwaggerCmdlets
