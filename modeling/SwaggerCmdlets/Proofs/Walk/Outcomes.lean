import SwaggerCmdlets.Proofs.Description.Entries
import SwaggerCmdlets.Proofs.Walk.Parts

/-! # Outcomes — what a walk leaves behind, however it ends

    A walk that fails leaves a session too.  `Outcome.Meets` says what holds of
    the session on either end, and there is one rule for each function of the
    walk that composes it from the parts: entries keep what each entry keeps
    (`Walk.entries_meets`), and a visit either ends at once or asks for the
    document and walks its entries (`Walk.visit_meets`).

    The room of a visit matters only when it is used up (`Walk.visit_eq_of_fits`). -/

namespace SwaggerCmdlets

variable {src : Source} {explicit : Option String} {visit visit' : Url → Session → Outcome}
  {u : Url} {s : Session} {P P' : Session → Prop} {Q : Failure → Session → Prop}
  {endpointPrefix : String} {es : List Entry}

/-! ## What failures are over -/

/-- A document is not located because it is not named, or not by an address. -/
theorem Locate.root_error {cwd : Option String} {document : String} {f : Failure}
    (h : Locate.root cwd document = .error f) :
    f = .noUri ∨ ∃ uri fault, f = .invalidUri uri fault := by
  rw [Locate.root] at h
  by_cases hd : Text.trim document = ""
  · rw [if_pos hd] at h
    exact Or.inl (Except.error.inj h).symm
  · rw [if_neg hd] at h
    split at h
    · exact nomatch h
    · split at h
      · exact nomatch h
      · exact Or.inr ⟨_, _, (Except.error.inj h).symm⟩
    · exact Or.inr ⟨_, _, (Except.error.inj h).symm⟩

/-- A text fails to parse because it is no description. -/
theorem Description.parse_error {uri text : String} {f : Failure}
    (h : Description.parse uri text = .error f) : ∃ reason, f = .malformed uri reason := by
  rw [Description.parse] at h
  cases hj : Description.ofJson text with
  | ok d =>
      rw [hj] at h
      exact nomatch h
  | error stop =>
      rw [hj] at h
      cases hy : Description.ofYaml? text with
      | some d => simp [hy] at h
      | none =>
          simp only [hy] at h
          exact ⟨_, (Except.error.inj h).symm⟩

/-- A description of another version is refused over the version. -/
theorem Description.requireVersion_error {d : Description} {uri : String} {f : Failure}
    (h : d.requireVersion uri = .error f) : ∃ found, f = .version uri found := by
  rw [Description.requireVersion] at h
  by_cases hv : d.versionText = some Description.knownVersion
  · rw [if_pos hv] at h
    exact nomatch h
  · rw [if_neg hv] at h
    exact ⟨_, (Except.error.inj h).symm⟩

/-- A document fails to load because it is not fetched, because its text is no
    description, or because it has another version. -/
theorem Source.load_error {f : Failure} (h : src.load u = .error f) :
    (∃ failure, f = .retrieval u.text failure) ∨ (∃ reason, f = .malformed u.text reason)
      ∨ ∃ found, f = .version u.text found := by
  rw [Source.load] at h
  cases hf : src.fetch u with
  | error failure =>
      rw [hf] at h
      exact Or.inl ⟨failure, (Except.error.inj h).symm⟩
  | ok text =>
      rw [hf] at h
      dsimp only at h
      cases hp : Description.parse u.text text with
      | error failure =>
          rw [hp] at h
          obtain rfl := Except.error.inj h
          exact Or.inr (Or.inl (Description.parse_error hp))
      | ok d =>
          rw [hp] at h
          dsimp only at h
          cases hv : d.requireVersion u.text with
          | error failure =>
              rw [hv] at h
              obtain rfl := Except.error.inj h
              exact Or.inr (Or.inr (Description.requireVersion_error hv))
          | ok _ =>
              rw [hv] at h
              cases h

/-- The entries of a description fail over a path or a method that is missing. -/
theorem Description.entries_error {d : Description} {uri : String} {f : Failure}
    (h : d.entries uri = .error f) :
    (∃ reason, f = .malformed uri reason) ∨ ∃ path, f = .method "<missing>" path := by
  obtain ⟨fault, -, rfl⟩ := entries_eq_error_iff.mp h
  cases fault with
  | noPath => exact Or.inl ⟨_, rfl⟩
  | noMethod path => exact Or.inr ⟨path, rfl⟩

namespace Outcome

/-- A success leaves a session with `P`, and a failure one with `Q`. -/
def Meets (o : Outcome) (P : Session → Prop) (Q : Failure → Session → Prop) : Prop :=
  match o.failure with
  | none => P o.session
  | some f => Q f o.session

/-- What goes on from a success may rely on what the success left. -/
theorem Meets.andThen {o : Outcome} {next : Session → Outcome} (h : o.Meets P Q)
    (hnext : ∀ s, P s → (next s).Meets P' Q) : (o.andThen next).Meets P' Q := by
  obtain ⟨s, failure⟩ := o
  cases failure with
  | none => exact hnext s h
  | some f => exact h

theorem Meets.mapSession {o : Outcome} {f : Session → Session}
    (h : o.Meets (fun s => P (f s)) (fun failure s => Q failure (f s))) :
    (o.mapSession f).Meets P Q := by
  obtain ⟨s, failure⟩ := o
  cases failure with
  | none => exact h
  | some failure => exact h

theorem Meets.mono {o : Outcome} {Q' : Failure → Session → Prop} (h : o.Meets P Q)
    (hP : ∀ s, P s → P' s) (hQ : ∀ f s, Q f s → Q' f s) : o.Meets P' Q' := by
  obtain ⟨s, failure⟩ := o
  cases failure with
  | none => exact hP s h
  | some f => exact hQ f s h

/-- The walk did not end for want of room. -/
def Fits (o : Outcome) : Prop := ∀ t, o.failure ≠ some (.nesting t)

theorem Fits.of_andThen {o : Outcome} {next : Session → Outcome} (h : (o.andThen next).Fits) :
    o.Fits := by
  obtain ⟨s, failure⟩ := o
  cases failure with
  | none => exact fun t ht => nomatch ht
  | some f => exact h

end Outcome

namespace Walk

/-! ## Endpoints and entries -/

/-- However an endpoint ends, it changes descriptors and notices only, and it
    fails over a method. -/
theorem addEndpoint_meets (endpointPrefix path : String) (ops : List Operation) (s : Session)
    (hP : ∀ descriptors notices,
      P { s with descriptors := descriptors, notices := notices })
    (hQ : ∀ method endpoint descriptors notices,
      Q (.method method endpoint) { s with descriptors := descriptors, notices := notices }) :
    (addEndpoint endpointPrefix path ops s).Meets P Q := by
  have hops : ∀ shape endpoint descriptors notices,
      (addOperations shape endpoint ops
        { s with descriptors := descriptors, notices := notices }).Meets P Q := by
    intro shape endpoint
    induction ops with
    | nil => exact hP
    | cons op ops ih =>
        intro descriptors notices
        rw [addOperations]
        cases Descriptor.ofOperation? shape endpoint op with
        | none => exact hQ op.method endpoint descriptors notices
        | some d => exact ih _ _
  rw [addEndpoint]
  cases PathTemplate.shape? path with
  | none => exact hP s.descriptors _
  | some shape => exact hops shape _ s.descriptors s.notices

/-- Entries keep what each of them keeps. -/
theorem entries_meets
    (href : ∀ path, Entry.reference path ∈ es → ∀ s, P s → (descend visit u path s).Meets P Q)
    (hadd : ∀ path ops, Entry.endpoint path ops ∈ es → ∀ s, P s →
      (addEndpoint endpointPrefix path ops s).Meets P Q) :
    ∀ s, P s → (entries visit u endpointPrefix es s).Meets P Q := by
  induction es with
  | nil => exact fun s hs => hs
  | cons e es ih =>
      intro s hs
      have ih := ih (fun path hp => href path (List.mem_cons_of_mem _ hp))
        (fun path ops he => hadd path ops (List.mem_cons_of_mem _ he))
      cases e with
      | reference path => exact (href path List.mem_cons_self s hs).andThen ih
      | endpoint path ops => exact (hadd path ops List.mem_cons_self s hs).andThen ih

/-! ## Documents -/

/-- A fresh document fails to load, or it has no entries, or they are walked. -/
theorem fresh_meets
    (hload : ∀ f, src.load u = .error f → Q f (asking explicit u s))
    (hentries : ∀ d f, src.load u = .ok d → d.entries u.text = .error f →
      Q f (opening explicit u d s))
    (hwalk : ∀ d es, src.Reads u d es →
      (entries visit u d.endpointPrefix es (opening explicit u d s)).Meets
        (fun s => P (s.complete u.text)) Q) :
    (fresh src visit explicit u s).Meets P Q := by
  rw [fresh]
  cases hl : src.load u with
  | error f => exact hload f hl
  | ok d =>
      show (description visit u d (asking explicit u s)).Meets P Q
      rw [description]
      cases he : d.entries u.text with
      | error f => exact hentries d f hl he
      | ok es => exact (hwalk d es ⟨hl, he⟩).andThen fun s₁ h => h

/-- A visit ends at once for want of room, at an active document and at a
    completed one, and otherwise the document is fresh. -/
theorem visit_meets {room : Nat}
    (hroom : room = 0 → Q (.nesting u.text) s)
    (hactive : u.text ∈ s.active → Q (.cyclic u.text) s)
    (hcompleted : u.text ∈ s.completed → P (s.note (.alreadyResolved u.text)))
    (hfresh : ∀ below, room = below + 1 → u.text ∉ s.active → u.text ∉ s.completed →
      (fresh src (Walk.visit src explicit below) explicit u s).Meets P Q) :
    (Walk.visit src explicit room u s).Meets P Q := by
  cases room with
  | zero => exact hroom rfl
  | succ below =>
      rw [Walk.visit]
      by_cases ha : u.text ∈ s.active
      · rw [if_pos ha]
        exact hactive ha
      · rw [if_neg ha]
        by_cases hc : u.text ∈ s.completed
        · rw [if_pos hc]
          exact hcompleted hc
        · rw [if_neg hc]
          exact hfresh below rfl ha hc

/-! ## Room -/

/-- Entries are walked in the same way by visits that agree where there is
    room. -/
theorem entries_eq_of_fits (hvisit : ∀ v s, (visit v s).Fits → visit' v s = visit v s) :
    ∀ s, (entries visit u endpointPrefix es s).Fits →
      entries visit' u endpointPrefix es s = entries visit u endpointPrefix es s := by
  induction es with
  | nil => exact fun s _ => rfl
  | cons e es ih =>
      intro s h
      -- the head ends in the same way, and the rest is walked only if it succeeds
      have hrest : ∀ o : Outcome, (o.andThen (entries visit u endpointPrefix es)).Fits →
          o.andThen (entries visit' u endpointPrefix es)
            = o.andThen (entries visit u endpointPrefix es) := by
        rintro ⟨s', failure⟩ ho
        cases failure with
        | none => exact ih s' ho
        | some f => rfl
      cases e with
      | reference path =>
          have hdescend : descend visit' u path s = descend visit u path s := by
            rw [descend, hvisit _ _ h.of_andThen, descend]
          show (descend visit' u path s).andThen _ = (descend visit u path s).andThen _
          rw [hdescend]
          exact hrest _ h
      | endpoint path ops => exact hrest _ h

/-- A fresh document is walked in the same way by visits that agree where there
    is room. -/
theorem fresh_eq_of_fits (hvisit : ∀ v s, (visit v s).Fits → visit' v s = visit v s)
    (h : (fresh src visit explicit u s).Fits) :
    fresh src visit' explicit u s = fresh src visit explicit u s := by
  rw [fresh] at h ⊢
  rw [fresh]
  cases hl : src.load u with
  | error f => rfl
  | ok d =>
      rw [hl] at h
      change (description visit u d _).Fits at h
      show description visit' u d _ = description visit u d _
      rw [description] at h ⊢
      rw [description]
      cases he : d.entries u.text with
      | error f => rfl
      | ok es =>
          rw [he] at h
          have hes := entries_eq_of_fits hvisit _ h.of_andThen
          exact congrArg (Outcome.andThen · _) hes

/-- A visit that does not want for room is the same with more room. -/
theorem visit_eq_of_fits {room : Nat} :
    ∀ {u : Url} {s : Session}, (Walk.visit src explicit room u s).Fits →
      ∀ more, Walk.visit src explicit (room + more) u s = Walk.visit src explicit room u s := by
  induction room with
  | zero => exact fun {u s} h => absurd rfl (h u.text)
  | succ below ih =>
      intro u s h more
      rw [Walk.visit] at h
      rw [Nat.succ_add, Walk.visit, Walk.visit]
      by_cases ha : u.text ∈ s.active
      · rw [if_pos ha, if_pos ha]
      · rw [if_neg ha] at h
        rw [if_neg ha, if_neg ha]
        by_cases hc : u.text ∈ s.completed
        · rw [if_pos hc, if_pos hc]
        · rw [if_neg hc] at h
          rw [if_neg hc, if_neg hc]
          exact fresh_eq_of_fits (fun v s' hv => ih hv more) h

end Walk

/-! ## Runs -/

/-- A run whose document is located ends as the visit of it ends. -/
theorem gather_of_root {g : Setup} {document : String} {root : Url}
    (h : Locate.root g.cwd document = .ok root) :
    let o := Walk.visit g.source g.config.apiBase g.source.nesting root .empty
    (g.gather document).session.requests = o.session.requests
      ∧ ∀ f, (g.gather document).result = .error f ↔ o.failure = some f := by
  intro o
  rw [Setup.gather, h]
  dsimp only
  cases hf : o.failure with
  | none => exact ⟨rfl, fun f => by simp⟩
  | some failure => exact ⟨rfl, fun f => by rw [Except.error.injEq, Option.some_inj]⟩

end SwaggerCmdlets
