import SwaggerCmdlets.Proofs.Walk.Graph

/-! # The parts of the walk — what success means for each

    One lemma for each function of the walk says all that a successful run of it
    can have done.  An endpoint has added descriptors and nothing else
    (`addEndpoint_ok`); a document was either completed before, or was opened,
    had its entries walked and was completed (`visit_ok`).

    Asking for a document (`Walk.asking`) is everything up to its request, and
    opening it (`Walk.opening`) everything up to its first entry. -/

namespace SwaggerCmdlets

variable {src : Source} {explicit : Option String} {visit : Url → Session → Outcome}
  {u : Url} {s s' : Session}

namespace Outcome

/-- A sequence succeeds when both of its parts do. -/
theorem andThen_eq_ok_iff {o : Outcome} {next : Session → Outcome} :
    o.andThen next = ⟨s', none⟩ ↔ ∃ s, o = ⟨s, none⟩ ∧ next s = ⟨s', none⟩ := by
  obtain ⟨s₀, failure⟩ := o
  cases failure with
  | none => simp [andThen]
  | some f => simp [andThen]

/-- Changing the session keeps success. -/
theorem mapSession_eq_ok_iff {o : Outcome} {f : Session → Session} :
    o.mapSession f = ⟨s', none⟩ ↔ ∃ s, o = ⟨s, none⟩ ∧ f s = s' := by
  obtain ⟨s₀, failure⟩ := o
  cases failure with
  | none => simp [mapSession]
  | some f => simp [mapSession]

end Outcome

/-- The descriptors of an endpoint: one for each operation with a supported
    method, if the path has a subject. -/
def endpointDescriptors (endpointPrefix path : String) (ops : List Operation) :
    List Descriptor :=
  match PathTemplate.shape? path with
  | none => []
  | some shape => ops.filterMap (Descriptor.ofOperation? shape (endpointPrefix ++ path))

/-- An operation has a descriptor when its method is supported. -/
theorem ofOperation?_isSome (shape : PathShape) (endpoint : String) (op : Operation) :
    (Descriptor.ofOperation? shape endpoint op).isSome = (Action.ofMethod? op.method).isSome := by
  simp [Descriptor.ofOperation?]

namespace Walk

/-! ## Endpoints -/

/-- Adding operations succeeds when all methods are supported, and then adds
    their descriptors in order. -/
theorem addOperations_ok {shape : PathShape} {endpoint : String} {ops : List Operation}
    (h : addOperations shape endpoint ops s = ⟨s', none⟩) :
    (∀ op ∈ ops, (Action.ofMethod? op.method).isSome = true)
      ∧ ∃ notices, s' = { s with
          descriptors := s.descriptors
            ++ ops.filterMap (Descriptor.ofOperation? shape endpoint)
          notices := notices } := by
  induction ops generalizing s with
  | nil =>
      obtain rfl : s = s' := congrArg Outcome.session h
      exact ⟨List.forall_mem_nil _, s.notices, by simp⟩
  | cons op ops ih =>
      rw [addOperations] at h
      cases hd : Descriptor.ofOperation? shape endpoint op with
      | none =>
          rw [hd] at h
          exact nomatch congrArg Outcome.failure h
      | some d =>
          rw [hd] at h
          obtain ⟨hall, notices, rfl⟩ := ih h
          have hop : (Action.ofMethod? op.method).isSome = true := by
            rw [← ofOperation?_isSome shape endpoint, hd]
            rfl
          refine ⟨List.forall_mem_cons.mpr ⟨hop, hall⟩, notices, ?_⟩
          simp [Session.addDescriptor, Session.note, hd]

/-- Adding operations with supported methods succeeds. -/
theorem addOperations_succeeds {shape : PathShape} {endpoint : String} {ops : List Operation}
    (h : ∀ op ∈ ops, (Action.ofMethod? op.method).isSome = true) (s : Session) :
    ∃ s', addOperations shape endpoint ops s = ⟨s', none⟩ := by
  induction ops generalizing s with
  | nil => exact ⟨s, rfl⟩
  | cons op ops ih =>
      obtain ⟨hop, hops⟩ := List.forall_mem_cons.mp h
      rw [← ofOperation?_isSome shape endpoint] at hop
      obtain ⟨d, hd⟩ := Option.isSome_iff_exists.mp hop
      rw [addOperations, hd]
      exact ih hops _

/-- Adding an endpoint succeeds only if it is supported, and adds its
    descriptors and nothing else. -/
theorem addEndpoint_ok {endpointPrefix path : String} {ops : List Operation}
    (h : addEndpoint endpointPrefix path ops s = ⟨s', none⟩) :
    Supported path ops ∧ ∃ notices, s' = { s with
      descriptors := s.descriptors ++ endpointDescriptors endpointPrefix path ops
      notices := notices } := by
  rw [addEndpoint] at h
  rw [Supported, endpointDescriptors]
  cases hp : PathTemplate.shape? path with
  | none =>
      rw [hp] at h
      obtain rfl : s.note (.noSubject path) = s' := congrArg Outcome.session h
      exact ⟨nofun, s.notices ++ [.noSubject path], by simp [Session.note]⟩
  | some shape =>
      rw [hp] at h
      obtain ⟨hall, hs⟩ := addOperations_ok h
      exact ⟨fun _ => hall, hs⟩

/-- Adding a supported endpoint succeeds. -/
theorem addEndpoint_succeeds {path : String} {ops : List Operation}
    (h : Supported path ops) (endpointPrefix : String) (s : Session) :
    ∃ s', addEndpoint endpointPrefix path ops s = ⟨s', none⟩ := by
  rw [addEndpoint]
  rw [Supported] at h
  cases hp : PathTemplate.shape? path with
  | none => exact ⟨s.note (.noSubject path), rfl⟩
  | some shape =>
      rw [hp] at h
      exact addOperations_succeeds (h rfl) s

/-! ## Entries -/

/-- The session in which a document is asked for. -/
def asking (explicit : Option String) (u : Url) (s : Session) : Session :=
  (s.chooseBase explicit u).request u

/-- The session in which the entries of a document are walked. -/
def opening (explicit : Option String) (u : Url) (d : Description) (s : Session) : Session :=
  (((s.chooseBase explicit u).request u).register d.models).start u.text

/-- What asking for a document changes. -/
theorem asking_eq (explicit : Option String) (u : Url) (s : Session) :
    ∃ notices, asking explicit u s = { s with
      base := some (s.base.getD (explicit.getD u.origin))
      requests := s.requests ++ [⟨u.text, s.depth, s.active, s.completed⟩]
      notices := notices } := by
  -- the base is chosen in one of three ways, and only the last of them may report
  have hbase : ∃ notices, s.chooseBase explicit u = { s with
      base := some (s.base.getD (explicit.getD u.origin)), notices := notices } := by
    unfold Session.chooseBase
    cases hb : s.base with
    | some b =>
        refine ⟨s.notices, ?_⟩
        show s = { s with base := some b, notices := s.notices }
        rw [← hb]
    | none =>
        cases explicit with
        | some b => exact ⟨s.notices, rfl⟩
        | none =>
            by_cases hw : u.isWeb = true
            · exact ⟨s.notices, by simp [hw]⟩
            · exact ⟨s.notices ++ [.localBase u.origin], by simp [hw, Session.note]⟩
  obtain ⟨notices, hn⟩ := hbase
  rw [asking, hn]
  exact ⟨_, rfl⟩

/-- What the opening of a document changes. -/
theorem opening_eq (explicit : Option String) (u : Url) (d : Description) (s : Session) :
    ∃ notices, opening explicit u d s = { s with
      registry := s.registry.registerSection d.models
      active := u.text :: s.active
      base := some (s.base.getD (explicit.getD u.origin))
      requests := s.requests ++ [⟨u.text, s.depth, s.active, s.completed⟩]
      notices := notices } := by
  obtain ⟨notices, hn⟩ := asking_eq explicit u s
  have hopen : opening explicit u d s
      = ((asking explicit u s).register d.models).start u.text := rfl
  rw [hopen, hn]
  exact ⟨_, rfl⟩

/-- A reference is walked one level further down. -/
theorem descend_ok {path : String} (h : descend visit u path s = ⟨s', none⟩) :
    ∃ s₁, visit (Locate.child u path) { s with depth := s.depth + 1 } = ⟨s₁, none⟩
      ∧ s' = { s₁ with depth := s₁.depth - 1 } := by
  obtain ⟨s₁, hv, hs⟩ := Outcome.mapSession_eq_ok_iff.mp h
  exact ⟨s₁, hv, hs.symm⟩

/-! ## Documents -/

/-- A description is walked by walking its entries. -/
theorem description_ok {d : Description} {s₀ : Session}
    (hs : s₀ = (s.register d.models).start u.text)
    (h : description visit u d s = ⟨s', none⟩) :
    ∃ es s₁, d.entries u.text = .ok es
      ∧ entries visit u d.endpointPrefix es s₀ = ⟨s₁, none⟩ ∧ s' = s₁.complete u.text := by
  subst hs
  rw [description] at h
  cases he : d.entries u.text with
  | error failure =>
      rw [he] at h
      exact nomatch congrArg Outcome.failure h
  | ok es =>
      rw [he] at h
      obtain ⟨s₁, hes, hc⟩ := Outcome.andThen_eq_ok_iff.mp h
      exact ⟨es, s₁, rfl, hes, (congrArg Outcome.session hc).symm⟩

/-- A document that is neither active nor completed is read, opened, walked and
    completed. -/
theorem fresh_ok (h : fresh src visit explicit u s = ⟨s', none⟩) :
    ∃ d es s₁, src.Reads u d es
      ∧ entries visit u d.endpointPrefix es (opening explicit u d s) = ⟨s₁, none⟩
      ∧ s' = s₁.complete u.text := by
  rw [fresh] at h
  cases hl : src.load u with
  | error failure =>
      rw [hl] at h
      exact nomatch congrArg Outcome.failure h
  | ok d =>
      rw [hl] at h
      obtain ⟨es, s₁, he, hes, hs⟩ := description_ok rfl h
      exact ⟨d, es, s₁, ⟨hl, he⟩, hes, hs⟩

/-- A document that reads and whose entries can be walked is walked. -/
theorem fresh_succeeds {d : Description} {es : List Entry} {s₁ : Session}
    (hd : src.Reads u d es)
    (h : entries visit u d.endpointPrefix es (opening explicit u d s) = ⟨s₁, none⟩) :
    fresh src visit explicit u s = ⟨s₁.complete u.text, none⟩ := by
  rw [fresh, hd.1]
  show description visit u d _ = _
  rw [description, hd.2]
  exact Outcome.andThen_eq_ok_iff.mpr ⟨s₁, h, rfl⟩

/-- A visit succeeds at a completed document without doing anything, and at one
    that is neither active nor completed by walking it. -/
theorem visit_ok {room : Nat} (h : Walk.visit src explicit room u s = ⟨s', none⟩) :
    ∃ below, room = below + 1 ∧ u.text ∉ s.active
      ∧ ((u.text ∈ s.completed ∧ s' = s.note (.alreadyResolved u.text))
        ∨ (u.text ∉ s.completed
          ∧ fresh src (Walk.visit src explicit below) explicit u s = ⟨s', none⟩)) := by
  cases room with
  | zero => exact nomatch congrArg Outcome.failure h
  | succ below =>
      rw [Walk.visit] at h
      by_cases ha : u.text ∈ s.active
      · rw [if_pos ha] at h
        exact nomatch congrArg Outcome.failure h
      · rw [if_neg ha] at h
        by_cases hc : u.text ∈ s.completed
        · rw [if_pos hc] at h
          exact ⟨below, rfl, ha, Or.inl ⟨hc, (congrArg Outcome.session h).symm⟩⟩
        · rw [if_neg hc] at h
          exact ⟨below, rfl, ha, Or.inr ⟨hc, h⟩⟩

end Walk

/-! ## Runs -/

/-- A result of which something is known to be there is a success. -/
theorem exists_ok_of_map_toOption {ε α β : Type} {r : Except ε α} {f : α → β} {b : β}
    (h : r.toOption.map f = some b) : ∃ a, r = .ok a ∧ f a = b := by
  cases r with
  | error e => exact nomatch h
  | ok a => exact ⟨a, rfl, Option.some.inj h⟩

/-- A run succeeds when its document is located and the visit of it succeeds. -/
theorem gather_eq_ok_iff {g : Setup} {document : String} :
    (g.gather document).result = .ok s ↔
      ∃ root s', Locate.root g.cwd document = .ok root
        ∧ Walk.visit g.source g.config.apiBase g.source.nesting root .empty = ⟨s', none⟩
        ∧ s = s'.note (.resolved s'.descriptors.length s'.registry.declarations.length) := by
  rw [Setup.gather]
  cases hr : Locate.root g.cwd document with
  | error failure => simp
  | ok root =>
      cases hv : Walk.visit g.source g.config.apiBase g.source.nesting root .empty with
      | mk s' failure =>
          cases failure with
          | some f => simp [hv]
          | none => simp [hv, eq_comm]

/-- A run composes the script of the session that it gathers. -/
theorem compose_result (g : Setup) (document : String) :
    (g.compose document).result
      = (g.gather document).result.map (Session.script · g.config) := by
  rw [Setup.compose]
  cases (g.gather document).result with
  | error failure => rfl
  | ok s => rfl

/-- The writer is given the composed text, if there is one. -/
theorem writeModule_handed (g : Setup) (document path : String) (write : Setup.Writer) :
    (g.writeModule document path write).handed
      = (g.compose document).result.toOption.toList.map (path, ·) := by
  rw [Setup.writeModule]
  cases (g.compose document).result with
  | error failure => rfl
  | ok text =>
      cases hw : write path text with
      | none => simp [hw, Except.toOption]
      | some reason => simp [hw, Except.toOption]

end SwaggerCmdlets
