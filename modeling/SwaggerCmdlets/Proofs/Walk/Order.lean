import Mathlib.Logic.ExistsUnique
import SwaggerCmdlets.Proofs.Walk.Covering

/-! # Order — what a successful run has gathered

    The session of a successful run is the walk of its first document's outline:
    descriptors and declarations stand in the order of the walk, and each
    address was asked for once, where it was met first.  A document's models are
    declared before anything that its entries lead to, since its own step stands
    before its inside. -/

namespace SwaggerCmdlets

/-- The session holds what the walk of the outline of `root` contributes. -/
structure Session.IsWalkOf (s : Session) (src : Source) (explicit : Option String) (root : Url)
    (o : Outline) : Prop where
  outline : Outlines src root o
  descriptors : s.descriptors = (o.steps []).flatMap Outline.Step.descriptors
  registry : s.registry = (o.steps []).foldl Outline.Step.declare .empty
  requests : s.requests.map (·.uri) = (o.steps []).filterMap Outline.Step.uri?
  visits : s.requests.map (·.uri) = o.texts.eraseDups
  reached : ∀ t, t ∈ s.requests.map (·.uri) ↔ ∃ v, Reaches src root v ∧ v.text = t
  base : s.base = some (explicit.getD root.origin)
  depth : s.depth = 0

/-- The addresses of a document's outline are those that references lead to. -/
theorem Outlines.mem_texts_iff {src : Source} {u : Url} {o : Outline} (h : Outlines src u o)
    (t : String) : t ∈ o.texts ↔ ∃ v, Reaches src u v ∧ v.text = t := by
  rw [Outline.texts, List.mem_map]
  constructor
  · rintro ⟨v, hv, ht⟩
    exact ⟨v, h.mem_documents_iff.mp hv, ht⟩
  · rintro ⟨v, hv, ht⟩
    exact ⟨v, h.mem_documents_iff.mpr hv, ht⟩

/-- The session of a successful run is the walk of the one outline that its
    first document has. -/
theorem gather_isWalkOf (g : Setup) (document : String) (s : Session)
    (h : (g.gather document).result = .ok s) :
    ∃ root, Locate.root g.cwd document = .ok root
      ∧ ∃! o, s.IsWalkOf g.source g.config.apiBase root o := by
  obtain ⟨root, s', hroot, hvisit, rfl⟩ := gather_eq_ok_iff.mp h
  obtain ⟨o, ho, hcov, hbase⟩ := visit_root_covers hvisit
  have hvisits : s'.requests.map (·.uri) = o.texts.eraseDups := by
    rw [← firstVisits_nil]
    exact hcov.requests.trans hcov.visits
  refine ⟨root, hroot, o, ?_, fun o' ho' => ho'.outline.unique ho⟩
  exact {
    outline := ho
    descriptors := hcov.descriptors
    registry := hcov.registry
    requests := hcov.requests
    visits := hvisits
    reached := by
      intro t
      show t ∈ s'.requests.map (·.uri) ↔ _
      rw [hvisits, List.mem_eraseDups]
      exact ho.mem_texts_iff t
    base := hbase
    depth := hcov.depth }

/-- A first document that refers to another one twice, with an endpoint of its
    own in between. -/
def sharedListing : Source.Listing :=
  [("http://h/d", .ok ("\x7b\"swaggerVersion\":\"1.2\",\"apis\":[\x7b\"path\":\"w\"\x7d,"
      ++ "\x7b\"path\":\"/a\",\"operations\":[\x7b\"method\":\"GET\"\x7d]\x7d,"
      ++ "\x7b\"path\":\"/w\"\x7d]\x7d")),
    ("http://h/d/w", .ok ("\x7b\"swaggerVersion\":\"1.2\",\"basePath\":\"/v\",\"apis\":["
      ++ "\x7b\"path\":\"/b\",\"operations\":[\x7b\"method\":\"PUT\"\x7d]\x7d]\x7d"))]

/-- The run over the shared listing succeeds, and its session is a walk that asks
    for each document once. -/
theorem gather_sharedListing :
    let g : Setup := ⟨.ofPrefix "X", .ofListing sharedListing, none⟩
    ∃ s, (g.gather "http://h/d").result = .ok s
      ∧ s.descriptors.map (·.endpoint) = ["/v/b", "/a"]
      ∧ s.requests.map (·.uri) = ["http://h/d", "http://h/d/w"]
      ∧ ∃ root, Locate.root g.cwd "http://h/d" = .ok root
        ∧ ∃! o, s.IsWalkOf g.source g.config.apiBase root o := by
  intro g
  have hrun : (g.gather "http://h/d").result.toOption.map
      (fun s => (s.descriptors.map (·.endpoint), s.requests.map (·.uri)))
        = some (["/v/b", "/a"], ["http://h/d", "http://h/d/w"]) := by
    decide +kernel
  obtain ⟨s, hs, heq⟩ := Option.map_eq_some_iff.mp hrun
  have h : (g.gather "http://h/d").result = .ok s := by
    cases hr : (g.gather "http://h/d").result with
    | error failure =>
        rw [hr] at hs
        exact nomatch hs
    | ok s₀ =>
        rw [hr] at hs
        exact congrArg Except.ok (Option.some.inj hs)
  exact ⟨s, h, congrArg Prod.fst heq, congrArg Prod.snd heq, gather_isWalkOf g _ s h⟩

end SwaggerCmdlets
