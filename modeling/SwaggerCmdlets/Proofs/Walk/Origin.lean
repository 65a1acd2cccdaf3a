import SwaggerCmdlets.Proofs.Url.PathText
import SwaggerCmdlets.Proofs.Walk.Outcomes

/-! # The origin — where a run can ask for documents

    Whatever references look like, they lead to addresses that differ from the
    first one in the path only, and that path neither ends in a query or a
    fragment nor reaches back into the authority (`Reaches.stays`).

    However a run ends, every document that it asked for is one that references
    lead to (`Session.AsksReached`): the first document is, and a visit asks for
    its document only and follows the references in it. -/

namespace SwaggerCmdlets

variable {src : Source} {root u v : Url} {explicit : Option String} {s : Session}

/-- Every document that was asked for is one that references lead to. -/
def Session.AsksReached (src : Source) (root : Url) (s : Session) : Prop :=
  ∀ r ∈ s.requests, ∃ v, Reaches src root v ∧ r.uri = v.text

/-! ## Requests -/

namespace Session.AsksReached

theorem empty : Session.empty.AsksReached src root := List.forall_mem_nil _

/-- Asking for a document that references lead to. -/
theorem asking (h : s.AsksReached src root) (hu : Reaches src root u) :
    (Walk.asking explicit u s).AsksReached src root := by
  obtain ⟨_, heq⟩ := Walk.asking_eq explicit u s
  rw [heq]
  intro r hr
  rcases List.mem_append.mp hr with hr | hr
  · exact h r hr
  · obtain rfl := List.mem_singleton.mp hr
    exact ⟨u, hu, rfl⟩

end Session.AsksReached

/-- A visit of a document that references lead to asks for such documents only,
    however it ends. -/
theorem visit_asksReached (src : Source) (root : Url) (explicit : Option String) (room : Nat) :
    ∀ u s, Reaches src root u → s.AsksReached src root →
      (Walk.visit src explicit room u s).Meets (Session.AsksReached src root)
        (fun _ => Session.AsksReached src root) := by
  induction room with
  | zero => exact fun u s _ hs => hs
  | succ below ih =>
      intro u s hu hs
      have hask : (Walk.asking explicit u s).AsksReached src root := hs.asking hu
      refine Walk.visit_meets (fun _ => hs) (fun _ => hs) (fun _ => hs) ?_
      intro _ heq _ _
      obtain rfl := Nat.succ.inj heq
      -- opening a document changes none of the requests
      refine Walk.fresh_meets (fun _ _ => hask) (fun _ _ _ _ => hask) ?_
      intro d es hd
      refine Walk.entries_meets ?_ ?_ (Walk.opening explicit u d s) hask
      · intro path hpath s' hs'
        exact (ih _ { s' with depth := s'.depth + 1 } (hu.tail (hd.refers hpath)) hs').mapSession
      · intro path ops _ s' hs'
        exact Walk.addEndpoint_meets _ path ops s' (fun _ _ => hs') fun _ _ _ _ => hs'

/-! ## Addresses -/

/-- What is below an address has its scheme and its authority. -/
theorem IsBelow.parts (h : IsBelow root u) :
    u.scheme = root.scheme ∧ u.authority = root.authority := by
  rw [show u = { root with path := u.path, query := none, fragment := none } from h]
  exact ⟨rfl, rfl⟩

/-- A reference in the first document or below it leads below it, to the text of a
    path. -/
theorem Refers.stays (hkind : (Url.SchemeKind.of root.scheme).isSpecial = true)
    (hauthority : root.authority.isSome = true) (hu : u = root ∨ IsBelow root u)
    (h : Refers src u v) : IsBelow root v ∧ Url.IsPathText v.path.toList := by
  obtain ⟨_, _, path, -, -, rfl⟩ := h
  rcases hu with rfl | hbelow
  · exact ⟨child_isBelow u path, Url.withPath_isPathText hkind hauthority _⟩
  · rw [← hbelow.parts.1] at hkind
    rw [← hbelow.parts.2] at hauthority
    exact ⟨hbelow.child path, Url.withPath_isPathText hkind hauthority _⟩

/-- References lead to the first document or below it, and below it to the text of a
    path. -/
theorem Reaches.stays (hkind : (Url.SchemeKind.of root.scheme).isSpecial = true)
    (hauthority : root.authority.isSome = true) (h : Reaches src root v) :
    v = root ∨ IsBelow root v ∧ Url.IsPathText v.path.toList := by
  induction h with
  | refl => exact Or.inl rfl
  | tail _ hrefers ih => exact Or.inr (hrefers.stays hkind hauthority (ih.imp_right And.left))

/-- No description leads a run off the origin of its first document: if that has
    one of the schemes that documents are read from, everything that is asked for
    has the scheme, the authority and the text before the path of the first
    document.  All but the first document have neither query nor fragment, in
    their parts as well as in the text of their path, and that path starts with a
    slash. -/
theorem gather_stays_at_origin (g : Setup) (document : String) (root : Url)
    (hroot : Locate.root g.cwd document = .ok root)
    (hscheme : root.scheme ∈ ["http", "https", "file"]) :
    ∀ r ∈ (g.gather document).session.requests,
      ∃ v : Url, r.uri = v.text
        ∧ v.scheme = root.scheme ∧ v.authority = root.authority ∧ v.origin = root.origin
        ∧ (v = root
          ∨ v.query = none ∧ v.fragment = none ∧ Url.IsPathText v.path.toList) := by
  have hkind : (Url.SchemeKind.of root.scheme).isSpecial = true := by
    have hall : ∀ scheme ∈ ["http", "https", "file"],
        (Url.SchemeKind.of scheme).isSpecial = true := by
      decide
    exact hall root.scheme hscheme
  have hauthority := Locate.root_authority hroot hkind
  have hvisit := visit_asksReached g.source root g.config.apiBase g.source.nesting root .empty
    Relation.ReflTransGen.refl Session.AsksReached.empty
  rw [(gather_of_root hroot).1]
  intro r hr
  have hreached : ∃ v, Reaches g.source root v ∧ r.uri = v.text := by
    unfold Outcome.Meets at hvisit
    split at hvisit
    · exact hvisit r hr
    · exact hvisit r hr
  obtain ⟨v, hv, huri⟩ := hreached
  refine ⟨v, huri, ?_⟩
  rcases hv.stays hkind hauthority with rfl | ⟨hbelow, hpath⟩
  · exact ⟨rfl, rfl, rfl, Or.inl rfl⟩
  · rw [show v = { root with path := v.path, query := none, fragment := none } from hbelow]
    exact ⟨rfl, rfl, rfl, Or.inr ⟨rfl, rfl, hpath⟩⟩

/-- Two documents that refer to what looks like other hosts, queries and fragments. -/
def strayListing : Source.Listing :=
  [("http://u:p@h:8080/d?x=1", .ok ("\x7b\"swaggerVersion\":\"1.2\",\"apis\":["
      ++ "\x7b\"path\":\"//e/../?q#f\"\x7d]\x7d")),
    ("http://u:p@h:8080/d/%3Fq%23f", .ok ("\x7b\"swaggerVersion\":\"1.2\",\"apis\":["
      ++ "\x7b\"path\":\"http://e\\\\..\\\\..\\\\..\\\\../..//@e/?\"\x7d]\x7d"))]

/-- The run over the stray listing asks for three documents, all at the origin of the
    first one. -/
theorem gather_strayListing :
    let g : Setup := ⟨.ofPrefix "X", .ofListing strayListing, none⟩
    let requests := (g.gather "http://u:p@h:8080/d?x=1").session.requests
    requests.map (·.uri) = ["http://u:p@h:8080/d?x=1", "http://u:p@h:8080/d/%3Fq%23f",
        "http://u:p@h:8080//@e/%3F"]
      ∧ ∃ root, Locate.root g.cwd "http://u:p@h:8080/d?x=1" = .ok root
        ∧ root.scheme ∈ ["http", "https", "file"] ∧ root.origin = "http://u:p@h:8080"
        ∧ ∀ r ∈ requests, ∃ v : Url, r.uri = v.text
          ∧ v.scheme = root.scheme ∧ v.authority = root.authority ∧ v.origin = root.origin
          ∧ (v = root
            ∨ v.query = none ∧ v.fragment = none ∧ Url.IsPathText v.path.toList) := by
  intro g requests
  let root : Url :=
    ⟨"http", some ⟨"u", "p", some (.name "h"), some 8080⟩, false, "/d", some "x=1", none⟩
  have hroot : Locate.root none "http://u:p@h:8080/d?x=1" = .ok root := by decide +kernel
  have hscheme : root.scheme ∈ ["http", "https", "file"] := by decide
  exact ⟨by decide +kernel, root, hroot, hscheme, by decide +kernel,
    gather_stays_at_origin g _ root hroot hscheme⟩

end SwaggerCmdlets
