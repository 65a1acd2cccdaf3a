import Mathlib.Logic.Relation
import SwaggerCmdlets.Generate.Module

/-! # The reference graph — documents and what they refer to

    A document refers to the documents that its reference entries lead to.  The
    walk tells documents apart by the text of their address, while references
    lead from address to address.

    Both views agree below the first document: an address that references lead
    to differs from the first one in its path only and has neither query nor
    fragment (`IsBelow`), so that its text says all about it
    (`IsBelow.eq_of_text`). -/

namespace SwaggerCmdlets

open Relation

variable {src : Source} {u v root : Url}

/-- The document at `u` is the description `d` with the entries `es`. -/
def Source.Reads (src : Source) (u : Url) (d : Description) (es : List Entry) : Prop :=
  src.load u = .ok d ∧ d.entries u.text = .ok es

/-- Every operation of the endpoint has a supported method, unless the path has
    no subject. -/
def Supported (path : String) (ops : List Operation) : Prop :=
  (PathTemplate.shape? path).isSome = true →
    ∀ op ∈ ops, (Action.ofMethod? op.method).isSome = true

/-- A document that is in order by itself: it is fetched, its text is a
    description of the supported version, its entries are well formed, and its
    operations are supported. -/
def Source.InOrder (src : Source) (u : Url) : Prop :=
  ∃ text d es, src.fetch u = .ok text ∧ Description.parse u.text text = .ok d
    ∧ d.requireVersion u.text = .ok () ∧ d.entries u.text = .ok es
    ∧ ∀ path ops, Entry.endpoint path ops ∈ es → Supported path ops

/-- The document at `u` has a reference entry that leads to `v`. -/
def Refers (src : Source) (u v : Url) : Prop :=
  ∃ d es path, src.Reads u d es ∧ Entry.reference path ∈ es ∧ v = Locate.child u path

/-- References lead from `u` to `v`, or `v` is `u` itself. -/
abbrev Reaches (src : Source) : Url → Url → Prop := ReflTransGen (Refers src)

/-- At least one reference leads from `u` on the way to `v`. -/
abbrev ReachesBelow (src : Source) : Url → Url → Prop := TransGen (Refers src)

/-! ## Reading a document -/

/-- A document is loaded when it is fetched, is a description and has the
    supported version. -/
theorem Source.load_eq_ok_iff {d : Description} :
    src.load u = .ok d ↔
      ∃ text, src.fetch u = .ok text ∧ Description.parse u.text text = .ok d
        ∧ d.requireVersion u.text = .ok () := by
  rw [Source.load]
  cases hf : src.fetch u with
  | error failure => simp
  | ok text =>
      cases hp : Description.parse u.text text with
      | error failure => simp [hp]
      | ok d' =>
          cases hv : d'.requireVersion u.text with
          | error failure =>
              simp only [hv, Except.map, hp, Except.ok.injEq, exists_eq_left', false_iff,
                not_and, reduceCtorEq]
              rintro rfl
              simp [hv]
          | ok _ =>
              simp only [hv, Except.map, hp, Except.ok.injEq, exists_eq_left']
              constructor
              · rintro rfl
                exact ⟨rfl, hv⟩
              · exact fun h => h.1

/-- A document reads in one way only. -/
theorem Source.Reads.unique {d d' : Description} {es es' : List Entry}
    (h : src.Reads u d es) (h' : src.Reads u d' es') : d = d' ∧ es = es' := by
  have hd : d = d' := Except.ok.inj (h.1.symm.trans h'.1)
  subst hd
  exact ⟨rfl, Except.ok.inj (h.2.symm.trans h'.2)⟩

/-- A document that is in order reads, and its operations are supported. -/
theorem Source.inOrder_iff :
    src.InOrder u ↔
      ∃ d es, src.Reads u d es ∧ ∀ path ops, Entry.endpoint path ops ∈ es → Supported path ops := by
  constructor
  · rintro ⟨text, d, es, hf, hp, hv, he, hs⟩
    exact ⟨d, es, ⟨Source.load_eq_ok_iff.mpr ⟨text, hf, hp, hv⟩, he⟩, hs⟩
  · rintro ⟨d, es, ⟨hl, he⟩, hs⟩
    obtain ⟨text, hf, hp, hv⟩ := Source.load_eq_ok_iff.mp hl
    exact ⟨text, d, es, hf, hp, hv, he, hs⟩

/-- A reference entry of a document that reads is a reference. -/
theorem Source.Reads.refers {d : Description} {es : List Entry} {path : String}
    (h : src.Reads u d es) (hp : Entry.reference path ∈ es) :
    Refers src u (Locate.child u path) :=
  ⟨d, es, path, h, hp, rfl⟩

/-! ## Addresses below the first one -/

/-- `u` is `root` with another path, and without query and fragment. -/
def IsBelow (root u : Url) : Prop :=
  u = { root with path := u.path, query := none, fragment := none }

/-- Setting the path changes nothing else. -/
theorem withPath_eq (u : Url) (path : String) :
    u.withPath path = { u with path := (u.withPath path).path } := by
  rw [Url.withPath]
  by_cases ho : u.isOpaque = true
  · rw [if_pos ho]
  · rw [if_neg ho]

/-- A reference leads to an address below. -/
theorem child_isBelow (root : Url) (reference : String) :
    IsBelow root (Locate.child root reference) := by
  show Locate.child root reference = _
  rw [Locate.child, withPath_eq]

/-- Going further down stays below. -/
theorem IsBelow.child (h : IsBelow root u) (reference : String) :
    IsBelow root (Locate.child u reference) := by
  have hc : Locate.child u reference
      = { u with path := (Locate.child u reference).path, query := none, fragment := none } :=
    child_isBelow u reference
  have hu : u = { root with path := u.path, query := none, fragment := none } := h
  show Locate.child u reference = _
  rw [hc, hu]

/-- Below the first document the text of an address determines it. -/
theorem IsBelow.eq_of_text (hu : IsBelow root u) (hv : IsBelow root v)
    (h : u.text = v.text) : u = v := by
  -- without query and fragment, the text ends with the path
  have ht : ∀ {w : Url}, IsBelow root w → w.text = root.origin ++ w.path := by
    intro w hw
    rw [show w = { root with path := w.path, query := none, fragment := none } from hw]
    simp [Url.text, Url.origin]
  rw [ht hu, ht hv] at h
  have hpath : u.path = v.path := (String.append_right_inj _).mp h
  rw [show u = { root with path := u.path, query := none, fragment := none } from hu,
    show v = { root with path := v.path, query := none, fragment := none } from hv, hpath]

end SwaggerCmdlets
