import Mathlib.Data.List.TakeWhile
import SwaggerCmdlets.Generate.Locate

/-! # Path text — what a path that is set can hold

    An address of a special scheme has an authority, so that its path is a row of
    segments and starts with a slash.  A path that is set on it is read segment
    by segment, and at every moment what has been read starts with a slash and
    has no mark of a query or a fragment (`PathBuilder.Sound`): such marks are
    escaped, and two dots never take the first slash away.  So the path that is
    set ends where the address ends (`withPath_isPathText`). -/

namespace SwaggerCmdlets

namespace Url

variable {r : PathRules} {b : PathBuilder} {kind : SchemeKind} {cs : List Char}

/-- Neither a query nor a fragment starts with the character. -/
def InPath (c : Char) : Prop := c ≠ '?' ∧ c ≠ '#'

instance : DecidablePred InPath := fun _ => inferInstanceAs (Decidable (_ ∧ _))

/-- The text starts with a slash, and no query or fragment starts within it. -/
structure IsPathText (cs : List Char) : Prop where
  slash : cs.head? = some '/'
  inPath : ∀ c ∈ cs, InPath c

/-- What has been read so far is the text of a path. -/
structure PathBuilder.Sound (b : PathBuilder) : Prop where
  closed : IsPathText b.closed
  segment : ∀ c ∈ b.segment, InPath c

/-! ## Characters -/

/-- Escapes are written in these characters. -/
def IsEscapeMark (c : Char) : Prop := c = '%' ∨ ∃ n < 16, c = hexUpper n

theorem IsEscapeMark.holds {P : Char → Prop} {c : Char} (h : IsEscapeMark c) (hpercent : P '%')
    (hdigits : ∀ n < 16, P (hexUpper n)) : P c := by
  rcases h with rfl | ⟨n, hn, rfl⟩
  · exact hpercent
  · exact hdigits n hn

theorem escapeByte_isEscapeMark (b : UInt8) : ∀ c ∈ escapeByte b, IsEscapeMark c := by
  have hb : b.toNat < 256 := b.toNat_lt
  intro c hc
  simp only [escapeByte, List.mem_cons, List.not_mem_nil, or_false] at hc
  rcases hc with rfl | rfl | rfl
  · exact .inl rfl
  · exact .inr ⟨_, by omega, rfl⟩
  · exact .inr ⟨_, by omega, rfl⟩

/-- A character that the set does not escape stays, any other is written as escapes. -/
theorem mem_escapeChar {set : EscapeSet} {c x : Char} (hx : x ∈ escapeChar set c) :
    set x = false ∨ IsEscapeMark x := by
  rw [escapeChar] at hx
  by_cases hplain : (decide (c.toNat < 0x80) && !set c) = true
  · rw [if_pos hplain] at hx
    obtain rfl := List.mem_singleton.mp hx
    exact .inl (by simpa using (Bool.and_eq_true_iff.mp hplain).2)
  · rw [if_neg hplain] at hx
    obtain ⟨byte, -, hx⟩ := List.mem_flatMap.mp hx
    exact .inr (escapeByte_isEscapeMark byte x hx)

/-- A path escapes the marks of queries and fragments. -/
theorem escapeChar_inPath (c : Char) : ∀ x ∈ escapeChar pathSet c, InPath x := by
  intro x hx
  rcases mem_escapeChar hx with hset | hmark
  · constructor
    · rintro rfl
      exact absurd hset (by decide)
    · rintro rfl
      exact absurd hset (by decide)
  · exact hmark.holds (by decide) (by decide)

theorem forall_slash_inPath : ∀ c ∈ ['/'], InPath c :=
  List.forall_mem_singleton.mpr (by decide)

/-! ## Segments -/

theorem IsPathText.append {ds : List Char} (h : IsPathText cs) (hds : ∀ c ∈ ds, InPath c) :
    IsPathText (cs ++ ds) where
  slash := by rw [List.head?_append, h.slash]; rfl
  inPath := List.forall_mem_append.mpr ⟨h.inPath, hds⟩

theorem IsPathText.mem_slash (h : IsPathText cs) : '/' ∈ cs := List.mem_of_mem_head? h.slash

/-- What is left of a path's front is the text of a path. -/
theorem IsPathText.of_isPrefix {ds : List Char} (h : IsPathText cs) (hstart : ds <+: cs)
    (hds : '/' ∈ ds) : IsPathText ds where
  slash := by
    obtain ⟨x, xs, rfl⟩ := List.exists_cons_of_ne_nil (List.ne_nil_of_mem hds)
    obtain ⟨rest, rfl⟩ := hstart
    exact h.slash
  inPath := fun c hc => h.inPath c (hstart.subset hc)

theorem uptoLastSlash_isPrefix (cs : List Char) : uptoLastSlash cs <+: cs :=
  ⟨_, Text.dropEndWhile_append_dropped (· ≠ '/') cs⟩

/-- What goes up to the last slash has a slash, if there is one. -/
theorem mem_uptoLastSlash (h : '/' ∈ cs) : '/' ∈ uptoLastSlash cs := by
  by_contra hnot
  have hsplit : uptoLastSlash cs ++ (cs.reverse.takeWhile (· ≠ '/')).reverse = cs :=
    Text.dropEndWhile_append_dropped (· ≠ '/') cs
  rw [← hsplit, List.mem_append, List.mem_reverse] at h
  have hmem := List.mem_takeWhile_imp (h.resolve_left hnot)
  exact absurd hmem (by decide)

theorem popSegment_isPrefix (kind : SchemeKind) (cs : List Char) : popSegment kind cs <+: cs := by
  rw [popSegment]
  split
  · exact List.prefix_refl cs
  · exact uptoLastSlash_isPrefix cs

theorem mem_popSegment (h : '/' ∈ cs) : '/' ∈ popSegment kind cs := by
  rw [popSegment]
  split
  · exact h
  · exact mem_uptoLastSlash h

/-- Two dots leave the first slash where it is. -/
theorem IsPathText.goUp (h : IsPathText cs) (kind : SchemeKind) :
    IsPathText (goUp kind cs) := by
  rw [Url.goUp]
  by_cases hdrop : (cs.getLast? == some '/' && canDropSlash cs) = true
  · rw [if_pos hdrop]
    -- a slash is dropped only where another one stands before it
    have hmem : '/' ∈ cs.dropLast := by
      have hcan := (Bool.and_eq_true_iff.mp hdrop).2
      rw [canDropSlash, Bool.and_eq_true_iff] at hcan
      exact List.contains_iff_mem.mp hcan.1
    exact h.of_isPrefix ((popSegment_isPrefix kind _).trans (List.dropLast_prefix cs))
      (mem_popSegment hmem)
  · rw [if_neg hdrop]
    exact h.of_isPrefix (popSegment_isPrefix kind cs) (mem_popSegment h.mem_slash)

/-! ## Reading -/

/-- Closing a segment keeps the text of a path. -/
theorem PathBuilder.Sound.close (h : b.Sound) (slash : Bool) : (b.close r slash).Sound := by
  have hempty : ∀ c ∈ ([] : List Char), InPath c := List.forall_mem_nil _
  have htail : ∀ c ∈ (if slash then ['/'] else []), InPath c := by
    cases slash with
    | true => exact forall_slash_inPath
    | false => exact hempty
  rw [PathBuilder.close]
  by_cases hdotdot : isDotDot b.segment = true
  · rw [if_pos hdotdot]
    refine ⟨?_, hempty⟩
    dsimp only
    split
    · exact (h.closed.goUp r.kind).append forall_slash_inPath
    · exact h.closed.goUp r.kind
  rw [if_neg hdotdot]
  by_cases hdot : isDot b.segment = true
  · rw [if_pos hdot]
    refine ⟨?_, hempty⟩
    dsimp only
    split
    · exact h.closed
    · exact h.closed.append forall_slash_inPath
  rw [if_neg hdot]
  by_cases hdrive : (r.kind == .file && isDrive b.segment) = true
  · rw [if_pos hdrive]
    have hletter : ∀ c ∈ b.segment.take 1, InPath c :=
      fun c hc => h.segment c (List.mem_of_mem_take hc)
    have hcolon : ∀ c ∈ [':'], InPath c := List.forall_mem_singleton.mpr (by decide)
    exact ⟨((h.closed.append hletter).append hcolon).append htail, hempty⟩
  · rw [if_neg hdrive]
    exact ⟨(h.closed.append h.segment).append htail, hempty⟩

/-- Adding a character keeps the text of a path. -/
theorem PathBuilder.Sound.push (h : b.Sound) (c : Char) : (b.push r c).Sound := by
  rw [PathBuilder.push]
  split
  · -- the slash that a drive calls for is put before what stands after the closed part
    have hwhole : IsPathText (b.closed ++ b.segment ++ ['/']) :=
      (h.closed.append h.segment).append forall_slash_inPath
    constructor
    · refine hwhole.of_isPrefix (List.take_prefix _ _) ?_
      show '/' ∈ List.take (b.closed.length + 1) (b.closed ++ b.segment ++ ['/'])
      rw [List.append_assoc, List.take_append, List.take_of_length_le (Nat.le_succ _)]
      exact List.mem_append_left _ h.closed.mem_slash
    · refine List.forall_mem_append.mpr ⟨?_, escapeChar_inPath c⟩
      exact fun x hx => hwhole.inPath x (List.mem_of_mem_drop hx)
  · exact ⟨h.closed, List.forall_mem_append.mpr ⟨h.segment, escapeChar_inPath c⟩⟩

/-- Reading a path keeps the text of a path. -/
theorem PathBuilder.Sound.readPath (h : b.Sound) (r : PathRules) (cs : List Char) :
    (readPath r cs b).1.Sound := by
  induction cs generalizing b with
  | nil => exact h.close false
  | cons c cs ih =>
      rw [Url.readPath]
      split
      · exact h.close false
      · split
        · exact ih (h.close true)
        · exact ih (h.push c)

/-- A path that is read after its first slash is the text of a path. -/
theorem pathFrom_isPathText (r : PathRules) (cs : List Char) :
    IsPathText (pathFrom r ['/'] cs).path := by
  have hstart : (⟨['/'], [], false⟩ : PathBuilder).Sound :=
    ⟨⟨rfl, forall_slash_inPath⟩, List.forall_mem_nil _⟩
  have hread := (hstart.readPath r cs).closed
  rw [pathFrom]
  dsimp only
  split
  · refine ⟨rfl, List.forall_mem_cons.mpr ⟨by decide, ?_⟩⟩
    exact fun c hc => hread.inPath c ((List.dropWhile_sublist _).subset hc)
  · exact hread

/-- After the authority of a special scheme stands the text of a path. -/
theorem pathAfterAuthority_isPathText (hkind : r.kind.isSpecial = true) (cs : List Char) :
    IsPathText (pathAfterAuthority r cs).path := by
  unfold pathAfterAuthority
  rw [if_pos hkind]
  split
  · exact pathFrom_isPathText r _
  · exact pathFrom_isPathText r _
  · exact pathFrom_isPathText r _

/-- In an address with an authority and a special scheme, the path that is set is the
    text of a path. -/
theorem withPath_isPathText {u : Url} (hkind : (SchemeKind.of u.scheme).isSpecial = true)
    (hauthority : u.authority.isSome = true) (path : String) :
    IsPathText (u.withPath path).path.toList := by
  have hopaque : ¬ u.isOpaque = true := by
    obtain ⟨a, ha⟩ := Option.isSome_iff_exists.mp hauthority
    simp [isOpaque, ha]
  rw [withPath, if_neg hopaque]
  show IsPathText (String.toList (String.ofList _))
  rw [String.toList_ofList]
  exact pathAfterAuthority_isPathText hkind _

/-! ## Addresses with an authority -/

/-- A bind succeeds when both of its parts do. -/
theorem exists_ok_of_bind {ε α β : Type} {x : Except ε α} {f : α → Except ε β} {y : β}
    (h : (x >>= f) = .ok y) : ∃ a, x = .ok a ∧ f a = .ok y := by
  cases x with
  | error e => exact nomatch h
  | ok a => exact ⟨a, rfl, h⟩

/-- A local address has an authority, which may be empty. -/
theorem readLocal_parts {u : Url} (h : readLocal cs = .ok u) :
    u.scheme = "file" ∧ u.authority.isSome = true := by
  unfold readLocal at h
  dsimp only at h
  split at h
  · split at h
    · split at h
      · obtain rfl := Except.ok.inj h
        exact ⟨rfl, rfl⟩
      · split at h
        · obtain rfl := Except.ok.inj h
          exact ⟨rfl, rfl⟩
        · obtain ⟨host, -, h⟩ := exists_ok_of_bind h
          obtain rfl := Except.ok.inj h
          exact ⟨rfl, rfl⟩
    · obtain rfl := Except.ok.inj h
      exact ⟨rfl, rfl⟩
  · obtain rfl := Except.ok.inj h
    exact ⟨rfl, rfl⟩

/-- The address is read authority first, and what follows the authority is its path. -/
def ReadsAuthority (u : Url) : Prop :=
  ∃ a before after, readAuthority .special u.scheme before = .ok (a, after) ∧
    u.authority = some a ∧ u.guarded = false ∧
    u.path = String.ofList (pathAfterAuthority ⟨.special, true⟩ after).path

/-- An address is a local one, or of a special scheme and read authority first, or of a
    scheme that is not special. -/
theorem readAfterScheme_cases {scheme : String} {u : Url} (h : readAfterScheme scheme cs = .ok u) :
    (u.scheme = "file" ∧ u.authority.isSome = true) ∨ u.ReadsAuthority ∨
      SchemeKind.of u.scheme = .other := by
  unfold readAfterScheme at h
  dsimp only at h
  split at h
  · exact .inl (readLocal_parts h)
  · rename_i hkind
    obtain ⟨⟨a, after⟩, ha, h⟩ := exists_ok_of_bind h
    obtain rfl := Except.ok.inj h
    rw [hkind] at ha ⊢
    exact .inr (.inl ⟨a, _, after, ha, rfl, rfl, rfl⟩)
  · rename_i hkind
    split at h
    · obtain ⟨a, -, h⟩ := exists_ok_of_bind h
      obtain rfl := Except.ok.inj h
      exact .inr (.inr hkind)
    · obtain rfl := Except.ok.inj h
      exact .inr (.inr hkind)
    · obtain rfl := Except.ok.inj h
      exact .inr (.inr hkind)

end Url

/-- The first document is named by a local path or by an address. -/
theorem Locate.root_cases {cwd : Option String} {document : String} {root : Url}
    (h : Locate.root cwd document = .ok root) :
    (root.scheme = "file" ∧ root.authority.isSome = true) ∨ root.ReadsAuthority ∨
      Url.SchemeKind.of root.scheme = .other := by
  unfold Locate.root at h
  dsimp only at h
  split at h
  · exact nomatch h
  split at h
  · rename_i u hparse
    obtain rfl := Except.ok.inj h
    unfold Url.parse at hparse
    split at hparse
    · exact nomatch hparse
    · exact Url.readAfterScheme_cases hparse
  · split at h
    · rename_i u hfile
      obtain rfl := Except.ok.inj h
      unfold Url.ofFilePath? at hfile
      split at hfile
      · obtain rfl := Option.some.inj hfile
        exact .inl ⟨rfl, rfl⟩
      · obtain ⟨dir, -, rfl⟩ := Option.map_eq_some_iff.mp hfile
        exact .inl ⟨rfl, rfl⟩
    · exact nomatch h
  · exact nomatch h

/-- The first document of a special scheme has an authority. -/
theorem Locate.root_authority {cwd : Option String} {document : String} {root : Url}
    (h : Locate.root cwd document = .ok root)
    (hkind : (Url.SchemeKind.of root.scheme).isSpecial = true) :
    root.authority.isSome = true := by
  rcases Locate.root_cases h with ⟨-, hauthority⟩ | ⟨a, _, _, -, ha, -⟩ | hother
  · exact hauthority
  · rw [ha]
    rfl
  · rw [hother] at hkind
    exact absurd hkind (by decide)

end SwaggerCmdlets
