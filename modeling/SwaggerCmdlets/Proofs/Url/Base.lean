import SwaggerCmdlets.Proofs.Url.HostText
import SwaggerCmdlets.Proofs.Url.PathText

/-! # The base — what stands before the path of a web address

    Generated calls go to the text of the first address before its path.  For an address
    of the web that is its scheme, its host, and its port unless it is the usual one, and
    credentials if the address has any (`Url.IsBased`): nothing in them starts a path, a
    query or a fragment, and what follows them starts with a slash.

    So the base is scheme, host and port alone exactly if the address has neither user nor
    password (`Locate.origin_of_root`). -/

namespace SwaggerCmdlets

namespace Url

variable {cs rest : List Char} {scheme : String} {a : Authority} {u : Url}

/-- Users and passwords are written without the characters that end them, or the
    authority. -/
def InUser (c : Char) : Prop := c ∉ ['/', '?', '#', '@', ':']

instance : DecidablePred InUser := fun _ => inferInstanceAs (Decidable (_ ∉ _))

/-- The authority has a host, a port only if it is in range and not the usual one of the
    scheme, and escaped credentials. -/
structure Authority.IsPlaced (scheme : String) (a : Authority) (host : Host) : Prop where
  host_eq : a.host = some host
  hostPlaced : host.IsPlaced
  port : ∀ p, a.port = some p → p ≤ 65535 ∧ defaultPort? scheme ≠ some p
  user : ∀ c ∈ a.user.toList, InUser c
  password : ∀ c ∈ a.password.toList, InUser c

/-! ## Credentials -/

theorem escape_inUser (cs : List Char) : ∀ c ∈ escape userSet cs, InUser c := by
  intro x hx
  obtain ⟨c, -, hx⟩ := List.mem_flatMap.mp hx
  rcases mem_escapeChar hx with hset | hmark
  · intro hmem
    simp only [List.mem_cons, List.not_mem_nil, or_false] at hmem
    rcases hmem with rfl | rfl | rfl | rfl | rfl <;> exact absurd hset (by decide)
  · exact hmark.holds (by decide) (by decide)

theorem readCredentials_inUser (cs : List Char) :
    (∀ c ∈ (readCredentials cs).1.toList, InUser c) ∧
      ∀ c ∈ (readCredentials cs).2.toList, InUser c := by
  rw [readCredentials]
  split
  · refine ⟨?_, List.forall_mem_nil _⟩
    rw [String.toList_ofList]
    exact escape_inUser cs
  · rw [String.toList_ofList, String.toList_ofList]
    exact ⟨escape_inUser _, escape_inUser _⟩

/-! ## Ports -/

theorem readPort_le {port : Option Nat} (h : readPort cs = .ok (port, rest)) :
    ∀ p, port = some p → p ≤ 65535 := by
  rw [readPort] at h
  split at h
  · exact nomatch h
  · rename_i hrange
    rintro p rfl
    have hport := (Prod.mk.inj (Except.ok.inj h)).1
    obtain ⟨-, hp⟩ := Option.ite_none_left_eq_some.mp hport
    obtain rfl := Option.some.inj hp
    simp only [Bool.or_eq_true, decide_eq_true_eq, not_or, not_lt] at hrange
    exact hrange.2

/-! ## Authorities -/

/-- What follows a check runs only if the check passes. -/
theorem ok_of_throw_if {ε β : Type} {p : Prop} [Decidable p] {e : ε} {f : Unit → Except ε β} {y : β}
    (h : (if p then throw e >>= f else f ()) = .ok y) : ¬ p ∧ f () = .ok y := by
  by_cases hp : p
  · rw [if_pos hp] at h
    exact nomatch h
  · rw [if_neg hp] at h
    exact ⟨hp, h⟩

/-- What is read as the authority of an address of a special scheme has its host. -/
theorem readAuthority_isPlaced (h : readAuthority .special scheme cs = .ok (a, rest)) :
    ∃ host, a.IsPlaced scheme host := by
  unfold readAuthority at h
  extract_lets authority after at h
  split at h
  rename_i credentials place hsplit
  replace h := (ok_of_throw_if h).2
  split at h
  rename_i user password hcredentials
  split at h
  replace h := (ok_of_throw_if h).2
  extract_lets withHost at h
  rw [if_pos (by decide)] at h
  obtain ⟨host, hhost, h⟩ := exists_ok_of_bind h
  replace hhost := Host.parse_isPlaced hhost
  have hnonempty : (host == .name "") = false := beq_false_of_ne hhost.nonempty
  replace h := (ok_of_throw_if h).2
  extract_lets finish at h
  -- whether a port is written or not, what is taken for one is in range
  obtain ⟨⟨port, afterPort⟩, hport, h⟩ : ∃ x : Option Nat × List Char,
      (∀ p, x.1 = some p → p ≤ 65535) ∧ finish x = .ok (a, rest) := by
    split at h
    · obtain ⟨x, hx, h⟩ := exists_ok_of_bind h
      exact ⟨x, readPort_le hx, h⟩
    · exact ⟨(none, _), nofun, h⟩
  replace h := Except.ok.inj (ok_of_throw_if h).2
  obtain ⟨rfl, -⟩ := Prod.mk.inj h
  rw [hnonempty]
  have hread : (∀ c ∈ user.toList, InUser c) ∧ ∀ c ∈ password.toList, InUser c := by
    cases credentials with
    | none =>
        obtain ⟨rfl, rfl⟩ := Prod.mk.inj hcredentials
        exact ⟨List.forall_mem_nil _, List.forall_mem_nil _⟩
    | some credentials =>
        have hinUser := readCredentials_inUser credentials
        rw [show readCredentials credentials = (user, password) from hcredentials] at hinUser
        exact hinUser
  refine ⟨host, rfl, hhost, fun p hp => ?_, hread.1, hread.2⟩
  obtain ⟨hdefault, rfl⟩ := Option.ite_none_left_eq_some.mp hp
  exact ⟨hport p rfl, fun heq => hdefault (beq_iff_eq.mpr heq.symm)⟩

/-- The host and the port hold nothing that ends them or the credentials before them. -/
theorem Authority.IsPlaced.place_inHost {host : Host} (h : a.IsPlaced scheme host) :
    ∀ c ∈ a.place.toList, InHost c := by
  have hcolon : ∀ c ∈ ":".toList, InHost c := forall_inHost (by decide)
  rw [place, h.host_eq]
  refine append_inHost h.hostPlaced.inHost ?_
  cases a.port with
  | none => exact List.forall_mem_nil _
  | some p => exact append_inHost hcolon (toString_inHost p)

/-- Credentials are written exactly if there is a user or a password. -/
theorem Authority.credentials_eq_empty_iff :
    a.credentials = "" ↔ a.user = "" ∧ a.password = "" := by
  rw [credentials]
  constructor
  · intro h
    by_contra hnot
    rw [if_neg hnot] at h
    exact absurd (String.append_eq_empty_iff.mp h).2 (by decide)
  · exact fun h => if_pos h

/-- The base of the address is its scheme, the credentials of the authority if it has any,
    the host, and the port unless it is the usual one. -/
structure IsBased (u : Url) (a : Authority) (host : Host) : Prop where
  authority : u.authority = some a
  placed : a.IsPlaced u.scheme host
  origin : u.origin = u.scheme ++ "://" ++ a.credentials ++ a.place
  path : IsPathText u.path.toList

theorem ReadsAuthority.isBased (h : u.ReadsAuthority) : ∃ a host, u.IsBased a host := by
  obtain ⟨a, before, after, hread, ha, hguarded, hpath⟩ := h
  obtain ⟨host, hplaced⟩ := readAuthority_isPlaced hread
  refine ⟨a, host, ha, hplaced, ?_, ?_⟩
  · rw [Url.origin, ha, hguarded]
    show u.scheme ++ ":" ++ ("//" ++ (a.credentials ++ a.place)) ++ "" = _
    rw [String.append_empty, show "://" = ":" ++ "//" from rfl]
    simp only [String.append_assoc]
  · rw [hpath, String.toList_ofList]
    exact pathAfterAuthority_isPathText (by decide) after

theorem kind_of_isWeb (h : u.isWeb = true) : SchemeKind.of u.scheme = .special := by
  rw [isWeb, Bool.or_eq_true, beq_iff_eq, beq_iff_eq] at h
  rcases h with h | h
  · rw [h]
    decide
  · rw [h]
    decide

/-- The base of an address without credentials is its scheme, its host and its port. -/
theorem IsBased.origin_eq_iff {host : Host} (h : u.IsBased a host) :
    u.origin = u.scheme ++ "://" ++ host.text ++ (a.port.elim "" fun p => ":" ++ toString p) ↔
      a.user = "" ∧ a.password = "" := by
  have hplace : host.text ++ (a.port.elim "" fun p => ":" ++ toString p) = a.place := by
    rw [Authority.place, h.placed.host_eq]
    rfl
  rw [String.append_assoc, hplace, h.origin, String.append_left_inj, String.append_eq_left_iff,
    Authority.credentials_eq_empty_iff]

end Url

namespace Locate

variable {cwd : Option String} {document : String} {u : Url}

/-- The base of a web address is its scheme, the credentials if it has any, the host, and
    the port unless it is the usual one: where the path, the query or the fragment starts,
    it has ended.  So it is scheme, host and port alone exactly if the address has neither
    a user nor a password. -/
theorem origin_of_root (h : root cwd document = .ok u) (hweb : u.isWeb = true) :
    ∃ a host, u.IsBased a host ∧ (∀ c ∈ a.place.toList, Url.InHost c) ∧
      (u.origin = u.scheme ++ "://" ++ host.text ++ (a.port.elim "" fun p => ":" ++ toString p) ↔
        a.user = "" ∧ a.password = "") := by
  have hkind := Url.kind_of_isWeb hweb
  rcases root_cases h with ⟨hfile, -⟩ | hreads | hother
  · rw [hfile] at hkind
    exact absurd hkind (by decide)
  · obtain ⟨a, host, hbased⟩ := hreads.isBased
    exact ⟨a, host, hbased, hbased.placed.place_inHost, hbased.origin_eq_iff⟩
  · rw [hother] at hkind
    exact absurd hkind (by decide)

/-- Scheme and host are lowered, and credentials and an unusual port stay. -/
theorem origin_of_root_credentials :
    ∃ u, root none "  HTTPS://user:pw@Example.COM:8443/docs?x#y " = .ok u ∧ u.isWeb = true ∧
      ∃ a host, u.IsBased a host ∧ (∀ c ∈ a.place.toList, Url.InHost c) ∧
        (u.origin =
            u.scheme ++ "://" ++ host.text ++ (a.port.elim "" fun p => ":" ++ toString p) ↔
          a.user = "" ∧ a.password = "") :=
  have hroot : root none "  HTTPS://user:pw@Example.COM:8443/docs?x#y " =
      .ok ⟨"https", some ⟨"user", "pw", some (.name "example.com"), some 8443⟩, false, "/docs",
        some "x", some "y"⟩ := by
    decide +kernel
  ⟨_, hroot, by decide, origin_of_root hroot (by decide)⟩

/-- Credentials of the first address are part of the base. -/
theorem origin_with_credentials :
    ∃ u, root none "http://user:pw@h/docs" = .ok u ∧ u.isWeb = true ∧
      u.authority.bind (·.host) = some (.name "h") ∧ u.authority.bind (·.port) = none ∧
      u.origin = "http://user:pw@h" ∧ u.origin ≠ "http://h" :=
  ⟨⟨"http", some ⟨"user", "pw", some (.name "h"), none⟩, false, "/docs", none, none⟩,
    by decide +kernel, by decide, by decide, by decide, by decide, by decide⟩

end Locate

end SwaggerCmdlets
