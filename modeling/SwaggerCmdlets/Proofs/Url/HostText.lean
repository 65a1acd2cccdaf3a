import SwaggerCmdlets.Proofs.Unicode.Composition
import SwaggerCmdlets.Url.Host

/-! # Host text — what the text of a host can hold

    The text of a host need not hold the characters that it is read from: escapes are
    decoded, names are mapped, composed and written in punycode, numbers are written
    anew.  But no step brings in a character that would end the host or the credentials
    before it (`Host.parse_isPlaced`): a mapped name is refused with such a character,
    normal form composes none (`tablesKeep_isHostCode`), and digits are none. -/

namespace SwaggerCmdlets.Url

open Unicode

/-- Neither a path, a query nor a fragment starts with the character, and no credentials
    end with it. -/
def InHost (c : Char) : Prop := c ∉ ['/', '?', '#', '@']

instance : DecidablePred InHost := fun _ => inferInstanceAs (Decidable (_ ∉ _))

/-- The code point is that of a character that may stand in a host. -/
def isHostCode (n : Nat) : Bool := n != 0x2F && n != 0x3F && n != 0x23 && n != 0x40

variable {codes : List Nat} {name ascii cs : List Char} {c : Char} {n : Nat}

/-! ## Code points -/

theorem inHost_of_isHostCode (h : isHostCode c.toNat = true) : InHost c := by
  intro hmem
  simp only [List.mem_cons, List.not_mem_nil, or_false] at hmem
  rcases hmem with rfl | rfl | rfl | rfl <;> exact absurd h (by decide)

theorem forall_inHost {text : String} (h : text.toList.all (fun c => decide (InHost c)) = true) :
    ∀ c ∈ text.toList, InHost c :=
  fun c hc => of_decide_eq_true (List.all_eq_true.mp h c hc)

theorem append_inHost {s t : String} (hs : ∀ c ∈ s.toList, InHost c)
    (ht : ∀ c ∈ t.toList, InHost c) : ∀ c ∈ (s ++ t).toList, InHost c := by
  rw [String.toList_append]
  exact List.forall_mem_append.mpr ⟨hs, ht⟩

theorem isHostCode_ofNat (h : isHostCode n = true) : isHostCode (Char.ofNat n).toNat = true := by
  rcases toNat_ofNat_or_eq_zero n with hn | hzero
  · rw [hn]
    exact h
  · rw [hzero]
    rfl

theorem map_ofNat_inHost (h : ∀ n ∈ codes, isHostCode n = true) :
    ∀ c ∈ codes.map Char.ofNat, InHost c := by
  intro c hc
  obtain ⟨n, hn, rfl⟩ := List.mem_map.mp hc
  exact inHost_of_isHostCode (isHostCode_ofNat (h n hn))

theorem isHostCode_of_not_isDenied (h : HostName.isDenied n = false) : isHostCode n = true := by
  have hall : ∀ n ∈ [0x2F, 0x3F, 0x23, 0x40], HostName.isDenied n = true := by decide
  by_contra hcode
  have hmem : n ∈ [0x2F, 0x3F, 0x23, 0x40] := by
    simpa [isHostCode, imp_iff_not_or, or_assoc] using hcode
  rw [hall n hmem] at h
  exact absurd h Bool.noConfusion

theorem pairRows_isHostCode : ∀ text ∈ pairRows, numbersAll isHostCode none text.toList = true := by
  simp only [pairRows, List.forall_mem_cons, latinPairs, earlyPairs, latinExtendedPairs,
    greekExtendedPairs, latePairs]
  refine ⟨?_, ?_, ?_, ?_, ?_, List.forall_mem_nil _⟩ <;>
  · rw [String.toList_ofList]
    decide +kernel

theorem splitRows_isHostCode :
    ∀ text ∈ splitRows, numbersAll isHostCode none text.toList = true := by
  simp only [splitRows, List.forall_mem_cons, earlySplits, ideographSplits, presentationSplits,
    musicSplits, lateSplits]
  refine ⟨?_, ?_, ?_, ?_, ?_, List.forall_mem_nil _⟩ <;>
  · rw [String.toList_ofList]
    decide +kernel

/-- Normal form composes none of the characters, and decomposes none into them. -/
theorem tablesKeep_isHostCode : TablesKeep isHostCode where
  pairs := forall_mem_flatMap_rows pairRows_isHostCode
  splits := forall_mem_flatMap_rows splitRows_isHostCode
  hangul := fun n hn => by
    simp only [isHostCode, Bool.and_eq_true, bne_iff_ne]
    omega

/-! ## Punycode -/

namespace Punycode

theorem threshold_le (k bias : Nat) : threshold k bias ≤ 26 := by
  unfold threshold
  split
  · omega
  · split <;> omega

theorem digitChar_inHost {d : Nat} (hd : d < 36) : InHost (digitChar d) := by
  have hall : ∀ d < 36, InHost (digitChar d) := by decide
  exact hall d hd

theorem digitsOf_inHost (bias fuel k q : Nat) : ∀ c ∈ digitsOf bias fuel k q, InHost c := by
  induction fuel generalizing k q with
  | zero => exact List.forall_mem_nil _
  | succ fuel ih =>
      have ht := threshold_le k bias
      rw [digitsOf]
      split
      · exact List.forall_mem_singleton.mpr (digitChar_inHost (by omega))
      · refine List.forall_mem_cons.mpr ⟨digitChar_inHost ?_, ih _ _⟩
        have hrest := Nat.mod_lt (q - threshold k bias) (show 0 < 36 - threshold k bias by omega)
        omega

variable {e : Encoder} {basic m : Nat}

theorem Encoder.pass_inHost (he : ∀ c ∈ e.output, InHost c) :
    ∀ c ∈ (e.pass basic m n).output, InHost c := by
  rw [Encoder.pass]
  split
  · exact he
  · split
    · exact List.forall_mem_append.mpr ⟨he, digitsOf_inHost _ _ _ _⟩
    · exact he

theorem Encoder.foldl_pass_inHost (he : ∀ c ∈ e.output, InHost c) :
    ∀ c ∈ (codes.foldl (Encoder.pass basic m) e).output, InHost c := by
  induction codes generalizing e with
  | nil => exact he
  | cons n codes ih => exact ih (pass_inHost he)

theorem Encoder.insertAll_inHost {ms : List Nat} {least : Nat} (he : ∀ c ∈ e.output, InHost c) :
    ∀ c ∈ (insertAll codes basic ms least e).output, InHost c := by
  induction ms generalizing least e with
  | nil => exact he
  | cons m ms ih => exact ih (foldl_pass_inHost he)

/-- A label in punycode has its own ASCII characters, a hyphen and digits. -/
theorem encode_inHost (h : ∀ n ∈ codes, isHostCode n = true) : ∀ c ∈ encode codes, InHost c := by
  refine Encoder.insertAll_inHost (List.forall_mem_append.mpr ⟨?_, ?_⟩)
  · exact map_ofNat_inHost fun n hn => h n ((List.mem_filter.mp hn).1)
  · split
    · exact List.forall_mem_nil _
    · exact List.forall_mem_singleton.mpr (by decide)

end Punycode

/-! ## Names -/

namespace HostName

theorem mapName?_isHostCode {mapped : List Nat} (h : mapName? codes = some mapped) :
    ∀ n ∈ mapped, isHostCode n = true := by
  obtain ⟨parts, -, h⟩ := Option.bind_eq_some_iff.mp h
  obtain ⟨hdenied, h⟩ := Option.ite_none_left_eq_some.mp h
  obtain rfl := Option.some.inj h
  -- the mapped name is checked before it is composed, and never again
  refine tablesKeep_isHostCode.compose fun n hn => isHostCode_of_not_isDenied ?_
  exact Bool.eq_false_iff.mpr fun hn' => hdenied (List.any_eq_true.mpr ⟨n, hn, hn'⟩)

theorem labels_isHostCode (h : ∀ n ∈ codes, isHostCode n = true) :
    ∀ label ∈ labels codes, ∀ n ∈ label, isHostCode n = true := by
  intro label hlabel n hn
  obtain ⟨piece, hpiece, rfl⟩ := List.mem_map.mp hlabel
  obtain ⟨c, hc, rfl⟩ := List.mem_map.mp hn
  obtain ⟨code, hcode, rfl⟩ := List.mem_map.mp (Text.mem_of_mem_pieces hpiece hc)
  exact isHostCode_ofNat (h code hcode)

theorem label?_inHost {l : Label} (h : label? codes = some l)
    (hcodes : ∀ n ∈ codes, isHostCode n = true) : ∀ c ∈ l.writing, InHost c := by
  have hpuny : ∀ c ∈ puny.map Char.ofNat, InHost c := map_ofNat_inHost (by decide)
  rw [label?] at h
  split at h
  · split at h
    · exact nomatch h
    · split at h
      · exact nomatch h
      · split at h
        · exact nomatch h
        · -- a label that stands in punycode is kept as it is, only its reading is checked
          obtain rfl := Option.some.inj h
          exact map_ofNat_inHost hcodes
  · split at h
    · obtain rfl := Option.some.inj h
      exact map_ofNat_inHost hcodes
    · split at h
      · obtain rfl := Option.some.inj h
        exact List.forall_mem_append.mpr ⟨hpuny, Punycode.encode_inHost hcodes⟩
      · exact nomatch h

/-- A result of a run through a list is the result of one of its members. -/
theorem exists_of_mem_mapM {α β : Type} {f : α → Option β} {xs : List α} {ys : List β} {y : β}
    (h : xs.mapM f = some ys) (hy : y ∈ ys) : ∃ x ∈ xs, f x = some y := by
  induction xs generalizing ys with
  | nil =>
      obtain rfl := Option.some.inj h
      exact absurd hy List.not_mem_nil
  | cons x xs ih =>
      rw [List.mapM_cons] at h
      obtain ⟨first, hfirst, h⟩ := Option.bind_eq_some_iff.mp h
      obtain ⟨rest, hrest, h⟩ := Option.bind_eq_some_iff.mp h
      obtain rfl := Option.some.inj h
      rcases List.mem_cons.mp hy with rfl | hy
      · exact ⟨x, List.mem_cons_self, hfirst⟩
      · obtain ⟨x', hx', hfx'⟩ := ih hrest hy
        exact ⟨x', List.mem_cons_of_mem _ hx', hfx'⟩

theorem toAscii?_inHost (h : toAscii? name = some ascii) : ∀ c ∈ ascii, InHost c := by
  obtain ⟨mapped, hmapped, h⟩ := Option.bind_eq_some_iff.mp h
  obtain ⟨ls, hls, h⟩ := Option.bind_eq_some_iff.mp h
  obtain ⟨-, h⟩ := Option.ite_none_left_eq_some.mp h
  obtain rfl := Option.some.inj h
  intro c hc
  rcases Text.eq_or_mem_of_mem_unpieces hc with rfl | ⟨writing, hwriting, hc⟩
  · decide
  · obtain ⟨l, hl, rfl⟩ := List.mem_map.mp hwriting
    obtain ⟨label, hlabel, hread⟩ := exists_of_mem_mapM hls hl
    exact label?_inHost hread (labels_isHostCode (mapName?_isHostCode hmapped) label hlabel) c hc

/-- The ASCII form of a name ends neither the host nor the credentials. -/
theorem ascii?_inHost (h : ascii? name = some ascii) : ∀ c ∈ ascii, InHost c := by
  rw [ascii?] at h
  split at h
  · rename_i hplain
    obtain ⟨hdenied, h⟩ := Option.ite_none_left_eq_some.mp h
    obtain rfl := Option.some.inj h
    have hascii := List.all_eq_true.mp (Bool.and_eq_true_iff.mp hplain).1
    have hall : ∀ n < 0x80, isDenied n = false → InHost (Char.ofNat n).toLower := by decide
    intro x hx
    obtain ⟨c, hc, rfl⟩ := List.mem_map.mp hx
    have hlower := hall c.toNat (of_decide_eq_true (hascii c hc))
      (Bool.eq_false_iff.mpr fun hn => hdenied (List.any_eq_true.mpr ⟨c, hc, hn⟩))
    rwa [Char.ofNat_toNat] at hlower
  · exact toAscii?_inHost h

end HostName

/-! ## Numbers -/

theorem toDigits_inHost {base : Nat} (hbase : 1 < base) (n : Nat) :
    ∀ c ∈ Nat.toDigits base n, InHost c := by
  have hdigit : ∀ d, InHost (Nat.digitChar d) := by
    intro d hmem
    have hall : ∀ c ∈ ['/', '?', '#', '@'], Nat.digitChar d ≠ c := by
      simp only [List.forall_mem_cons]
      exact ⟨Nat.digitChar_ne _ rfl, Nat.digitChar_ne _ rfl, Nat.digitChar_ne _ rfl,
        Nat.digitChar_ne _ rfl, List.forall_mem_nil _⟩
    exact hall _ hmem rfl
  induction n using Nat.strongRecOn with
  | ind n ih =>
      rw [Nat.toDigits_eq_if hbase]
      split
      · exact List.forall_mem_singleton.mpr (hdigit n)
      · have hless : n / base < n := Nat.div_lt_self (by omega) hbase
        exact List.forall_mem_append.mpr ⟨ih _ hless, List.forall_mem_singleton.mpr (hdigit _)⟩

theorem toString_inHost (n : Nat) : ∀ c ∈ (toString n).toList, InHost c := by
  rw [Nat.toString_eq_ofList_toDigits, String.toList_ofList]
  exact toDigits_inHost (by decide) n

theorem intercalate_inHost {sep : String} {parts : List String}
    (hsep : ∀ c ∈ sep.toList, InHost c) (hparts : ∀ part ∈ parts, ∀ c ∈ part.toList, InHost c) :
    ∀ c ∈ (sep.intercalate parts).toList, InHost c := by
  induction parts with
  | nil => exact List.forall_mem_nil _
  | cons part parts ih =>
      obtain ⟨hpart, hparts⟩ := List.forall_mem_cons.mp hparts
      cases parts with
      | nil =>
          rw [String.intercalate_singleton]
          exact hpart
      | cons next parts =>
          rw [String.intercalate_cons_cons]
          exact append_inHost (append_inHost hpart hsep) (ih hparts)

namespace Host

theorem hexPieces_inHost (ps : List Nat) : ∀ c ∈ (hexPieces ps).toList, InHost c := by
  refine intercalate_inHost (forall_inHost (by decide)) fun part hpart => ?_
  obtain ⟨p, -, rfl⟩ := List.mem_map.mp hpart
  rw [String.toList_ofList]
  exact toDigits_inHost (by decide) p

theorem ipv6Text_inHost (ps : List Nat) : ∀ c ∈ (ipv6Text ps).toList, InHost c := by
  have hgap : ∀ c ∈ "::".toList, InHost c := forall_inHost (by decide)
  rw [ipv6Text]
  dsimp only
  split
  · exact hexPieces_inHost ps
  · exact append_inHost (append_inHost (hexPieces_inHost _) hgap) (hexPieces_inHost _)

theorem ipv4_text_inHost (n : Nat) : ∀ c ∈ (ipv4 n).text.toList, InHost c := by
  refine intercalate_inHost (forall_inHost (by decide)) fun part hpart => ?_
  obtain ⟨byte, -, rfl⟩ := List.mem_map.mp hpart
  exact toString_inHost byte

theorem ipv6_text_inHost (ps : List Nat) : ∀ c ∈ (ipv6 ps).text.toList, InHost c := by
  have hopen : ∀ c ∈ "[".toList, InHost c := forall_inHost (by decide)
  have hclose : ∀ c ∈ "]".toList, InHost c := forall_inHost (by decide)
  exact append_inHost (append_inHost hopen (ipv6Text_inHost ps)) hclose

/-- The host of a special scheme has a text, which ends neither the host nor the
    credentials before it. -/
structure IsPlaced (host : Host) : Prop where
  nonempty : host ≠ Host.name ""
  inHost : ∀ c ∈ host.text.toList, InHost c

theorem isPlaced_ipv4 (n : Nat) : (ipv4 n).IsPlaced := ⟨by simp, ipv4_text_inHost n⟩

theorem isPlaced_ipv6 (ps : List Nat) : (ipv6 ps).IsPlaced := ⟨by simp, ipv6_text_inHost ps⟩

theorem exists_of_map_ok {ε α β : Type} {x : Except ε α} {f : α → β} {y : β}
    (h : x.map f = .ok y) : ∃ a, f a = y := by
  cases x with
  | error e => exact nomatch h
  | ok a => exact ⟨a, Except.ok.inj h⟩

theorem bracketed?_isPlaced {host : Host} (h : bracketed? cs = some (.ok host)) :
    host.IsPlaced := by
  rw [bracketed?.eq_def] at h
  split at h
  · have h := Option.some.inj h
    split at h
    · obtain ⟨ps, rfl⟩ := exists_of_map_ok h
      exact isPlaced_ipv6 ps
    · exact nomatch h
  · exact nomatch h

/-- What is read as the host of a special scheme has its place in an address. -/
theorem parse_isPlaced {host : Host} (h : parse cs = .ok host) : host.IsPlaced := by
  rw [parse] at h
  split at h
  · rename_i read hread
    exact bracketed?_isPlaced (h ▸ hread)
  · split at h
    · exact nomatch h
    · exact nomatch h
    · rename_i ascii hnil hascii
      obtain ⟨decoded, -, hascii⟩ := Option.bind_eq_some_iff.mp hascii
      split at h
      · obtain ⟨n, rfl⟩ := exists_of_map_ok h
        exact isPlaced_ipv4 n
      · obtain rfl := Except.ok.inj h
        refine ⟨fun heq => hnil ?_, ?_⟩
        · exact String.ofList_injective (Host.name.inj heq)
        · show ∀ c ∈ (String.ofList ascii).toList, InHost c
          rw [String.toList_ofList]
          exact HostName.ascii?_inHost hascii

end Host

end SwaggerCmdlets.Url
