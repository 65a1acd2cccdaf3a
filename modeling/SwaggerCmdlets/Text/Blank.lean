/-! # Blank characters — what trimming takes away

    Addresses, list items and header parts are trimmed of blank characters at
    both ends before they are used.  Blank means the Unicode property
    White_Space, which has 25 members; a zero-width space is not one of them. -/

namespace SwaggerCmdlets.Text

/-- The characters of the Unicode property White_Space. -/
def isBlank (c : Char) : Bool :=
  let n := c.toNat
  (9 ≤ n && n ≤ 13) || n == 0x20 || n == 0x85 || n == 0xA0 || n == 0x1680
    || (0x2000 ≤ n && n ≤ 0x200A) || n == 0x2028 || n == 0x2029 || n == 0x202F
    || n == 0x205F || n == 0x3000

/-- Drops the longest end of the list all of whose members satisfy `p`. -/
def dropEndWhile {α : Type} (p : α → Bool) (l : List α) : List α :=
  (l.reverse.dropWhile p).reverse

/-- A list without its blank characters at both ends. -/
def trimChars (cs : List Char) : List Char :=
  dropEndWhile isBlank (cs.dropWhile isBlank)

/-- A text without its blank characters at both ends. -/
def trim (s : String) : String :=
  String.ofList (trimChars s.toList)

/-- What the end is dropped from starts with what is kept. -/
theorem dropEndWhile_append_dropped {α : Type} (p : α → Bool) (l : List α) :
    dropEndWhile p l ++ (l.reverse.takeWhile p).reverse = l := by
  unfold dropEndWhile
  rw [← List.reverse_append, List.takeWhile_append_dropWhile, List.reverse_reverse]

variable {c : Char} {cs : List Char}

/-- What trimming takes away at the two ends is blank. -/
theorem exists_eq_append_trimChars (cs : List Char) :
    ∃ front back, cs = front ++ (trimChars cs ++ back)
      ∧ (∀ c ∈ front, isBlank c = true) ∧ ∀ c ∈ back, isBlank c = true := by
  refine ⟨cs.takeWhile isBlank, ((cs.dropWhile isBlank).reverse.takeWhile isBlank).reverse,
    ?_, List.all_eq_true.1 List.all_takeWhile, fun c hc => ?_⟩
  · rw [trimChars, dropEndWhile_append_dropped, List.takeWhile_append_dropWhile]
  · exact List.all_eq_true.1 List.all_takeWhile c (List.mem_reverse.1 hc)

theorem mem_trimChars_of_mem (h : c ∈ cs) (hc : isBlank c = false) : c ∈ trimChars cs := by
  obtain ⟨front, back, hcs, hfront, hback⟩ := exists_eq_append_trimChars cs
  have hnot : isBlank c ≠ true := by simp [hc]
  rw [hcs, List.mem_append, List.mem_append] at h
  rcases h with h | h | h
  · exact absurd (hfront c h) hnot
  · exact h
  · exact absurd (hback c h) hnot

theorem mem_of_mem_trimChars (h : c ∈ trimChars cs) : c ∈ cs := by
  obtain ⟨front, back, hcs, -, -⟩ := exists_eq_append_trimChars cs
  rw [hcs]
  exact List.mem_append_right _ (List.mem_append_left _ h)

/-- Trimming leaves something of a text just if not all of it is blank. -/
theorem trim_ne_empty_iff {s : String} : trim s ≠ "" ↔ ∃ c ∈ s.toList, isBlank c = false := by
  rw [trim, Ne, String.ofList_eq_empty_iff]
  constructor
  · intro h
    have hleft : s.toList.dropWhile isBlank ≠ [] := by
      intro hnil
      rw [trimChars, hnil] at h
      exact h rfl
    exact ⟨_, (List.dropWhile_sublist _).subset (List.head_mem hleft),
      List.head_dropWhile_not _ hleft⟩
  · rintro ⟨c, hc, hblank⟩
    exact List.ne_nil_of_mem (mem_trimChars_of_mem hc hblank)

end SwaggerCmdlets.Text
