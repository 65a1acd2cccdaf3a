import SwaggerCmdlets.Config

/-! # Named values — a name and its value in one text

    Headers are given as `NAME:VALUE` or `NAME=VALUE`.  A colon is looked for first, and
    all over the text; an equals sign only where there is none (`namedValue?_colon`,
    `namedValue?_equals`).  So the text of a name and a value behind a colon is always cut
    between the two.  Behind an equals sign it is so just if the value has no colon: the
    first colon of a value, as addresses have one, makes what stands before it a part of
    the name. -/

namespace SwaggerCmdlets.Config

open Text

variable {name value s : String}

/-- Where there is a colon, the text is cut at the first one. -/
theorem namedValue?_colon (h : ':' ∉ name.toList) (value : String) :
    namedValue? (name ++ ":" ++ value) = some (trim name, trim value) := by
  have htext : (name ++ ":" ++ value).toList = name.toList ++ ':' :: value.toList := by simp
  rw [namedValue?, htext, splitFirst_append h]
  simp only [String.ofList_toList]

/-- Where there is no colon, the text is cut at the first equals sign. -/
theorem namedValue?_equals (hname : ':' ∉ name.toList) (h : '=' ∉ name.toList)
    (hvalue : ':' ∉ value.toList) :
    namedValue? (name ++ "=" ++ value) = some (trim name, trim value) := by
  have htext : (name ++ "=" ++ value).toList = name.toList ++ '=' :: value.toList := by simp
  have hcolon : splitFirst ':' (name.toList ++ '=' :: value.toList) = none := by
    rw [splitFirst_eq_none_iff, List.mem_append, List.mem_cons, not_or, not_or]
    exact ⟨hname, by decide, hvalue⟩
  rw [namedValue?, htext, hcolon, splitFirst_append h]
  simp only [Option.map_some, String.ofList_toList]

/-- A text names no value just if it has neither separator. -/
theorem namedValue?_eq_none_iff :
    namedValue? s = none ↔ ':' ∉ s.toList ∧ '=' ∉ s.toList := by
  rw [← splitFirst_eq_none_iff, ← splitFirst_eq_none_iff, namedValue?]
  cases splitFirst ':' s.toList with
  | some parts => exact iff_of_false nofun (nofun ∘ And.left)
  | none => rw [Option.map_eq_none_iff, and_iff_right rfl]

/-- A name with an equals sign is not the name that stands before that. -/
theorem trim_append_equals_ne (h : '=' ∉ name.toList) (rest : String) :
    trim (name ++ "=" ++ rest) ≠ trim name := by
  intro heq
  have hmem : '=' ∈ (trim (name ++ "=" ++ rest)).toList := by
    rw [trim, String.toList_ofList]
    exact mem_trimChars_of_mem (by simp) (by decide)
  rw [heq, trim, String.toList_ofList] at hmem
  exact h (mem_of_mem_trimChars hmem)

/-- A name that has neither separator is read back, with its value, from the text with a
    colon between the two.  From the text with an equals sign between them they are read
    back exactly if the value has no colon; if it has one, the text is cut there instead.
    A text names no value exactly if it has neither separator. -/
theorem namedValue?_reads (hcolon : ':' ∉ name.toList) (hequals : '=' ∉ name.toList)
    (value : String) :
    namedValue? (name ++ ":" ++ value) = some (trim name, trim value)
      ∧ (namedValue? (name ++ "=" ++ value) = some (trim name, trim value) ↔ ':' ∉ value.toList)
      ∧ (∀ front rest, ':' ∉ front.toList → value = front ++ ":" ++ rest →
        namedValue? (name ++ "=" ++ value) = some (trim (name ++ "=" ++ front), trim rest))
      ∧ ∀ text, namedValue? text = none ↔ ':' ∉ text.toList ∧ '=' ∉ text.toList := by
  have hcut : ∀ front rest, ':' ∉ front.toList → value = front ++ ":" ++ rest →
      namedValue? (name ++ "=" ++ value) = some (trim (name ++ "=" ++ front), trim rest) := by
    rintro front rest hfront rfl
    have hnot : ':' ∉ (name ++ "=" ++ front).toList := by simp [hcolon, hfront]
    have htext : name ++ "=" ++ (front ++ ":" ++ rest) = (name ++ "=" ++ front) ++ ":" ++ rest := by
      simp only [String.append_assoc]
    rw [htext]
    exact namedValue?_colon hnot rest
  refine ⟨namedValue?_colon hcolon value, ⟨fun h hmem => ?_, ?_⟩, hcut,
    fun text => namedValue?_eq_none_iff⟩
  · -- the name that is read has the equals sign in it
    obtain ⟨front, rest, hvalue, hfront⟩ := List.eq_append_cons_of_mem hmem
    have htext : value = String.ofList front ++ ":" ++ String.ofList rest := by
      rw [← String.toList_inj, hvalue]
      simp
    have hread := hcut _ _ (by rwa [String.toList_ofList]) htext
    rw [h, Option.some_inj, Prod.mk.injEq] at hread
    exact trim_append_equals_ne hequals _ hread.1.symm
  · exact namedValue?_equals hcolon hequals

/-- An address behind a name, with a colon and with an equals sign between them. -/
theorem namedValue?_reads_callback :
    let name := " X-Callback"
    let value := " http://h:8080/cb "
    ':' ∉ name.toList ∧ '=' ∉ name.toList
      ∧ trim name = "X-Callback" ∧ trim value = "http://h:8080/cb"
      ∧ namedValue? (name ++ ":" ++ value) = some (trim name, trim value)
      ∧ (namedValue? (name ++ "=" ++ value) = some (trim name, trim value) ↔ ':' ∉ value.toList)
      ∧ (∀ front rest, ':' ∉ front.toList → value = front ++ ":" ++ rest →
        namedValue? (name ++ "=" ++ value) = some (trim (name ++ "=" ++ front), trim rest))
      ∧ ∀ text, namedValue? text = none ↔ ':' ∉ text.toList ∧ '=' ∉ text.toList := by
  intro name value
  have hcolon : ':' ∉ name.toList := by decide
  have hequals : '=' ∉ name.toList := by decide
  exact ⟨hcolon, hequals, by decide +kernel, by decide +kernel,
    namedValue?_reads hcolon hequals value⟩

/-- The colon of an address comes before the equals sign in front of it. -/
theorem namedValue?_cuts_address :
    ':' ∉ "X-Callback".toList ∧ '=' ∉ "X-Callback".toList
      ∧ namedValue? ("X-Callback" ++ "=" ++ "http://h") = some ("X-Callback=http", "//h")
      ∧ namedValue? ("X-Callback" ++ "=" ++ "http://h")
        ≠ some (trim "X-Callback", trim "http://h") := by
  decide +kernel

end SwaggerCmdlets.Config
