import SwaggerCmdlets.Script.TypeTable
import SwaggerCmdlets.Text.Word

/-! # Tokens — what a table makes of them

    A table either keeps a token or puts one of four types of the script in its place
    (`normalize_cases`).  All four are identifiers, and a table that does not list them
    as models keeps them; so its tokens are settled after one step
    (`normalize_normalize`). -/

namespace SwaggerCmdlets.TypeTable

open Text

variable {table : TypeTable} {token word : String} {cs : List Char}

/-- The tokens that the table has a replacement for. -/
def keys (table : TypeTable) : List String :=
  table.passthrough ++ builtinPassthrough ++ ["boolean", "integer", "Guid", "array"]

/-- The types that the tokens of a table are replaced by. -/
def scriptTypes : List String := ["bool", "int", "string", "object"]

/-- The characters of a token's replacement. -/
def replacement (table : TypeTable) (cs : List Char) : List Char :=
  (table.normalize (String.ofList cs)).toList

/-- A word that no list of models names and that is no primitive stays. -/
theorem normalize_unlisted (hpassthrough : word ∉ table.passthrough)
    (hbuiltin : word ∉ builtinPassthrough) (hprimitive : primitive word = word) :
    table.normalize word = word := by
  have hneither :
      ¬ (table.passthrough.contains word || builtinPassthrough.contains word) = true := by
    rw [Bool.or_eq_true, List.contains_iff_mem, List.contains_iff_mem, not_or]
    exact ⟨hpassthrough, hbuiltin⟩
  rw [TypeTable.normalize, if_neg hneither]
  exact hprimitive

theorem normalize_of_not_mem_keys (h : token ∉ table.keys) : table.normalize token = token := by
  simp only [keys, List.mem_append, List.mem_cons, List.not_mem_nil, or_false, not_or] at h
  obtain ⟨⟨hpassthrough, hbuiltin⟩, hboolean, hinteger, hguid, harray⟩ := h
  have hprimitive : primitive token = token := primitive.eq_5 token hboolean hinteger hguid harray
  exact normalize_unlisted hpassthrough hbuiltin hprimitive

/-- A token is kept or replaced by a type of the script. -/
theorem normalize_cases (table : TypeTable) (token : String) :
    table.normalize token = token ∨ table.normalize token ∈ scriptTypes := by
  rw [TypeTable.normalize]
  split
  · exact Or.inr (by decide)
  · fun_cases primitive token with
    | case5 => exact Or.inl rfl
    | _ => exact Or.inr (by decide)

/-- The replacement of an identifier is an identifier. -/
theorem isIdent_replacement (h : isIdent cs = true) : isIdent (table.replacement cs) = true := by
  have htypes : ∀ type ∈ scriptTypes, isIdent type.toList = true := by decide
  rw [replacement]
  rcases normalize_cases table (String.ofList cs) with hkept | htype
  · rw [hkept, String.toList_ofList]
    exact h
  · exact htypes _ htype

/-- The types of the script are kept, unless they are passed through themselves. -/
theorem normalize_of_mem_scriptTypes
    (h : ∀ type ∈ ["bool", "int", "string"], type ∉ table.passthrough)
    (htoken : token ∈ scriptTypes) : table.normalize token = token := by
  have hothers : ∀ type ∈ ["bool", "int", "string"], table.normalize type = type := by
    intro type htype
    have hfacts : ∀ type ∈ ["bool", "int", "string"],
        type ∉ builtinPassthrough ∧ primitive type = type := by
      decide
    obtain ⟨hbuiltin, hprimitive⟩ := hfacts type htype
    exact normalize_unlisted (h type htype) hbuiltin hprimitive
  have hobject : table.normalize "object" = "object" := by
    rw [TypeTable.normalize]
    split
    · rfl
    · rfl
  have hsplit : token ∈ ["bool", "int", "string"] ∨ token = "object" := by
    simpa [scriptTypes, or_assoc] using htoken
  rcases hsplit with hother | rfl
  · exact hothers token hother
  · exact hobject

/-- What is normalized once is settled. -/
theorem normalize_normalize (h : ∀ type ∈ ["bool", "int", "string"], type ∉ table.passthrough)
    (token : String) : table.normalize (table.normalize token) = table.normalize token := by
  rcases normalize_cases table token with hkept | htype
  · rw [hkept, hkept]
  · exact normalize_of_mem_scriptTypes h htype

theorem replacement_replacement (h : ∀ type ∈ ["bool", "int", "string"], type ∉ table.passthrough)
    (cs : List Char) : table.replacement (table.replacement cs) = table.replacement cs := by
  rw [replacement, replacement, String.ofList_toList, normalize_normalize h]

end SwaggerCmdlets.TypeTable
