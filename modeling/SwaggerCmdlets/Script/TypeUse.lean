import SwaggerCmdlets.Script.TypeTable
import SwaggerCmdlets.Text.Word

/-! # Type uses — where type tokens stand in a script

    Type tokens stand in brackets, `[token]`, and in declarations,
    `public token `, where `public` starts a word.  Both are found in one pass
    from left to right, without overlaps, and their tokens are replaced; all
    else stays.

    The pass keeps the character before the rest of the text, which tells
    whether a word may start there. -/

namespace SwaggerCmdlets.TypeUse

open Text

/-- The identifier at the front of a text, if a given character follows it; with
    what follows that character. -/
def identThen (stop : Char) (cs : List Char) : Option (List Char × List Char) :=
  let ident := cs.takeWhile isIdentRest
  match cs.dropWhile isIdentRest with
  | c :: rest => if c = stop && isIdent ident then some (ident, rest) else none
  | [] => none

/-- An annotation at the front of a text: what stands around its token, the
    token, and the text after it. -/
structure Site where
  before : List Char
  token : List Char
  stop : Char
  rest : List Char

/-- The annotation in brackets at the front of a text. -/
def bracketSite? : List Char → Option Site
  | '[' :: cs => (identThen ']' cs).map fun (token, rest) => ⟨['['], token, ']', rest⟩
  | _ => none

/-- The declaration at the front of a text. -/
def declarationSite? : List Char → Option Site
  | 'p' :: 'u' :: 'b' :: 'l' :: 'i' :: 'c' :: ' ' :: cs =>
    (identThen ' ' cs).map fun (token, rest) => ⟨"public ".toList, token, ' ', rest⟩
  | _ => none

/-- The annotation at the front of a text that follows a given character. -/
def site? (previous : Option Char) (cs : List Char) : Option Site :=
  match bracketSite? cs with
  | some site => some site
  | none => if previous.any isWord then none else declarationSite? cs

theorem identThen_rest_lt {stop : Char} {cs token rest : List Char}
    (h : identThen stop cs = some (token, rest)) : rest.length < cs.length := by
  unfold identThen at h
  have hsub : (cs.dropWhile isIdentRest).length ≤ cs.length :=
    (List.dropWhile_sublist isIdentRest).length_le
  cases hd : cs.dropWhile isIdentRest with
  | nil => rw [hd] at h; simp at h
  | cons c r =>
    rw [hd] at h hsub
    by_cases hc : (c = stop && isIdent (cs.takeWhile isIdentRest)) = true
    · simp only [hc, if_true, Option.some.injEq, Prod.mk.injEq] at h
      rw [← h.2]
      exact Nat.lt_of_lt_of_le (Nat.lt_succ_self _) hsub
    · simp [hc] at h

theorem site?_rest_lt {previous : Option Char} {cs : List Char} {site : Site}
    (h : site? previous cs = some site) : site.rest.length < cs.length := by
  unfold site? at h
  cases hb : bracketSite? cs with
  | some s =>
    rw [hb] at h
    obtain rfl := Option.some.inj h
    unfold bracketSite? at hb
    split at hb
    · obtain ⟨⟨token, rest⟩, hi, rfl⟩ := Option.map_eq_some_iff.1 hb
      exact Nat.lt_succ_of_lt (identThen_rest_lt hi)
    · exact nomatch hb
  | none =>
    rw [hb] at h
    by_cases hp : previous.any isWord = true
    · simp [hp] at h
    · replace h : declarationSite? cs = some site := by simpa [hp] using h
      unfold declarationSite? at h
      split at h
      · obtain ⟨⟨token, rest⟩, hi, rfl⟩ := Option.map_eq_some_iff.1 h
        have := identThen_rest_lt hi
        simp only [List.length_cons]
        omega
      · exact nomatch h

/-- The text with every annotation's token replaced. -/
def replaceTokens (replace : List Char → List Char) (previous : Option Char) (cs : List Char) :
    List Char :=
  match _h : site? previous cs with
  | some site =>
    site.before ++ replace site.token ++ site.stop
      :: replaceTokens replace (some site.stop) site.rest
  | none =>
    match cs with
    | [] => []
    | c :: rest => c :: replaceTokens replace (some c) rest
termination_by cs.length
decreasing_by
  · exact site?_rest_lt _h
  · simp

/-- The script with its type tokens normalized. -/
def normalize (table : TypeTable) (script : String) : String :=
  String.ofList (replaceTokens
    (fun token => (table.normalize (String.ofList token)).toList) none script.toList)

end SwaggerCmdlets.TypeUse
