import SwaggerCmdlets.Proofs.Script.References
import SwaggerCmdlets.Proofs.Script.Sites

/-! # Expansion — what an address is when its variables have values

    A placeholder of an endpoint and a reference of a script are both identifiers
    between marks (`Marks`), and giving values to the names replaces each of them,
    marks included (`Marks.fill`).  An endpoint is a template if braces stand in it
    around identifiers only, and if it has none of the characters of a reference
    (`IsTemplate`).

    Whether the placeholders of a template are given values, or are turned into
    references whose variables are given the same values, makes no difference
    (`fill_references`).  So the address of a call is, with values, the endpoint with
    these values, alone or below the base (`fill_target`). -/

namespace SwaggerCmdlets

open Text (isIdent isIdentRest trimEndOf trimStartOf)
open TypeUse (identThen)

/-! ## Names between marks -/

/-- What stands before a name, a first character and others, and what stands after it. -/
structure Marks where
  first : Char
  others : List Char
  closing : Char
  closes : isIdentRest closing = false

namespace Marks

variable {m : Marks} {value : List Char → List Char} {cs xs ys name rest : List Char} {c : Char}

/-- Braces, between which the names of placeholders stand. -/
def placeholder : Marks := ⟨'\x7b', [], '\x7d', by decide⟩

/-- The marks of a reference. -/
def reference : Marks := ⟨'$', ['(', '$'], ')', by decide⟩

/-- The name at the front of a text, between its marks, and what follows it. -/
def name? (m : Marks) (cs : List Char) : Option (List Char × List Char) :=
  if m.first :: m.others <+: cs then identThen m.closing (cs.drop (m.others.length + 1)) else none

theorem name?_rest_lt (h : m.name? cs = some (name, rest)) : rest.length < cs.length := by
  rw [name?] at h
  split at h
  · have hlt := TypeUse.identThen_rest_lt h
    rw [List.length_drop] at hlt
    omega
  · exact nomatch h

/-- The text with each name between marks replaced by its value. -/
def fill (m : Marks) (value : List Char → List Char) (cs : List Char) : List Char :=
  match _h : m.name? cs with
  | some (name, rest) => value name ++ fill m value rest
  | none =>
    match cs with
    | [] => []
    | c :: rest => c :: fill m value rest
termination_by cs.length
decreasing_by
  · exact name?_rest_lt _h
  · simp

theorem fill_nil (m : Marks) (value : List Char → List Char) : m.fill value [] = [] := by
  generalize htext : ([] : List Char) = text
  fun_cases fill m value text with
  | case1 text name rest h =>
      have hlt := name?_rest_lt h
      rw [← htext] at hlt
      exact absurd hlt (Nat.not_lt_zero _)
  | case2 => rfl
  | case3 => exact nomatch htext

/-- A name between marks is replaced. -/
theorem fill_name (m : Marks) (value : List Char → List Char) (h : isIdent name = true)
    (rest : List Char) :
    m.fill value (m.first :: m.others ++ (name ++ m.closing :: rest))
      = value name ++ m.fill value rest := by
  have hname :
      m.name? (m.first :: m.others ++ (name ++ m.closing :: rest)) = some (name, rest) := by
    rw [name?, if_pos (List.prefix_append _ _), ← List.length_cons, List.drop_left]
    exact (TypeUse.identThen_eq_some_iff m.closes).mpr ⟨h, rfl⟩
  generalize m.first :: m.others ++ (name ++ m.closing :: rest) = text at hname ⊢
  fun_cases fill m value text with
  | case1 text name' rest' h' =>
      obtain ⟨rfl, rfl⟩ := Prod.mk.inj (Option.some.inj (hname.symm.trans h'))
      rfl
  | case2 h' => exact nomatch hname.symm.trans h'
  | case3 c rest h' => exact nomatch hname.symm.trans h'

/-- A character with which no marks start stays. -/
theorem fill_cons (value : List Char → List Char) (hc : c ≠ m.first) (rest : List Char) :
    m.fill value (c :: rest) = c :: m.fill value rest := by
  have hnone : m.name? (c :: rest) = none :=
    if_neg fun hp => hc (List.cons_prefix_cons.mp hp).1.symm
  generalize htext : c :: rest = text at hnone ⊢
  fun_cases fill m value text with
  | case1 text name' rest' h' => exact nomatch hnone.symm.trans h'
  | case2 h' => exact nomatch htext
  | case3 d ds h' =>
      obtain ⟨rfl, rfl⟩ := List.cons.inj htext
      rfl

theorem fill_append_of_not_mem (value : List Char → List Char) (h : m.first ∉ xs) :
    m.fill value (xs ++ ys) = xs ++ m.fill value ys := by
  induction xs with
  | nil => rfl
  | cons c xs ih =>
      rw [List.mem_cons, not_or] at h
      rw [List.cons_append, fill_cons value (Ne.symm h.1), ih h.2, List.cons_append]

end Marks

/-! ## Templates -/

/-- Literal texts and placeholders that are called by identifiers, in any order.  Literal
    text has no braces and none of the characters that references are made of. -/
inductive IsTemplate : List Char → Prop where
  | nil : IsTemplate []
  | literal {text cs : List Char} :
      (∀ c ∈ text, c ∉ ['\x7b', '\x7d', '$', '(', ')']) → IsTemplate cs →
        IsTemplate (text ++ cs)
  | placeholder {name cs : List Char} :
      isIdent name = true → IsTemplate cs → IsTemplate ('\x7b' :: (name ++ '\x7d' :: cs))

namespace Call

variable {base path : String} {value : List Char → List Char} {cs name : List Char}

/-- Identifiers have no braces. -/
theorem references_of_isIdent (h : isIdent name = true) : references name = name := by
  have hall := TypeUse.all_of_isIdent h
  refine references_of_no_braces ⟨fun hmem => ?_, fun hmem => ?_⟩
  · exact absurd (hall _ hmem) (by decide)
  · exact absurd (hall _ hmem) (by decide)

/-- Giving values to the variables of a filled template gives them to its placeholders. -/
theorem fill_references (h : IsTemplate cs) :
    Marks.reference.fill value (references cs) = Marks.placeholder.fill value cs := by
  induction h with
  | nil => rw [Marks.fill_nil, references, List.flatMap_nil, Marks.fill_nil]
  | @literal text cs htext _ ih =>
      have hnot {c : Char} (hc : c ∈ ['\x7b', '\x7d', '$', '(', ')']) : c ∉ text :=
        fun hmem => htext c hmem hc
      have hdollar : Marks.reference.first ∉ text := hnot (by decide)
      have hopen : Marks.placeholder.first ∉ text := hnot (by decide)
      rw [references_append, references_of_no_braces ⟨hopen, hnot (by decide)⟩,
        Marks.fill_append_of_not_mem value hdollar, Marks.fill_append_of_not_mem value hopen, ih]
  | @placeholder name cs hname _ ih =>
      have hstep : references ('\x7b' :: (name ++ '\x7d' :: cs))
          = mark ++ (name ++ ')' :: references cs) := by
        rw [← List.singleton_append, references_append, references_append,
          references_of_isIdent hname, ← List.singleton_append, references_append]
        rfl
      have hreference := Marks.fill_name Marks.reference value hname (references cs)
      have hplaceholder := Marks.fill_name Marks.placeholder value hname cs
      rw [hstep]
      exact hreference.trans ((congrArg (value name ++ ·) ih).trans hplaceholder.symm)

/-- Without the slashes at its start, a template is one as well. -/
theorem isTemplate_trimStartOf (h : IsTemplate cs) : IsTemplate (trimStartOf '/' cs) := by
  induction h with
  | nil => exact .nil
  | literal htext hcs ih =>
      rw [trimStartOf, List.dropWhile_append]
      split
      · exact ih
      · exact .literal (fun c hc => htext c ((List.dropWhile_sublist _).subset hc)) hcs
  | placeholder hname hcs _ => exact .placeholder hname hcs

/-- Slashes at the start of a text stand there when it is filled, and no others. -/
theorem trimStartOf_references (cs : List Char) :
    trimStartOf '/' (references cs) = references (trimStartOf '/' cs) := by
  induction cs with
  | nil => rfl
  | cons c cs ih =>
      by_cases hc : c = '/'
      · subst hc
        exact ih
      · have hfirst : ∃ x xs, references (c :: cs) = x :: xs ∧ x ≠ '/' := by
          rw [references, List.flatMap_cons]
          by_cases hopen : c = '\x7b'
          · rw [if_pos hopen]
            exact ⟨'$', _, rfl, by decide⟩
          · rw [if_neg hopen]
            by_cases hclose : c = '\x7d'
            · rw [if_pos hclose]
              exact ⟨')', _, rfl, by decide⟩
            · rw [if_neg hclose]
              exact ⟨c, _, rfl, hc⟩
        obtain ⟨x, xs, hreferences, hx⟩ := hfirst
        rw [trimStartOf, trimStartOf, List.dropWhile_cons_of_neg (by simpa using hc), hreferences,
          List.dropWhile_cons_of_neg (by simpa using hx)]

/-- With values, the address of a call is the endpoint with these values: alone if it is an
    address by itself, and otherwise after the base, with one slash between them. -/
theorem fill_target (value : List Char → List Char) (hbase : '$' ∉ base.toList)
    (hpath : IsTemplate path.toList) :
    Marks.reference.fill value (target base path).toList
      = if Url.isAbsolute path then Marks.placeholder.fill value path.toList
        else trimEndOf '/' base.toList
          ++ '/' :: Marks.placeholder.fill value (trimStartOf '/' path.toList) := by
  rw [target]
  by_cases habsolute : Url.isAbsolute path = true
  · rw [if_pos habsolute, if_pos habsolute, String.toList_ofList, fill_references hpath]
  · have hstart : trimEndOf '/' base.toList <+: base.toList :=
      ⟨_, Text.dropEndWhile_append_dropped _ _⟩
    have htrim : Marks.reference.first ∉ trimEndOf '/' base.toList :=
      fun hmem => hbase (hstart.subset hmem)
    have hslash : '/' ≠ Marks.reference.first := by decide
    rw [if_neg habsolute, if_neg habsolute, String.toList_ofList, joinSlash,
      Marks.fill_append_of_not_mem value htrim, Marks.fill_cons value hslash,
      trimStartOf_references, fill_references (isTemplate_trimStartOf hpath)]

/-- Two placeholders, one of them with a slash in its value, below a base that ends in
    slashes. -/
theorem fill_target_widgets :
    let path := "//farms/\x7bfarm\x7d/widgets/\x7bid\x7d"
    let value := fun name : List Char => if name = "id".toList then "7".toList else "a/b".toList
    '$' ∉ "http://h:8080//".toList ∧ IsTemplate path.toList
      ∧ target "http://h:8080//" path = "http://h:8080/farms/$($farm)/widgets/$($id)"
      ∧ Marks.reference.fill value (target "http://h:8080//" path).toList
        = "http://h:8080/farms/a/b/widgets/7".toList := by
  intro path value
  have hbase : '$' ∉ "http://h:8080//".toList := by decide
  have htext : path.toList = "//farms/".toList ++ '\x7b' :: ("farm".toList ++ '\x7d'
      :: ("/widgets/".toList ++ '\x7b' :: ("id".toList ++ '\x7d' :: []))) := by
    decide +kernel
  have hliteral : ∀ text : List Char,
      text.all (fun c => decide (c ∉ ['\x7b', '\x7d', '$', '(', ')'])) = true →
        ∀ c ∈ text, c ∉ ['\x7b', '\x7d', '$', '(', ')'] :=
    fun _ h c hc => of_decide_eq_true (List.all_eq_true.mp h c hc)
  have hpath : IsTemplate path.toList := by
    rw [htext]
    exact .literal (hliteral _ (by decide)) (.placeholder (by decide)
      (.literal (hliteral _ (by decide)) (.placeholder (by decide) .nil)))
  refine ⟨hbase, hpath, by decide +kernel, ?_⟩
  rw [fill_target value hbase hpath]
  decide +kernel

end Call

end SwaggerCmdlets
