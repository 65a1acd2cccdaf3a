import Mathlib.Data.List.Nodup
import SwaggerCmdlets.Insertion

/-! # Insertion — what a list gathers

    Taking up what is new keeps a list without repeats, and appends each element
    where it stands first (`foldl_insertNew`, `distinct_eq_eraseDups`).  Where
    elements are told apart by a key, the keys are gathered in this way
    (`map_foldl_insertBy`), and of the elements with one key the first is kept
    (`find?_foldl_insertBy`). -/

namespace SwaggerCmdlets

/-! ## Lists without repeats -/

theorem distinct_concat {α : Type} [BEq α] (xs : List α) (x : α) :
    distinct (xs ++ [x]) = insertNew (distinct xs) x := by
  rw [distinct, List.foldl_append]
  rfl

section Distinct

variable {α : Type} [BEq α] [LawfulBEq α] {xs ys : List α} {x y : α}

theorem insertNew_of_mem (h : x ∈ xs) : insertNew xs x = xs :=
  if_pos (List.contains_iff_mem.mpr h)

theorem insertNew_of_not_mem (h : x ∉ xs) : insertNew xs x = xs ++ [x] :=
  if_neg (List.contains_iff_mem.not.mpr h)

theorem mem_insertNew : y ∈ insertNew xs x ↔ y ∈ xs ∨ y = x := by
  by_cases h : x ∈ xs
  · rw [insertNew_of_mem h]
    exact ⟨Or.inl, fun hy => hy.elim id fun heq => heq ▸ h⟩
  · rw [insertNew_of_not_mem h]
    simp

/-- What differs from the head is looked for behind it. -/
theorem insertNew_cons_of_ne (h : x ≠ y) : insertNew (y :: xs) x = y :: insertNew xs x := by
  by_cases hx : x ∈ xs
  · rw [insertNew_of_mem hx, insertNew_of_mem (List.mem_cons_of_mem y hx)]
  · have hnew : x ∉ y :: xs := List.not_mem_cons_of_ne_of_not_mem h hx
    rw [insertNew_of_not_mem hx, insertNew_of_not_mem hnew, List.cons_append]

theorem mem_foldl_insertNew : y ∈ xs.foldl insertNew ys ↔ y ∈ ys ∨ y ∈ xs := by
  induction xs generalizing ys with
  | nil => simp
  | cons x xs ih => rw [List.foldl_cons, ih, mem_insertNew, List.mem_cons, or_assoc]

/-- Leaving out repeats leaves out no element. -/
theorem mem_distinct : y ∈ distinct xs ↔ y ∈ xs := by
  rw [distinct, mem_foldl_insertNew]
  simp

/-- Appending what is new repeats none of the elements with `p`. -/
theorem nodup_filter_insertNew {p : α → Bool} (h : (xs.filter p).Nodup) (x : α) :
    ((insertNew xs x).filter p).Nodup := by
  by_cases hx : x ∈ xs
  · rw [insertNew_of_mem hx]
    exact h
  · rw [insertNew_of_not_mem hx, List.filter_append]
    have hnew : x ∉ xs.filter p := fun hmem => hx (List.mem_of_mem_filter hmem)
    cases hp : p x with
    | true => simpa [hp] using List.Nodup.append h (List.nodup_singleton x) (by simpa using hnew)
    | false => simpa [hp] using h

theorem nodup_insertNew (h : xs.Nodup) (x : α) : (insertNew xs x).Nodup := by
  have hall : (xs.filter fun _ => true).Nodup := by
    rw [List.filter_true]
    exact h
  have hinsert := nodup_filter_insertNew hall x
  rwa [List.filter_true] at hinsert

theorem nodup_foldl_insertNew (h : ys.Nodup) (xs : List α) : (xs.foldl insertNew ys).Nodup := by
  induction xs generalizing ys with
  | nil => exact h
  | cons x xs ih => exact ih (nodup_insertNew h x)

theorem nodup_distinct (xs : List α) : (distinct xs).Nodup :=
  nodup_foldl_insertNew List.nodup_nil xs

/-- Appending what is new appends what is not there yet, each element where it stands
    first. -/
theorem foldl_insertNew (xs ys : List α) :
    xs.foldl insertNew ys = ys ++ (xs.removeAll ys).eraseDups := by
  induction xs generalizing ys with
  | nil => exact (List.append_nil ys).symm
  | cons x xs ih =>
      rw [List.foldl_cons, ih]
      by_cases hx : x ∈ ys
      · rw [insertNew_of_mem hx, List.cons_removeAll, if_neg (by simp [hx])]
      · -- the later elements that equal `x` are the ones that `x` makes repeats of
        have hrest : (xs.removeAll ys).filter (fun y => !y == x) = xs.removeAll (ys ++ [x]) := by
          rw [List.removeAll, List.removeAll, List.filter_filter]
          refine List.filter_congr fun y _ => ?_
          by_cases hy : y = x <;> simp [hy]
        rw [insertNew_of_not_mem hx, List.cons_removeAll, if_pos (by simp [hx]),
          List.eraseDups_cons, hrest, List.append_assoc]
        rfl

/-- Each distinct element stands where it stands first in the list. -/
theorem distinct_eq_eraseDups (xs : List α) : distinct xs = xs.eraseDups := by
  have hall : xs.removeAll [] = xs := List.filter_eq_self.mpr fun _ _ => rfl
  rw [distinct, foldl_insertNew, hall, List.nil_append]

end Distinct

/-! ## Rows of one element a key

    Parameters and declarations are kept by name: the first of a name stays. -/

section InsertBy

variable {α : Type} (key : α → String)

theorem any_key_iff {xs : List α} {k : String} : xs.any (key · == k) = true ↔ k ∈ xs.map key := by
  simp

theorem insertBy_of_mem {xs : List α} {x : α} (h : key x ∈ xs.map key) :
    insertBy key xs x = xs :=
  if_pos ((any_key_iff key).mpr h)

theorem insertBy_of_not_mem {xs : List α} {x : α} (h : key x ∉ xs.map key) :
    insertBy key xs x = xs ++ [x] :=
  if_neg ((any_key_iff key).not.mpr h)

/-- Appending an element appends its key, unless it is there. -/
theorem map_insertBy (xs : List α) (x : α) :
    (insertBy key xs x).map key = insertNew (xs.map key) (key x) := by
  by_cases h : key x ∈ xs.map key
  · rw [insertBy_of_mem key h, insertNew_of_mem h]
  · rw [insertBy_of_not_mem key h, insertNew_of_not_mem h, List.map_append]
    rfl

theorem map_foldl_insertBy (xs ys : List α) :
    (xs.foldl (insertBy key) ys).map key = (xs.map key).foldl insertNew (ys.map key) := by
  induction xs generalizing ys with
  | nil => rfl
  | cons x xs ih => rw [List.foldl_cons, ih, map_insertBy, List.map_cons, List.foldl_cons]

/-- What a key finds is what it found first. -/
theorem find?_foldl_insertBy (xs ys : List α) (k : String) :
    (xs.foldl (insertBy key) ys).find? (key · == k) = (ys ++ xs).find? (key · == k) := by
  induction xs generalizing ys with
  | nil => rw [List.append_nil, List.foldl_nil]
  | cons x xs ih =>
      rw [List.foldl_cons, ih]
      by_cases hx : key x ∈ ys.map key
      · rw [insertBy_of_mem key hx, List.find?_append, List.find?_append, List.find?_cons]
        -- a key that finds `x` finds an element of `ys` before
        cases hy : ys.find? (key · == k) with
        | some y => rfl
        | none =>
            have hne : (key x == k) = false := by
              rw [beq_eq_false_iff_ne]
              rintro rfl
              obtain ⟨y, hmem, hkey⟩ := List.mem_map.mp hx
              exact List.find?_eq_none.mp hy y hmem (beq_iff_eq.mpr hkey)
            rw [hne]
      · rw [insertBy_of_not_mem key hx, List.append_assoc]
        rfl

variable {key}

theorem key_of_find? {xs : List α} {x : α} {k : String} (h : xs.find? (key · == k) = some x) :
    key x = k := by
  have hkey := List.find?_some h
  exact eq_of_beq hkey

/-- Among elements with different keys, each is found by its key. -/
theorem find?_key_of_nodup {xs : List α} (h : (xs.map key).Nodup) {x : α} (hx : x ∈ xs) :
    xs.find? (key · == key x) = some x := by
  induction xs with
  | nil => exact nomatch hx
  | cons y xs ih =>
      rw [List.map_cons, List.nodup_cons] at h
      rw [List.find?_cons]
      rcases List.mem_cons.mp hx with rfl | hmem
      · rw [beq_self_eq_true]
      · have hne : (key y == key x) = false := by
          rw [beq_eq_false_iff_ne]
          exact fun heq => h.1 (heq ▸ List.mem_map_of_mem hmem)
        rw [hne]
        exact ih h.2 hmem

/-- What is kept is the first of its key. -/
theorem mem_foldl_insertBy {xs : List α} {x : α} :
    x ∈ xs.foldl (insertBy key) [] ↔ xs.find? (key · == key x) = some x := by
  have hfind := find?_foldl_insertBy key xs [] (key x)
  rw [List.nil_append] at hfind
  rw [← hfind]
  constructor
  · intro h
    refine find?_key_of_nodup ?_ h
    rw [map_foldl_insertBy]
    exact nodup_distinct _
  · exact List.mem_of_find?_eq_some

end InsertBy

end SwaggerCmdlets
