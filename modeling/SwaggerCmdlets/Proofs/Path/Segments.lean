import SwaggerCmdlets.Command.PathTemplate

/-! # Segments — of texts put together

    Where two texts are put together, the last piece of the one and the first piece of
    the other become one (`Text.pieces_append`).  If the second text starts with a slash
    its first piece is empty, and its segments follow those of the first text
    (`segments_append_of_slash`).  If there is no slash on either side, the last segment
    of the one and the first segment of the other become one
    (`exists_segments_append`). -/

namespace SwaggerCmdlets

namespace Text

variable {sep c : Char} {xs ys last first : List Char} {front rest : List (List Char)}

/-! ## Pieces -/

theorem pieces_cons_self (sep : Char) (cs : List Char) :
    pieces sep (sep :: cs) = [] :: pieces sep cs := if_pos rfl

theorem pieces_cons_of_ne (hc : c ≠ sep) (h : pieces sep xs = first :: rest) :
    pieces sep (c :: xs) = (c :: first) :: rest := by
  rw [pieces, if_neg hc, h]

theorem exists_pieces_eq_cons (sep : Char) (cs : List Char) :
    ∃ first rest, pieces sep cs = first :: rest :=
  List.exists_cons_of_ne_nil (pieces_ne_nil sep cs)

theorem exists_pieces_eq_concat (sep : Char) (cs : List Char) :
    ∃ front last, pieces sep cs = front ++ [last] :=
  ⟨_, _, (List.dropLast_concat_getLast (pieces_ne_nil sep cs)).symm⟩

/-- Where texts are put together, the last piece of the one and the first piece of the
    other become one. -/
theorem pieces_append (hxs : pieces sep xs = front ++ [last])
    (hys : pieces sep ys = first :: rest) :
    pieces sep (xs ++ ys) = front ++ (last ++ first) :: rest := by
  induction xs generalizing front last with
  | nil =>
      have hpieces : [] ++ [[]] = front ++ [last] := hxs
      obtain ⟨rfl, hlast⟩ := List.append_inj' hpieces rfl
      obtain ⟨rfl, -⟩ := List.cons_eq_cons.mp hlast
      exact hys
  | cons c xs ih =>
      rw [List.cons_append]
      by_cases hc : c = sep
      · subst hc
        rw [pieces_cons_self] at hxs ⊢
        cases front with
        | nil => exact absurd (List.cons_eq_cons.mp hxs).2 (pieces_ne_nil c xs)
        | cons piece front =>
            obtain ⟨rfl, hrest⟩ := List.cons_eq_cons.mp hxs
            rw [ih hrest, List.cons_append]
      · obtain ⟨piece, others, hpieces⟩ := exists_pieces_eq_cons sep xs
        rw [pieces_cons_of_ne hc hpieces] at hxs
        -- the character belongs to the first piece, which may be the last one as well
        cases front with
        | nil =>
            obtain ⟨rfl, rfl⟩ := List.cons_eq_cons.mp hxs
            have hrest : pieces sep xs = [] ++ [piece] := hpieces
            exact pieces_cons_of_ne hc (ih hrest)
        | cons _ front =>
            obtain ⟨rfl, rfl⟩ := List.cons_eq_cons.mp hxs
            have hrest : pieces sep xs = (piece :: front) ++ [last] := hpieces
            exact pieces_cons_of_ne hc (ih hrest)

/-- A text that ends in another character has a last piece that ends in it. -/
theorem exists_pieces_concat (hc : c ≠ sep) (xs : List Char) :
    ∃ front last, pieces sep (xs ++ [c]) = front ++ [last ++ [c]] := by
  obtain ⟨front, last, hxs⟩ := exists_pieces_eq_concat sep xs
  exact ⟨front, last, pieces_append hxs (pieces_cons_of_ne hc rfl)⟩

end Text

namespace PathTemplate

variable {base path : String} {b c : Char} {xs ys : List Char} {ps : List (List Char)}

/-! ## Segments -/

theorem segments_of_pieces (h : Text.pieces '/' path.toList = ps) :
    segments path = ps.filter (!·.isEmpty) := by
  rw [segments, h]

/-- The segments of a text that starts with a slash follow those of the text before it. -/
theorem segments_append_of_slash (h : path.toList.head? = some '/') :
    segments (base ++ path) = segments base ++ segments path := by
  obtain ⟨ys, hpath⟩ := List.head?_eq_some_iff.mp h
  obtain ⟨front, last, hbase⟩ := Text.exists_pieces_eq_concat '/' base.toList
  have hstart : Text.pieces '/' path.toList = [] :: Text.pieces '/' ys := by
    rw [hpath, Text.pieces_cons_self]
  have happend : Text.pieces '/' (base ++ path).toList
      = (front ++ [last]) ++ Text.pieces '/' ys := by
    rw [String.toList_append, Text.pieces_append hbase hstart, List.append_nil,
      List.append_assoc]
    rfl
  rw [segments_of_pieces happend, segments_of_pieces hbase, segments_of_pieces hstart,
    List.filter_append]
  rfl

/-- Where no slash stands between two texts, the last segment of the one and the first
    segment of the other become one. -/
theorem exists_segments_append (hbase : base.toList = xs ++ [b]) (hb : b ≠ '/')
    (hpath : path.toList = c :: ys) (hc : c ≠ '/') :
    ∃ front last first rest, segments base = front ++ [last] ∧ segments path = first :: rest
      ∧ segments (base ++ path) = front ++ (last ++ first) :: rest := by
  obtain ⟨front, last, hend⟩ := Text.exists_pieces_concat hb xs
  obtain ⟨first, rest, hys⟩ := Text.exists_pieces_eq_cons '/' ys
  have hstart := Text.pieces_cons_of_ne hc hys
  rw [← hbase] at hend
  rw [← hpath] at hstart
  have happend := Text.pieces_append hend hstart
  rw [← String.toList_append] at happend
  refine ⟨front.filter (!·.isEmpty), last ++ [b], c :: first, rest.filter (!·.isEmpty),
    ?_, ?_, ?_⟩
  · rw [segments_of_pieces hend, List.filter_append]
    simp
  · rw [segments_of_pieces hstart]
    rfl
  · rw [segments_of_pieces happend, List.filter_append]
    simp

/-- Slashes have no segments. -/
theorem segments_slashes (h : ∀ c ∈ xs, c = '/') : segments (String.ofList xs) = [] := by
  rw [segments, String.toList_ofList]
  induction xs with
  | nil => rfl
  | cons c xs ih =>
      obtain ⟨rfl, hxs⟩ := List.forall_mem_cons.mp h
      rw [Text.pieces_cons_self]
      exact ih hxs

/-- A path with a subject is not empty. -/
theorem toList_ne_nil_of_shape? {shape : PathShape} (h : shape? path = some shape) :
    path.toList ≠ [] := by
  intro hnil
  obtain rfl : path = "" := String.toList_eq_nil_iff.mp hnil
  exact nomatch h

end PathTemplate

end SwaggerCmdlets
