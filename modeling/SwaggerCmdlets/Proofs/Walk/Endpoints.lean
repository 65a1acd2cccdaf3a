import Mathlib.Data.List.Forall2
import Mathlib.Data.List.TakeWhile
import SwaggerCmdlets.Proofs.Path.Segments
import SwaggerCmdlets.Proofs.Walk.Parts

/-! # Endpoints — base path and path, put together

    An endpoint is the base path of its description without the slashes at its end,
    directly followed by the path of its entry.  No slash is put between the two.

    So the segments of the path follow those of the base path only where the path starts
    with a slash, or where there is no base path.  Anywhere else two segments become one
    (`Description.joins_endpointPrefix`).  This is so for the endpoint of every
    descriptor (`Walk.addEndpoint_joins`), and where the base path is an address, its
    host may become a different one (`Walk.addEndpoint_glues`). -/

namespace SwaggerCmdlets

open PathTemplate (segments shape?)

variable {base path endpoint : String}

/-! ## Base paths -/

namespace Description

/-- A base path is what stands before each endpoint, and slashes. -/
theorem exists_endpointPrefix_append (d : Description) :
    ∃ slashes : List Char, (∀ c ∈ slashes, c = '/')
      ∧ d.basePath.getD "" = d.endpointPrefix ++ String.ofList slashes := by
  let cs := (d.basePath.getD "").toList
  refine ⟨(cs.reverse.takeWhile (· == '/')).reverse, ?_, String.toList_inj.mp ?_⟩
  · intro c hc
    have hslash := List.mem_takeWhile_imp (List.mem_reverse.mp hc)
    exact eq_of_beq hslash
  · rw [String.toList_append, endpointPrefix, String.toList_ofList, String.toList_ofList]
    exact (Text.dropEndWhile_append_dropped (· == '/') cs).symm

/-- The slashes at the end of a base path do not count. -/
theorem segments_endpointPrefix (d : Description) :
    segments d.endpointPrefix = segments (d.basePath.getD "") := by
  obtain ⟨slashes, hslashes, hbase⟩ := exists_endpointPrefix_append d
  rw [hbase]
  cases slashes with
  | nil => rw [String.ofList_nil, String.append_empty]
  | cons c rest =>
      have hc : c = '/' := hslashes c List.mem_cons_self
      rw [PathTemplate.segments_append_of_slash, PathTemplate.segments_slashes hslashes,
        List.append_nil]
      rw [String.toList_ofList, hc]
      rfl

/-- What stands before an endpoint is nothing, or it ends in something else than a slash. -/
theorem endpointPrefix_cases (d : Description) :
    d.endpointPrefix = "" ∨ ∃ xs b, d.endpointPrefix.toList = xs ++ [b] ∧ b ≠ '/' := by
  rcases List.eq_nil_or_concat d.endpointPrefix.toList with hnil | ⟨xs, b, hconcat⟩
  · exact Or.inl (String.toList_eq_nil_iff.mp hnil)
  · rw [List.concat_eq_append] at hconcat
    refine Or.inr ⟨xs, b, hconcat, ?_⟩
    rw [endpointPrefix, String.toList_ofList, Text.trimEndOf, Text.dropEndWhile,
      List.reverse_eq_append_iff] at hconcat
    have hhead := List.head?_dropWhile_not (· == '/') (d.basePath.getD "").toList.reverse
    rw [hconcat] at hhead
    exact ne_of_beq_false hhead

end Description

/-! ## Descriptors of an endpoint -/

/-- How the segments of an endpoint come about: those of the path follow those of the
    base path exactly if the path starts with a slash or the base path has none; and
    otherwise the last segment of the base path and the first one of the path are one. -/
structure Joins (base path endpoint : String) : Prop where
  follows_iff : segments endpoint = segments base ++ segments path ↔
    path.toList.head? = some '/' ∨ segments base = []
  glued : ¬ (path.toList.head? = some '/' ∨ segments base = []) →
    ∃ front last first rest, segments base = front ++ [last] ∧ segments path = first :: rest
      ∧ segments endpoint = front ++ (last ++ first) :: rest

theorem joins_of_follows (hcase : path.toList.head? = some '/' ∨ segments base = [])
    (h : segments endpoint = segments base ++ segments path) : Joins base path endpoint where
  follows_iff := iff_of_true h hcase
  glued := fun hnot => absurd hcase hnot

theorem joins_of_glued {front rest : List (List Char)} {last first : List Char}
    (hslash : ¬ path.toList.head? = some '/') (hbase : segments base = front ++ [last])
    (hpath : segments path = first :: rest)
    (h : segments endpoint = front ++ (last ++ first) :: rest) : Joins base path endpoint where
  follows_iff := by
    refine iff_of_false ?_ ?_
    · -- there is one segment less
      intro hfollows
      rw [h, hbase, hpath] at hfollows
      have hlength := congrArg List.length hfollows
      simp at hlength
    · rintro (hhead | hnil)
      · exact hslash hhead
      · rw [hbase] at hnil
        exact List.append_ne_nil_of_right_ne_nil _ (List.cons_ne_nil _ _) hnil
  glued := fun _ => ⟨front, last, first, rest, hbase, hpath, h⟩

/-- What stands before an endpoint joins with every path that is not empty. -/
theorem Description.joins_endpointPrefix (d : Description) (hpath : path.toList ≠ []) :
    Joins (d.basePath.getD "") path (d.endpointPrefix ++ path) := by
  have hbase := d.segments_endpointPrefix
  obtain ⟨c, ys, hcons⟩ := List.exists_cons_of_ne_nil hpath
  by_cases hslash : path.toList.head? = some '/'
  · refine joins_of_follows (Or.inl hslash) ?_
    rw [PathTemplate.segments_append_of_slash hslash, hbase]
  · rcases d.endpointPrefix_cases with hempty | ⟨xs, b, hconcat, hb⟩
    · have hnil : segments (d.basePath.getD "") = [] := by
        rw [← hbase, hempty]
        rfl
      refine joins_of_follows (Or.inr hnil) ?_
      rw [hnil, hempty, String.empty_append]
      rfl
    · have hc : c ≠ '/' := by
        rintro rfl
        exact hslash (congrArg List.head? hcons)
      obtain ⟨front, last, first, rest, hfront, hfirst, happend⟩ :=
        PathTemplate.exists_segments_append hconcat hb hcons hc
      rw [hbase] at hfront
      exact joins_of_glued hslash hfront hfirst happend

namespace Walk

/-- However it ends, adding operations adds a descriptor for each one before the first
    with an unsupported method. -/
theorem exists_addOperations (shape : PathShape) (endpoint : String) (ops : List Operation)
    (s : Session) :
    ∃ added, (addOperations shape endpoint ops s).session.descriptors = s.descriptors ++ added
      ∧ List.Forall₂ (fun op x => Descriptor.ofOperation? shape endpoint op = some x)
        (ops.takeWhile fun op => (Action.ofMethod? op.method).isSome) added := by
  induction ops generalizing s with
  | nil => exact ⟨[], (List.append_nil _).symm, .nil⟩
  | cons op ops ih =>
      rw [addOperations, List.takeWhile_cons, ← ofOperation?_isSome shape endpoint]
      cases hx : Descriptor.ofOperation? shape endpoint op with
      | none => exact ⟨[], (List.append_nil _).symm, .nil⟩
      | some x =>
          obtain ⟨added, hadded, hall⟩ := ih (s.addDescriptor x)
          refine ⟨x :: added, ?_, .cons hx hall⟩
          rw [hadded, List.append_cons]
          rfl

/-- An endpoint whose path has a subject adds a descriptor for each operation before the
    first one with an unsupported method, and the endpoint of each descriptor has the
    segments of the base path and those of the path, one after the other or joined. -/
theorem addEndpoint_joins (d : Description) {path : String} {shape : PathShape}
    (h : shape? path = some shape) (ops : List Operation) (s : Session) :
    ∃ added, (addEndpoint d.endpointPrefix path ops s).session.descriptors
        = s.descriptors ++ added
      ∧ List.Forall₂
        (fun op x => Action.ofMethod? op.method = some x.action
          ∧ Joins (d.basePath.getD "") path x.endpoint)
        (ops.takeWhile fun op => (Action.ofMethod? op.method).isSome) added := by
  rw [addEndpoint, h]
  obtain ⟨added, hadded, hall⟩ := exists_addOperations shape (d.endpointPrefix ++ path) ops s
  refine ⟨added, hadded, hall.imp fun op x hx => ?_⟩
  obtain ⟨action, haction, rfl⟩ := Option.map_eq_some_iff.mp hx
  exact ⟨haction, d.joins_endpointPrefix (PathTemplate.toList_ne_nil_of_shape? h)⟩

/-- A path without a slash at its start, after a base path with one at its end. -/
theorem addEndpoint_joins_widgets :
    let d : Description := { Description.empty with basePath := some "/api/" }
    shape? "widgets" = some ⟨"widgets", [.subject "widgets"]⟩
      ∧ (addEndpoint d.endpointPrefix "widgets" [⟨"GET", []⟩, ⟨"HEAD", []⟩]
          .empty).session.descriptors
        = [⟨.read, "widgets", "/apiwidgets", [.subject "widgets"], "allwidgets"⟩]
      ∧ Joins "/api/" "widgets" "/apiwidgets" := by
  intro d
  have h : shape? "widgets" = some ⟨"widgets", [.subject "widgets"]⟩ := by decide +kernel
  have hdescriptors :
      (addEndpoint d.endpointPrefix "widgets" [⟨"GET", []⟩, ⟨"HEAD", []⟩]
          .empty).session.descriptors
        = [⟨.read, "widgets", "/apiwidgets", [.subject "widgets"], "allwidgets"⟩] := by
    decide +kernel
  refine ⟨h, hdescriptors, ?_⟩
  obtain ⟨added, hadded, hall⟩ := addEndpoint_joins d h [⟨"GET", []⟩, ⟨"HEAD", []⟩] .empty
  obtain rfl := hdescriptors.symm.trans hadded
  cases hall with
  | cons hjoins _ => exact hjoins.2

/-- The first segment of a path becomes part of the last one of the base path, and so
    part of the host where the base path is only that. -/
theorem addEndpoint_glues :
    let endpoints (base path : String) : List String :=
      (addEndpoint { Description.empty with basePath := some base }.endpointPrefix path
        [⟨"GET", []⟩] .empty).session.descriptors.map (·.endpoint)
    endpoints "/api" "widgets" = ["/apiwidgets"]
      ∧ segments "/apiwidgets" ≠ segments "/api" ++ segments "widgets"
      ∧ endpoints "http://api.example.com" "widgets" = ["http://api.example.comwidgets"]
      ∧ segments "http://api.example.comwidgets"
        ≠ segments "http://api.example.com" ++ segments "widgets" := by
  decide +kernel

end Walk

end SwaggerCmdlets
