import Mathlib.Data.List.Forall2
import SwaggerCmdlets.Description.Basic

/-! # Entries — what the rows of a description are read as

    What a value declares is said key by key: a parameter (`Parameter.DeclaredBy`), a
    row of parameters, of which those without a name are passed over
    (`Parameter.ListedBy`), an operation, an entry.  An entry needs a path, and each
    operation of a list of them needs a method (`Entry.IsAccepted`); nothing else can
    be wrong with it.

    The rows of a description are read exactly as what they declare, one entry for
    each value, and otherwise the first value that cannot be an entry decides on the
    failure (`Description.entries_reads`). -/

namespace SwaggerCmdlets

open Json

/-! ## Values under keys -/

namespace Json.Value

variable {o : Option Value} {s : String}

/-- The items under a key; none if there is no list. -/
def itemsUnder (v : Value) (key : String) : List Value := ((v.get? key).bind array?).getD []

theorem bind_string?_eq_some_iff : o.bind string? = some s ↔ o = some (string s) := by
  constructor
  · intro h
    obtain ⟨v, rfl, hv⟩ := Option.bind_eq_some_iff.mp h
    cases v with
    | string t => exact congrArg (some ∘ string) (Option.some.inj hv)
    | _ => exact nomatch hv
  · rintro rfl
    rfl

theorem bind_string?_eq_none_iff : o.bind string? = none ↔ ∀ s, o ≠ some (string s) := by
  rw [Option.eq_none_iff_forall_ne_some]
  exact forall_congr' fun s => not_congr bind_string?_eq_some_iff

/-- Items stand in a list. -/
theorem mem_itemsUnder_iff {v item : Value} {key : String} :
    item ∈ v.itemsUnder key ↔ ∃ items, v.get? key = some (array items) ∧ item ∈ items := by
  rw [itemsUnder]
  cases hkey : v.get? key with
  | none => simp
  | some under =>
      cases under with
      | array items => simp [array?]
      | _ => simp [array?]

/-- Only an object has keys. -/
theorem exists_eq_object {v under : Value} {key : String} (h : v.get? key = some under) :
    ∃ members, v = object members := by
  cases v with
  | object members => exact ⟨members, rfl⟩
  | _ => exact nomatch h

end Json.Value

/-! ## What a value declares -/

/-- The value is the specification of a body. -/
def IsBodySpec (v : Value) : Prop := v.get? "paramType" = some (.string "body")

/-- The specification declares the parameter: a body, which is named for what it is, or
    another one by its name. -/
inductive Parameter.DeclaredBy : Value → Parameter → Prop where
  | body {spec : Members} :
      IsBodySpec (.object spec) →
        DeclaredBy (.object spec) ⟨bodyName, .named (declaredType spec)⟩
  | named {spec : Members} {name : String} :
      ¬ IsBodySpec (.object spec) → (Value.object spec).get? "name" = some (.string name) →
        DeclaredBy (.object spec) ⟨name, .named (declaredType spec)⟩

/-- The value is neither the specification of a body nor one with a name. -/
def Parameter.Nameless (v : Value) : Prop :=
  ¬ IsBodySpec v ∧ ∀ name, v.get? "name" ≠ some (.string name)

/-- The values declare the parameters in order, and only nameless ones are left out. -/
inductive Parameter.ListedBy : List Value → List Parameter → Prop where
  | nil : ListedBy [] []
  | left_out {v : Value} {vs : List Value} {ps : List Parameter} :
      Nameless v → ListedBy vs ps → ListedBy (v :: vs) ps
  | declared {v : Value} {vs : List Value} {p : Parameter} {ps : List Parameter} :
      DeclaredBy v p → ListedBy vs ps → ListedBy (v :: vs) (p :: ps)

/-- The value has no method. -/
def Operation.Methodless (v : Value) : Prop := ∀ method, v.get? "method" ≠ some (.string method)

/-- The value declares the operation: its method, and its parameters if they are a list. -/
structure Operation.DeclaredBy (v : Value) (op : Operation) : Prop where
  method : v.get? "method" = some (.string op.method)
  parameters : Parameter.ListedBy (v.itemsUnder "parameters") op.parameters

/-- The value declares the entry: a reference without operations, an endpoint with those
    of a list, and with none if they are no list. -/
inductive Entry.DeclaredBy (v : Value) : Entry → Prop where
  | reference {path : String} :
      v.get? "path" = some (.string path) → v.get? "operations" = none →
        DeclaredBy v (.reference path)
  | endpoint {path : String} {ops : List Operation} :
      v.get? "path" = some (.string path) → v.get? "operations" ≠ none →
        List.Forall₂ Operation.DeclaredBy (v.itemsUnder "operations") ops →
        DeclaredBy v (.endpoint path ops)

/-- The value has no path. -/
def Entry.Pathless (v : Value) : Prop := ∀ path, v.get? "path" ≠ some (.string path)

/-- The value has a path, and every operation of a list of them has a method. -/
structure Entry.IsAccepted (v : Value) : Prop where
  path : ∃ path, v.get? "path" = some (.string path)
  methods : ∀ items, v.get? "operations" = some (.array items) →
    ∀ op ∈ items, ∃ method, op.get? "method" = some (.string method)

/-- The failure that the value means for the document at an address: it has no path, or it
    has one and an operation of it has no method. -/
inductive Entry.FailsBy (uri : String) (v : Value) : Failure → Prop where
  | pathless : Pathless v → FailsBy uri v (.malformed uri "api entry without a path")
  | methodless {path : String} {items : List Value} {op : Value} :
      v.get? "path" = some (.string path) → v.get? "operations" = some (.array items) →
        op ∈ items → Operation.Methodless op → FailsBy uri v (.method "<missing>" path)

/-! ## Parameters -/

namespace Parameter

variable {v : Value} {p : Parameter} {vs : List Value} {ps : List Parameter}

theorem ofValue?_of_body {spec : Members} (h : IsBodySpec (.object spec)) :
    ofValue? (.object spec) = some ⟨bodyName, .named (declaredType spec)⟩ := by
  have hkind : ((spec.get? "paramType").bind Value.string? == some "body") = true :=
    beq_iff_eq.mpr (Value.bind_string?_eq_some_iff.mpr h)
  simp only [ofValue?, Value.object?, Option.bind_some, hkind, if_true, Option.map_some]

theorem ofValue?_of_not_body {spec : Members} (h : ¬ IsBodySpec (.object spec)) :
    ofValue? (.object spec) = (((Value.object spec).get? "name").bind Value.string?).map
      fun name => ⟨name, .named (declaredType spec)⟩ := by
  have hkind : ¬ ((spec.get? "paramType").bind Value.string? == some "body") = true :=
    fun hkind => h (Value.bind_string?_eq_some_iff.mp (beq_iff_eq.mp hkind))
  simp only [ofValue?, Value.get?, Value.object?, Option.bind_some, if_neg hkind]

/-- A value is read as the parameter that it declares. -/
theorem ofValue?_eq_some_iff : ofValue? v = some p ↔ DeclaredBy v p := by
  constructor
  · intro h
    cases v with
    | object spec =>
        by_cases hbody : IsBodySpec (.object spec)
        · rw [ofValue?_of_body hbody] at h
          obtain rfl := Option.some.inj h
          exact .body hbody
        · rw [ofValue?_of_not_body hbody] at h
          obtain ⟨name, hname, rfl⟩ := Option.map_eq_some_iff.mp h
          exact .named hbody (Value.bind_string?_eq_some_iff.mp hname)
    | _ => exact nomatch h
  · intro h
    cases h with
    | body hbody => exact ofValue?_of_body hbody
    | named hbody hname =>
        rw [ofValue?_of_not_body hbody, Value.bind_string?_eq_some_iff.mpr hname, Option.map_some]

/-- Nothing is read of a value without a name. -/
theorem ofValue?_eq_none_iff : ofValue? v = none ↔ Nameless v := by
  constructor
  · intro h
    have hnot : ∀ p, ¬ DeclaredBy v p := fun p hp =>
      Option.some_ne_none p ((ofValue?_eq_some_iff.mpr hp).symm.trans h)
    have hbody : ¬ IsBodySpec v := by
      intro hbody
      obtain ⟨spec, rfl⟩ := Value.exists_eq_object hbody
      exact hnot _ (.body hbody)
    refine ⟨hbody, fun name hname => ?_⟩
    obtain ⟨spec, rfl⟩ := Value.exists_eq_object hname
    exact hnot _ (.named hbody hname)
  · rintro ⟨hbody, hname⟩
    rw [Option.eq_none_iff_forall_ne_some]
    intro p hp
    cases ofValue?_eq_some_iff.mp hp with
    | body h => exact hbody h
    | named _ h => exact hname _ h

/-- A row of values is read as the parameters that it lists. -/
theorem filterMap_ofValue?_eq_iff : vs.filterMap ofValue? = ps ↔ ListedBy vs ps := by
  constructor
  · rintro rfl
    induction vs with
    | nil => exact .nil
    | cons v vs ih =>
        cases hv : ofValue? v with
        | none =>
            rw [List.filterMap_cons_none hv]
            exact .left_out (ofValue?_eq_none_iff.mp hv) ih
        | some p =>
            rw [List.filterMap_cons_some hv]
            exact .declared (ofValue?_eq_some_iff.mp hv) ih
  · intro h
    induction h with
    | nil => rfl
    | left_out hv _ ih => rw [List.filterMap_cons_none (ofValue?_eq_none_iff.mpr hv), ih]
    | declared hv _ ih => rw [List.filterMap_cons_some (ofValue?_eq_some_iff.mpr hv), ih]

end Parameter

/-! ## Operations -/

namespace Operation

variable {v : Value} {op : Operation} {vs : List Value} {ops : List Operation}

/-- A value is read as the operation that it declares. -/
theorem ofValue?_eq_some_iff : ofValue? v = some op ↔ DeclaredBy v op := by
  rw [ofValue?, Option.map_eq_some_iff]
  constructor
  · rintro ⟨method, hmethod, rfl⟩
    exact ⟨Value.bind_string?_eq_some_iff.mp hmethod, Parameter.filterMap_ofValue?_eq_iff.mp rfl⟩
  · rintro ⟨hmethod, hparameters⟩
    refine ⟨op.method, Value.bind_string?_eq_some_iff.mpr hmethod, ?_⟩
    have hread := Parameter.filterMap_ofValue?_eq_iff.mpr hparameters
    exact congrArg (Operation.mk op.method) hread

/-- Nothing is read of a value without a method. -/
theorem ofValue?_eq_none_iff : ofValue? v = none ↔ Methodless v := by
  rw [ofValue?, Option.map_eq_none_iff]
  exact Value.bind_string?_eq_none_iff

/-- A row of values is read as the operations that they declare. -/
theorem listOf?_eq_some_iff : listOf? vs = some ops ↔ List.Forall₂ DeclaredBy vs ops := by
  induction vs generalizing ops with
  | nil => rw [List.forall₂_nil_left_iff, listOf?, Option.some_inj, eq_comm]
  | cons v vs ih =>
      rw [List.forall₂_cons_left_iff, listOf?]
      constructor
      · intro h
        split at h
        · rename_i op rest hv hvs
          obtain rfl := Option.some.inj h
          exact ⟨op, rest, ofValue?_eq_some_iff.mp hv, ih.mp hvs, rfl⟩
        · exact nomatch h
      · rintro ⟨op, rest, hv, hvs, rfl⟩
        rw [ofValue?_eq_some_iff.mpr hv, ih.mpr hvs]

/-- A row of values cannot be read if one of them has no method. -/
theorem listOf?_eq_none_iff : listOf? vs = none ↔ ∃ v ∈ vs, Methodless v := by
  induction vs with
  | nil => simp [listOf?]
  | cons v vs ih =>
      rw [List.exists_mem_cons_iff, ← ih, ← ofValue?_eq_none_iff, listOf?]
      cases ofValue? v <;> cases listOf? vs <;> simp

end Operation

/-! ## Entries -/

namespace Entry

variable {v : Value} {e : Entry} {vs : List Value} {es : List Entry} {path : String}
  {fault : EntryFault}

theorem ofValue_of_pathless (h : Pathless v) : ofValue v = .error .noPath := by
  have hpath :
      (v.object?.bind fun spec => (Members.get? spec "path").bind Value.string?) = none := by
    rw [← Option.bind_assoc]
    exact Value.bind_string?_eq_none_iff.mpr h
  rw [ofValue, hpath]

theorem ofValue_of_path (h : v.get? "path" = some (.string path)) :
    ofValue v = match v.get? "operations" with
      | none => .ok (.reference path)
      | some _ => match Operation.listOf? (v.itemsUnder "operations") with
        | some ops => .ok (.endpoint path ops)
        | none => .error (.noMethod path) := by
  have hpath : (v.object?.bind fun spec => (Members.get? spec "path").bind Value.string?)
      = some path := by
    rw [← Option.bind_assoc]
    exact Value.bind_string?_eq_some_iff.mpr h
  rw [ofValue, hpath, Value.itemsUnder]
  cases v.get? "operations" with
  | none => rfl
  | some operations => rfl

/-- What reading a value can come to: it has no path, an operation of it has no method, or
    it declares an entry. -/
theorem ofValue_cases (v : Value) :
    (Pathless v ∧ ofValue v = .error .noPath)
      ∨ (∃ path, v.get? "path" = some (.string path)
        ∧ (∃ op ∈ v.itemsUnder "operations", Operation.Methodless op)
        ∧ ofValue v = .error (.noMethod path))
      ∨ ∃ e, DeclaredBy v e ∧ ofValue v = .ok e := by
  cases hpath : (v.get? "path").bind Value.string? with
  | none =>
      have hpathless : Pathless v := Value.bind_string?_eq_none_iff.mp hpath
      exact .inl ⟨hpathless, ofValue_of_pathless hpathless⟩
  | some path =>
      replace hpath := Value.bind_string?_eq_some_iff.mp hpath
      rw [ofValue_of_path hpath]
      cases hkey : v.get? "operations" with
      | none => exact .inr (.inr ⟨_, .reference hpath hkey, rfl⟩)
      | some operations =>
          cases hops : Operation.listOf? (v.itemsUnder "operations") with
          | none => exact .inr (.inl ⟨path, hpath, Operation.listOf?_eq_none_iff.mp hops, rfl⟩)
          | some ops =>
              have hgiven : v.get? "operations" ≠ none := by
                rw [hkey]
                exact Option.some_ne_none operations
              have hread := Operation.listOf?_eq_some_iff.mp hops
              exact .inr (.inr ⟨_, .endpoint hpath hgiven hread, rfl⟩)

/-- A value is read as the entry that it declares. -/
theorem ofValue_eq_ok_iff : ofValue v = .ok e ↔ DeclaredBy v e := by
  constructor
  · intro h
    rcases ofValue_cases v with ⟨-, hv⟩ | ⟨path, -, -, hv⟩ | ⟨e', he', hv⟩
    · exact nomatch hv.symm.trans h
    · exact nomatch hv.symm.trans h
    · obtain rfl := Except.ok.inj (hv.symm.trans h)
      exact he'
  · intro h
    cases h with
    | reference hpath hkey => rw [ofValue_of_path hpath, hkey]
    | endpoint hpath hkey hops =>
        obtain ⟨operations, hoperations⟩ := Option.ne_none_iff_exists'.mp hkey
        rw [ofValue_of_path hpath, hoperations, Operation.listOf?_eq_some_iff.mpr hops]

theorem ofValue_of_methodless {op : Value} {items : List Value}
    (hpath : v.get? "path" = some (.string path))
    (hkey : v.get? "operations" = some (.array items)) (hop : op ∈ items)
    (h : Operation.Methodless op) : ofValue v = .error (.noMethod path) := by
  have hnone : Operation.listOf? (v.itemsUnder "operations") = none :=
    Operation.listOf?_eq_none_iff.mpr ⟨op, Value.mem_itemsUnder_iff.mpr ⟨items, hkey, hop⟩, h⟩
  rw [ofValue_of_path hpath, hkey, hnone]

/-- A value that is not read means the failure of what is wrong with it. -/
theorem failsBy_iff {uri : String} {failure : Failure} :
    FailsBy uri v failure
      ↔ ∃ fault, ofValue v = .error fault ∧ Description.entryFailure uri fault = failure := by
  constructor
  · intro h
    cases h with
    | pathless hpath => exact ⟨_, ofValue_of_pathless hpath, rfl⟩
    | methodless hpath hkey hop h => exact ⟨_, ofValue_of_methodless hpath hkey hop h, rfl⟩
  · rintro ⟨fault, hfault, rfl⟩
    rcases ofValue_cases v with ⟨hpath, hv⟩ | ⟨path, hpath, ⟨op, hop, h⟩, hv⟩ | ⟨e, -, hv⟩
    · obtain rfl := Except.error.inj (hv.symm.trans hfault)
      exact .pathless hpath
    · obtain rfl := Except.error.inj (hv.symm.trans hfault)
      obtain ⟨items, hkey, hmem⟩ := Value.mem_itemsUnder_iff.mp hop
      exact .methodless hpath hkey hmem h
    · exact nomatch hv.symm.trans hfault

/-- The values that are accepted are those that are read. -/
theorem isAccepted_iff : IsAccepted v ↔ ∃ e, ofValue v = .ok e := by
  constructor
  · rintro ⟨⟨path, hpath⟩, hmethods⟩
    rcases ofValue_cases v with ⟨hnone, -⟩ | ⟨path, -, ⟨op, hop, h⟩, -⟩ | ⟨e, -, hv⟩
    · exact absurd hpath (hnone path)
    · obtain ⟨items, hkey, hmem⟩ := Value.mem_itemsUnder_iff.mp hop
      obtain ⟨method, hmethod⟩ := hmethods items hkey op hmem
      exact absurd hmethod (h method)
    · exact ⟨e, hv⟩
  · rintro ⟨e, he⟩
    have hpath : ∃ path, v.get? "path" = some (.string path) := by
      cases ofValue_eq_ok_iff.mp he with
      | reference hpath _ => exact ⟨_, hpath⟩
      | endpoint hpath _ _ => exact ⟨_, hpath⟩
    refine ⟨hpath, fun items hkey op hop => ?_⟩
    by_contra hnone
    obtain ⟨path, hpath⟩ := hpath
    exact nomatch he.symm.trans (ofValue_of_methodless hpath hkey hop (not_exists.mp hnone))

/-! ## Rows of entries -/

/-- A row of values is read one by one. -/
theorem listOf_eq_ok_iff : listOf vs = .ok es ↔ List.Forall₂ DeclaredBy vs es := by
  induction vs generalizing es with
  | nil => rw [List.forall₂_nil_left_iff, listOf, Except.ok.injEq, eq_comm]
  | cons v vs ih =>
      rw [List.forall₂_cons_left_iff, listOf]
      constructor
      · intro h
        cases hv : ofValue v with
        | error fault =>
            rw [hv] at h
            exact nomatch h
        | ok e =>
            rw [hv] at h
            cases hvs : listOf vs with
            | error fault =>
                rw [hvs] at h
                exact nomatch h
            | ok rest =>
                rw [hvs] at h
                obtain rfl := Except.ok.inj h
                exact ⟨e, rest, ofValue_eq_ok_iff.mp hv, ih.mp hvs, rfl⟩
      · rintro ⟨e, rest, hv, hvs, rfl⟩
        rw [ofValue_eq_ok_iff.mpr hv, ih.mpr hvs]
        rfl

/-- The first value that is not read decides. -/
theorem listOf_eq_error_iff :
    listOf vs = .error fault ↔ ∃ before v after, vs = before ++ v :: after
      ∧ (∀ w ∈ before, IsAccepted w) ∧ ofValue v = .error fault := by
  induction vs with
  | nil =>
      refine iff_of_false (fun h => nomatch h) ?_
      rintro ⟨before, v, after, h, -⟩
      exact List.append_ne_nil_of_right_ne_nil before (List.cons_ne_nil v after) h.symm
  | cons v vs ih =>
      rw [listOf]
      constructor
      · intro h
        cases hv : ofValue v with
        | error fault' =>
            rw [hv] at h
            obtain rfl := Except.error.inj h
            exact ⟨[], v, vs, rfl, List.forall_mem_nil _, hv⟩
        | ok e =>
            rw [hv] at h
            cases hvs : listOf vs with
            | ok rest =>
                rw [hvs] at h
                exact nomatch h
            | error fault' =>
                rw [hvs] at h
                obtain rfl := Except.error.inj h
                obtain ⟨before, w, after, rfl, hbefore, hw⟩ := ih.mp hvs
                refine ⟨v :: before, w, after, rfl, ?_, hw⟩
                exact List.forall_mem_cons.mpr ⟨isAccepted_iff.mpr ⟨e, hv⟩, hbefore⟩
      · rintro ⟨before, w, after, hsplit, hbefore, hw⟩
        cases before with
        | nil =>
            obtain ⟨rfl, rfl⟩ := List.cons_eq_cons.mp hsplit
            rw [hw]
        | cons first before =>
            obtain ⟨rfl, rfl⟩ := List.cons_eq_cons.mp hsplit
            obtain ⟨hfirst, hbefore⟩ := List.forall_mem_cons.mp hbefore
            obtain ⟨e, he⟩ := isAccepted_iff.mp hfirst
            rw [he, ih.mpr ⟨before, w, after, rfl, hbefore, hw⟩]
            rfl

/-- A row of values is read if all of them are accepted. -/
theorem exists_listOf_iff : (∃ es, listOf vs = .ok es) ↔ ∀ v ∈ vs, IsAccepted v := by
  induction vs with
  | nil => exact iff_of_true ⟨[], rfl⟩ (List.forall_mem_nil _)
  | cons v vs ih =>
      rw [List.forall_mem_cons, ← ih, isAccepted_iff]
      simp only [listOf_eq_ok_iff, ofValue_eq_ok_iff, List.forall₂_cons_left_iff]
      constructor
      · rintro ⟨es, e, rest, hv, hvs, rfl⟩
        exact ⟨⟨e, hv⟩, ⟨rest, hvs⟩⟩
      · rintro ⟨⟨e, hv⟩, ⟨rest, hvs⟩⟩
        exact ⟨e :: rest, e, rest, hv, hvs, rfl⟩

end Entry

namespace Description

variable {d : Description} {uri : String}

theorem entries_eq_ok_iff {es : List Entry} :
    d.entries uri = .ok es ↔ Entry.listOf d.apis = .ok es := by
  rw [entries]
  cases Entry.listOf d.apis with
  | ok read => simp [Except.mapError]
  | error fault => simp [Except.mapError]

theorem entries_eq_error_iff {failure : Failure} :
    d.entries uri = .error failure
      ↔ ∃ fault, Entry.listOf d.apis = .error fault ∧ entryFailure uri fault = failure := by
  rw [entries]
  cases Entry.listOf d.apis with
  | ok read =>
      refine iff_of_false (nomatch ·) ?_
      rintro ⟨fault, h, -⟩
      exact nomatch h
  | error fault => simp [Except.mapError]

/-- The rows of a description are read if all of them are accepted, and then as what they
    declare, one entry for each value in order.  Otherwise the failure is that of the first
    one that is not accepted. -/
theorem entries_reads (d : Description) (uri : String) :
    ((∃ es, d.entries uri = .ok es) ↔ ∀ v ∈ d.apis, Entry.IsAccepted v)
      ∧ (∀ es, d.entries uri = .ok es ↔ List.Forall₂ Entry.DeclaredBy d.apis es)
      ∧ ∀ failure, d.entries uri = .error failure ↔
          ∃ before v after, d.apis = before ++ v :: after
            ∧ (∀ w ∈ before, Entry.IsAccepted w) ∧ Entry.FailsBy uri v failure := by
  refine ⟨?_, fun es => entries_eq_ok_iff.trans Entry.listOf_eq_ok_iff, fun failure => ?_⟩
  · rw [← Entry.exists_listOf_iff]
    exact exists_congr fun es => entries_eq_ok_iff
  · rw [entries_eq_error_iff]
    constructor
    · rintro ⟨fault, hread, hfailure⟩
      obtain ⟨before, v, after, hsplit, hbefore, hv⟩ := Entry.listOf_eq_error_iff.mp hread
      exact ⟨before, v, after, hsplit, hbefore, Entry.failsBy_iff.mpr ⟨fault, hv, hfailure⟩⟩
    · rintro ⟨before, v, after, hsplit, hbefore, hfails⟩
      obtain ⟨fault, hv, hfailure⟩ := Entry.failsBy_iff.mp hfails
      exact ⟨fault, Entry.listOf_eq_error_iff.mpr ⟨before, v, after, hsplit, hbefore, hv⟩, hfailure⟩

end Description

end SwaggerCmdlets
