import Mathlib.Data.List.Forall2
import SwaggerCmdlets.Config
import SwaggerCmdlets.Proofs.Insertion

/-! # Environments — a configuration filled from several

    A configuration can be filled from any number of environments, one after the other
    (`withEnvironments`).  Each setting has a rule of its own.  The base address and the
    token keep what was chosen, and are otherwise the first value given that is not blank.
    The passed-through models grow at the end, by names that are not there yet.  Name part
    and headers do not come from environments at all.

    What a whole run makes of a configuration is one equation (`withEnvironments_eq`).
    That an environment does nothing when it comes again rests on an invariant: a
    configuration covers all environments that it was filled from, whatever came after
    them (`covers_withEnvironments`), and one that it covers does not change it. -/

namespace SwaggerCmdlets

open Text

/-- The items stand in the list between commas: they are its parts, trimmed, and without
    those of which nothing is left. -/
def Lists (list : String) (items : List String) : Prop :=
  ∃ parts : List (List Char), unpieces ',' parts = list.toList
    ∧ (∀ part ∈ parts, ',' ∉ part)
    ∧ items = (parts.map fun part => trim (String.ofList part)).filter (· ≠ "")

namespace Environment

variable {env : Environment} {envs : List Environment} {name v : String}

/-- The environment has the variable with this value, and the value is not blank. -/
def Gives (env : Environment) (name v : String) : Prop :=
  env name = some v ∧ ∃ c ∈ v.toList, isBlank c = false

/-- The value comes from the first environment that gives the variable any. -/
def FirstGiven (envs : List Environment) (name v : String) : Prop :=
  ∃ before env after, envs = before ++ env :: after ∧ env.Gives name v
    ∧ ∀ e ∈ before, ∀ w, ¬ e.Gives name w

/-- The environment lists these models, or has no list and there are none. -/
def ListsModels (env : Environment) (models : List String) : Prop :=
  match env Config.passthroughVariable with
  | some list => Lists list models
  | none => models = []

/-- What the environment gives the variable. -/
def given? (env : Environment) (name : String) : Option String :=
  (env name).filter fun v => trim v ≠ ""

/-- The models that the environment lists. -/
def models (env : Environment) : List String :=
  match env Config.passthroughVariable with
  | some list => Config.listItems list
  | none => []

theorem given?_eq_some_iff : env.given? name = some v ↔ env.Gives name v := by
  rw [given?, Option.filter_eq_some_iff, decide_eq_true_iff, trim_ne_empty_iff]
  rfl

theorem given?_eq_none_iff : env.given? name = none ↔ ∀ v, ¬ env.Gives name v := by
  rw [Option.eq_none_iff_forall_ne_some]
  exact forall_congr' fun v => not_congr given?_eq_some_iff

theorem findSome?_given?_eq_some_iff :
    envs.findSome? (·.given? name) = some v ↔ FirstGiven envs name v := by
  rw [List.findSome?_eq_some_iff, FirstGiven]
  simp only [given?_eq_some_iff, given?_eq_none_iff]

theorem lists_listItems (list : String) : Lists list (Config.listItems list) := by
  refine ⟨pieces ',' list.toList, unpieces_pieces ',' list.toList,
    fun part hpart => not_mem_of_mem_pieces hpart, ?_⟩
  rw [Config.listItems, splitText, List.map_map]
  rfl

theorem listsModels_models (env : Environment) : env.ListsModels env.models := by
  rw [ListsModels, models]
  cases env Config.passthroughVariable with
  | some list => exact lists_listItems list
  | none => rfl

end Environment

namespace Config

open Environment

variable {c : Config} {env : Environment} {envs : List Environment}

/-- The configuration filled from environments, one after the other. -/
def withEnvironments (c : Config) (envs : List Environment) : Config :=
  envs.foldl withEnvironment c

theorem withEnvironments_cons (c : Config) (env : Environment) (envs : List Environment) :
    c.withEnvironments (env :: envs) = (c.withEnvironment env).withEnvironments envs := rfl

theorem withEnvironments_append (c : Config) (envs later : List Environment) :
    c.withEnvironments (envs ++ later) = (c.withEnvironments envs).withEnvironments later :=
  List.foldl_append

/-! ## What a run makes of a configuration -/

theorem fill_eq_or (chosen : Option String) (env : Environment) (name : String) :
    fill chosen (env name) = chosen.or (env.given? name) := by
  rw [given?]
  cases chosen with
  | none => rfl
  | some v => rfl

theorem passthrough_withEnvironment (c : Config) (env : Environment) :
    (c.withEnvironment env).passthrough = env.models.foldl insertNew c.passthrough := by
  rw [withEnvironment, models]
  cases env passthroughVariable with
  | none => rfl
  | some list =>
      show addModels c.passthrough (listItems list) = _
      rw [addModels]

theorem withEnvironment_eq (c : Config) (env : Environment) :
    c.withEnvironment env
      = { c with
          apiBase := c.apiBase.or (env.given? apiBaseVariable)
          token := c.token.or (env.given? tokenVariable)
          passthrough := env.models.foldl insertNew c.passthrough } := by
  rw [← passthrough_withEnvironment, withEnvironment, fill_eq_or, fill_eq_or]

theorem withEnvironments_eq (c : Config) (envs : List Environment) :
    c.withEnvironments envs
      = { c with
          apiBase := c.apiBase.or (envs.findSome? (·.given? apiBaseVariable))
          token := c.token.or (envs.findSome? (·.given? tokenVariable))
          passthrough := (envs.flatMap models).foldl insertNew c.passthrough } := by
  induction envs generalizing c with
  | nil => simp [withEnvironments]
  | cons env envs ih =>
      -- what the later environments give counts where the first one gives nothing
      have hfirst : ∀ name, (env :: envs).findSome? (·.given? name)
          = (env.given? name).or (envs.findSome? (·.given? name)) := by
        intro name
        rw [List.findSome?_cons]
        cases env.given? name with
        | none => rfl
        | some v => rfl
      rw [withEnvironments_cons, ih, withEnvironment_eq, hfirst, hfirst, List.flatMap_cons,
        List.foldl_append, Option.or_assoc, Option.or_assoc]

/-- A setting that was chosen, even as an empty text, stays; one that was left open takes
    the first value given. -/
structure SettledBy (name : String) (envs : List Environment)
    (chosen settled : Option String) : Prop where
  keeps : ∀ v, chosen = some v → settled = some v
  takes : chosen = none → ∀ v, settled = some v ↔ FirstGiven envs name v

theorem settledBy_or (name : String) (envs : List Environment) (chosen : Option String) :
    SettledBy name envs chosen (chosen.or (envs.findSome? (·.given? name))) where
  keeps := by
    rintro v rfl
    rfl
  takes := by
    rintro rfl v
    exact findSome?_given?_eq_some_iff

/-- What environments, one after the other, make of a configuration. -/
structure FilledFrom (c : Config) (envs : List Environment) (filled : Config) : Prop where
  cmdletPrefix : filled.cmdletPrefix = c.cmdletPrefix
  headers : filled.headers = c.headers
  apiBase : SettledBy apiBaseVariable envs c.apiBase filled.apiBase
  token : SettledBy tokenVariable envs c.token filled.token
  passthrough : ∃ rows, List.Forall₂ ListsModels envs rows
    ∧ filled.passthrough = c.passthrough ++ (rows.flatten.removeAll c.passthrough).eraseDups

theorem filledFrom_withEnvironments (c : Config) (envs : List Environment) :
    c.FilledFrom envs (c.withEnvironments envs) := by
  rw [withEnvironments_eq]
  refine ⟨rfl, rfl, settledBy_or _ _ _, settledBy_or _ _ _, envs.map models, ?_, ?_⟩
  · rw [List.forall₂_map_right_iff, List.forall₂_same]
    exact fun env _ => listsModels_models env
  · rw [← List.flatMap_def]
    exact foldl_insertNew _ _

/-! ## Environments that come again -/

/-- There is nothing in the environment that the configuration would still take. -/
structure Covers (c : Config) (env : Environment) : Prop where
  apiBase : (env.given? apiBaseVariable).isSome → c.apiBase.isSome
  token : (env.given? tokenVariable).isSome → c.token.isSome
  passthrough : ∀ m ∈ env.models, m ∈ c.passthrough

theorem covers_withEnvironment (c : Config) (env : Environment) :
    (c.withEnvironment env).Covers env := by
  rw [withEnvironment_eq]
  refine ⟨fun h => ?_, fun h => ?_, fun m hm => ?_⟩
  · rw [Option.isSome_or, h, Bool.or_true]
  · rw [Option.isSome_or, h, Bool.or_true]
  · exact mem_foldl_insertNew.mpr (Or.inr hm)

theorem Covers.withEnvironment (h : c.Covers env) (other : Environment) :
    (c.withEnvironment other).Covers env := by
  rw [withEnvironment_eq]
  refine ⟨fun hgiven => ?_, fun hgiven => ?_, fun m hm => ?_⟩
  · rw [Option.isSome_or, h.apiBase hgiven, Bool.true_or]
  · rw [Option.isSome_or, h.token hgiven, Bool.true_or]
  · exact mem_foldl_insertNew.mpr (Or.inl (h.passthrough m hm))

theorem Covers.withEnvironments (h : c.Covers env) (envs : List Environment) :
    (c.withEnvironments envs).Covers env := by
  induction envs generalizing c with
  | nil => exact h
  | cons other envs ih => exact ih (h.withEnvironment other)

/-- A configuration covers all that it was filled from. -/
theorem covers_withEnvironments (c : Config) (h : env ∈ envs) :
    (c.withEnvironments envs).Covers env := by
  obtain ⟨before, after, rfl⟩ := List.append_of_mem h
  rw [withEnvironments_append, withEnvironments_cons]
  exact (covers_withEnvironment _ env).withEnvironments after

theorem or_eq_self {chosen given : Option String} (h : given.isSome → chosen.isSome) :
    chosen.or given = chosen := by
  cases chosen with
  | some v => rfl
  | none =>
      cases given with
      | none => rfl
      | some v => exact absurd (h rfl) Bool.false_ne_true

/-- An environment that a configuration covers does not change it. -/
theorem Covers.withEnvironment_eq_self (h : c.Covers env) : c.withEnvironment env = c := by
  have hmodels : env.models.removeAll c.passthrough = [] := by
    rw [List.removeAll, List.filter_eq_nil_iff]
    intro m hm
    simp [h.passthrough m hm]
  rw [withEnvironment_eq, or_eq_self h.apiBase, or_eq_self h.token, foldl_insertNew, hmodels,
    List.eraseDups_nil, List.append_nil]

/-- From whatever configuration a run of environments starts, and wherever in the run one
    looks: the name part and the headers are what they were; the base address and the token
    are what they were, even if that is an empty text, and otherwise what the first
    environment to give a value gives, untrimmed; the models are those that were there, and
    behind them the listed ones that were not, each where it is listed first.  An
    environment that has been there changes nothing when it comes again. -/
theorem withEnvironments_fills (c : Config) (envs later : List Environment) :
    let filled := c.withEnvironments envs
    let filledLater := c.withEnvironments (envs ++ later)
    c.FilledFrom envs filled
      ∧ filled.FilledFrom later filledLater
      ∧ ∀ env ∈ envs, c.withEnvironments (envs ++ env :: later) = filledLater := by
  intro filled filledLater
  have happend : filledLater = filled.withEnvironments later := withEnvironments_append c envs later
  refine ⟨filledFrom_withEnvironments c envs, ?_, fun env henv => ?_⟩
  · rw [happend]
    exact filledFrom_withEnvironments filled later
  · have hcovers : filled.Covers env := covers_withEnvironments c henv
    rw [withEnvironments_append, withEnvironments_cons, hcovers.withEnvironment_eq_self, happend]

/-- A base address that was left empty on purpose, a token that is blank at first, and two
    lists that have a model in common. -/
theorem withEnvironments_fills_tenants :
    let c : Config := { ofPrefix "Ras" with apiBase := some "", passthrough := ["Site"] }
    let first : Environment := fun name =>
      if name = passthroughVariable then some " Tenant, Site,,Tenant" else some "  "
    let second : Environment := fun name =>
      if name = passthroughVariable then some "Farm ,Tenant" else some " secret "
    c.withEnvironments [first, second]
        = ⟨"Ras", ["Site", "Tenant", "Farm"], some "", some " secret ", []⟩
      ∧ c.FilledFrom [first] (c.withEnvironments [first])
      ∧ (c.withEnvironments [first]).FilledFrom [second] (c.withEnvironments [first, second])
      ∧ ∀ env ∈ [first], c.withEnvironments ([first] ++ env :: [second])
        = c.withEnvironments ([first] ++ [second]) := by
  intro c first second
  refine ⟨by decide +kernel, ?_⟩
  exact withEnvironments_fills c [first] [second]

end Config

end SwaggerCmdlets
