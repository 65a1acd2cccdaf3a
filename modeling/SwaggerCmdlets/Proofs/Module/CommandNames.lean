import SwaggerCmdlets.Proofs.Merge.Inspection
import SwaggerCmdlets.Proofs.Registry.Names

/-! # Command names — which functions of a module share a name

    A module has a function for each model and one for each group.  The first
    letter of a name tells what kind of function it is: all constructors start
    with `New`, and no command does (`newName_ne_cmdletName`).  Constructors have
    different names because models have.

    Groups have different keys, but a name shows the subject with a capital:
    two groups of one action share a name when their subjects differ in nothing
    else (`cmdletName_eq_iff`). -/

namespace SwaggerCmdlets

open Text (capitalize)

variable {a a' : Action} {cmdletPrefix t t' : String} {ds : List Descriptor}

/-! ## Names -/

/-- The first letter of an action's verb. -/
def Action.initial : Action → Char
  | read => 'G'
  | replace => 'S'
  | create => 'A'
  | delete => 'R'

theorem Action.initial_injective : Function.Injective Action.initial := by
  intro a a' h
  cases a <;> cases a' <;> simp [initial] at h ⊢

/-- No verb starts as the names of constructors do. -/
theorem Action.initial_ne (a : Action) : a.initial ≠ 'N' := by
  cases a <;> decide

/-- A command's name starts as the verb of its action. -/
theorem head_cmdletName (a : Action) (cmdletPrefix t : String) :
    (cmdletName a cmdletPrefix t).toList.head? = some a.initial := by
  have hverb : a.verb.toList.head? = some a.initial := by
    cases a <;> rfl
  rw [cmdletName, String.toList_append, String.toList_append, String.toList_append,
    List.append_assoc, List.append_assoc, List.head?_append, hverb]
  rfl

/-- Two commands share a name if they have one action and their subjects are
    capitalized to one text. -/
theorem cmdletName_eq_iff :
    cmdletName a cmdletPrefix t = cmdletName a' cmdletPrefix t' ↔
      a = a' ∧ capitalize t = capitalize t' := by
  constructor
  · intro h
    have hhead : some a.initial = some a'.initial := by
      rw [← head_cmdletName a cmdletPrefix t, h, head_cmdletName]
    obtain rfl : a = a' := Action.initial_injective (Option.some.inj hhead)
    exact ⟨rfl, (String.append_right_inj _).mp h⟩
  · rintro ⟨rfl, hcapital⟩
    rw [cmdletName, cmdletName, hcapital]

/-- No command has the name of a constructor. -/
theorem newName_ne_cmdletName (m : Model) :
    (m.newFunction cmdletPrefix).name ≠ cmdletName a cmdletPrefix t := by
  intro h
  have hnew : (m.newFunction cmdletPrefix).name.toList.head? = some 'N' := by
    show ("New-" ++ cmdletPrefix ++ m.name).toList.head? = some 'N'
    rw [String.toList_append, String.toList_append, List.append_assoc, List.head?_append]
    rfl
  rw [h, head_cmdletName] at hnew
  exact a.initial_ne (Option.some.inj hnew)

/-- Constructors of models with different names have different names. -/
theorem nodup_newNames (cmdletPrefix : String) {ms : List Model} (h : (ms.map (·.name)).Nodup) :
    (ms.map fun m => (m.newFunction cmdletPrefix).name).Nodup := by
  have hmap : ms.map (fun m => (m.newFunction cmdletPrefix).name)
      = (ms.map (·.name)).map ("New-" ++ cmdletPrefix ++ ·) := by
    rw [List.map_map]
    rfl
  rw [hmap]
  exact h.map fun _ _ => (String.append_right_inj _).mp

/-- Commands have different names if no two descriptors of one action have different
    subjects that are capitalized to one text. -/
theorem nodup_commandNames_iff (cmdletPrefix base : String) :
    ((Group.functions cmdletPrefix base ds).map (·.name)).Nodup ↔
      ∀ d ∈ ds, ∀ e ∈ ds, d.action = e.action → capitalize d.subject = capitalize e.subject →
        d.subject = e.subject := by
  have hgroups : (Group.ofDescriptors ds).Nodup :=
    .of_map _ (Group.partitions_ofDescriptors ds).nodup_keys
  have hnames : (Group.functions cmdletPrefix base ds).map (·.name)
      = (Group.ofDescriptors ds).map fun g => cmdletName g.action cmdletPrefix g.subject := by
    rw [Group.functions, List.map_map]
    exact List.map_congr_left fun g _ => Group.function_name cmdletPrefix base g
  rw [hnames, List.nodup_map_iff_inj_on hgroups]
  constructor
  · intro h d hd e he haction hcapital
    obtain ⟨g, hg, hgd⟩ := Group.exists_group_iff.mpr ⟨d, hd, rfl⟩
    obtain ⟨g', hg', hge⟩ := Group.exists_group_iff.mpr ⟨e, he, rfl⟩
    obtain ⟨hga, hgs⟩ := Prod.mk.inj hgd
    obtain ⟨hga', hgs'⟩ := Prod.mk.inj hge
    rw [← hga, ← hga'] at haction
    rw [← hgs, ← hgs'] at hcapital ⊢
    rw [h g hg g' hg' (cmdletName_eq_iff.mpr ⟨haction, hcapital⟩)]
  · intro h g hg g' hg' hname
    obtain ⟨haction, hcapital⟩ := cmdletName_eq_iff.mp hname
    obtain ⟨d, hd, hdg⟩ := Group.exists_group_iff.mp ⟨g, hg, rfl⟩
    obtain ⟨e, he, heg⟩ := Group.exists_group_iff.mp ⟨g', hg', rfl⟩
    obtain ⟨hda, hds⟩ := Prod.mk.inj hdg
    obtain ⟨hea, hes⟩ := Prod.mk.inj heg
    have hsubject : d.subject = e.subject := by
      refine h d hd e he ?_ ?_
      · rw [hda, hea, haction]
      · rw [hds, hes, hcapital]
    refine Group.eq_of_key_eq hg hg' (Prod.ext haction ?_)
    show g.subject = g'.subject
    rw [← hds, ← hes, hsubject]

/-! ## Modules -/

/-- The name of the function that a piece is. -/
def Piece.functionName? : Piece → Option String
  | function f => some f.name
  | _ => none

/-- The names of the functions of a session's module, in order. -/
def Session.functionNames (s : Session) (cmdletPrefix : String) : List String :=
  (s.pieces cmdletPrefix).filterMap Piece.functionName?

/-- The functions of a module are the constructors and the commands. -/
theorem functionNames_eq (s : Session) (cmdletPrefix : String) :
    s.functionNames cmdletPrefix
      = s.registry.models.map (fun m => (m.newFunction cmdletPrefix).name)
        ++ (Group.functions cmdletPrefix s.baseAddress s.descriptors).map (·.name) := by
  have hdeclarations : (s.registry.declarations.map Piece.declaration).filterMap
      Piece.functionName? = [] := by
    rw [List.filterMap_map, List.filterMap_eq_nil_iff]
    exact fun _ _ => rfl
  have hfunctions : ∀ {α : Type} (f : α → Function) (xs : List α),
      (xs.map fun x => Piece.function (f x)).filterMap Piece.functionName?
        = xs.map fun x => (f x).name := by
    intro α f xs
    rw [List.filterMap_map]
    exact congrFun List.filterMap_eq_map xs
  rw [Session.functionNames, Session.pieces, List.filterMap_append, List.filterMap_append,
    hdeclarations, hfunctions (fun m : Model => m.newFunction cmdletPrefix), List.nil_append]
  exact congrArg _ (hfunctions id _)

/-- In the module of a session, the empty one or one that a run has gathered,
    constructors have names that no other function has, and all functions have
    different names exactly if no two descriptors of one action have different subjects
    that are capitalized to one text. -/
theorem functionNames_nodup_iff (s : Session)
    (h : s = .empty ∨ ∃ (g : Setup) (document : String), (g.gather document).result = .ok s)
    (cmdletPrefix : String) :
    let constructors := s.registry.models.map fun m => (m.newFunction cmdletPrefix).name
    let commands := (Group.functions cmdletPrefix s.baseAddress s.descriptors).map (·.name)
    s.functionNames cmdletPrefix = constructors ++ commands
      ∧ constructors.Nodup ∧ constructors.Disjoint commands
      ∧ ((s.functionNames cmdletPrefix).Nodup ↔
        ∀ d ∈ s.descriptors, ∀ e ∈ s.descriptors, d.action = e.action →
          capitalize d.subject = capitalize e.subject → d.subject = e.subject) := by
  intro constructors commands
  have hnames : s.functionNames cmdletPrefix = constructors ++ commands :=
    functionNames_eq s cmdletPrefix
  have hdeclared : s.registry.names.Nodup := by
    rcases h with rfl | ⟨g, document, h⟩
    · exact List.nodup_nil
    · exact gather_nodup_names h
  have hconstructors : constructors.Nodup :=
    nodup_newNames cmdletPrefix (s.registry.names_models_sublist.nodup hdeclared)
  have hdisjoint : constructors.Disjoint commands := by
    intro n hn hn'
    obtain ⟨m, -, rfl⟩ := List.mem_map.mp hn
    obtain ⟨f, hf, hname⟩ := List.mem_map.mp hn'
    obtain ⟨group, -, rfl⟩ := List.mem_map.mp hf
    rw [Group.function_name] at hname
    exact newName_ne_cmdletName m hname.symm
  refine ⟨hnames, hconstructors, hdisjoint, ?_⟩
  rw [hnames, List.nodup_append', ← nodup_commandNames_iff cmdletPrefix s.baseAddress]
  exact ⟨fun hall => hall.2.1, fun hcommands => ⟨hconstructors, hcommands, hdisjoint⟩⟩

/-- A document with a model, and with gadgets that are read by two ways and created. -/
def gadgetListing : Source.Listing :=
  [("http://h/d", .ok ("\x7b\"swaggerVersion\":\"1.2\",\"models\":\x7b\"Gadget\":\x7b\x7d\x7d,"
      ++ "\"apis\":[\x7b\"path\":\"/gadget\",\"operations\":[\x7b\"method\":\"GET\"\x7d,"
      ++ "\x7b\"method\":\"POST\"\x7d]\x7d,"
      ++ "\x7b\"path\":\"/gadget/\x7bid\x7d\",\"operations\":[\x7b\"method\":\"GET\"\x7d]\x7d]\x7d"))]

/-- The constructor of the gadgets and their two commands have different names. -/
theorem functionNames_nodup_gadgets :
    let g : Setup := ⟨.ofPrefix "X", .ofListing gadgetListing, none⟩
    ∃ s, (g.gather "http://h/d").result = .ok s
      ∧ s.functionNames "X" = ["New-XGadget", "Get-XGadget", "Add-XGadget"]
      ∧ let constructors := s.registry.models.map fun m => (m.newFunction "X").name
        let commands := (Group.functions "X" s.baseAddress s.descriptors).map (·.name)
        s.functionNames "X" = constructors ++ commands
          ∧ constructors.Nodup ∧ constructors.Disjoint commands
          ∧ ((s.functionNames "X").Nodup ↔
            ∀ d ∈ s.descriptors, ∀ e ∈ s.descriptors, d.action = e.action →
              capitalize d.subject = capitalize e.subject → d.subject = e.subject) := by
  intro g
  obtain ⟨s, hs, hnames⟩ := exists_ok_of_map_toOption
    (r := (g.gather "http://h/d").result) (f := fun s => s.functionNames "X")
    (b := ["New-XGadget", "Get-XGadget", "Add-XGadget"]) (by decide +kernel)
  exact ⟨s, hs, hnames, functionNames_nodup_iff s (.inr ⟨g, _, hs⟩) "X"⟩

/-- A document whose two paths differ in the case of a letter. -/
def casedListing : Source.Listing :=
  [("http://h/d", .ok ("\x7b\"swaggerVersion\":\"1.2\",\"apis\":["
      ++ "\x7b\"path\":\"/widgets\",\"operations\":[\x7b\"method\":\"GET\"\x7d]\x7d,"
      ++ "\x7b\"path\":\"/Widgets\",\"operations\":[\x7b\"method\":\"GET\"\x7d]\x7d]\x7d"))]

/-- Subjects that differ in the case of their first letter make two commands of one
    name. -/
theorem functionNames_cased :
    let g : Setup := ⟨.ofPrefix "X", .ofListing casedListing, none⟩
    ∃ s, (g.gather "http://h/d").result = .ok s
      ∧ s.functionNames "X" = ["Get-XWidgets", "Get-XWidgets"]
      ∧ ¬ (s.functionNames "X").Nodup := by
  intro g
  obtain ⟨s, hs, hnames⟩ := exists_ok_of_map_toOption
    (r := (g.gather "http://h/d").result) (f := fun s => s.functionNames "X")
    (b := ["Get-XWidgets", "Get-XWidgets"]) (by decide +kernel)
  refine ⟨s, hs, hnames, ?_⟩
  rw [hnames]
  decide

end SwaggerCmdlets
