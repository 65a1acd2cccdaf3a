import SwaggerCmdlets.Proofs.Merge.Selection
import SwaggerCmdlets.Proofs.Module.ScriptParagraphs
import SwaggerCmdlets.Proofs.Script.Choices

/-! # Begin blocks — what is read of a command's text

    A function runs the block behind its word `Begin`, whose lines stand two steps from
    the margin.  In the function of a group of two or more members these lines are those
    of a choice.  The branches that were built for members all test something, since a
    member without optional parameters has none, and what they test is named by the
    members' parameters.  So the block is read as the branches and the default of the
    choice, and in no other way (`Group.readsBlock_iff`). -/

namespace SwaggerCmdlets

open Text

variable {members : List Descriptor} {base text line line' : String} {lines : List String}
  {result : Choice}

/-! ## Blocks -/

/-- The text of what a function does, as it stands in the function. -/
def Function.beginBlock (f : Function) : String := unlines (f.body.lines.map (indent 2))

/-- How the text of a block is read: line by line, each two steps from the margin. -/
def ReadsBlock (text : String) (result : Choice) : Prop :=
  ∃ lines, splitText '\n' text = lines.map (indent 2) ++ [""] ∧ ReadsBody lines result

theorem indent_inj {n : Nat} (h : indent n line = indent n line') : line = line' := by
  simpa [indent] using h

/-- The block stands between the word that starts it and the end of the function. -/
theorem Function.exists_text_eq (f : Function) :
    ∃ head, f.text = head ++ "    Begin\n    \x7b\n" ++ f.beginBlock ++ "    \x7d\n\x7d\n" := by
  refine ⟨unlines (["function " ++ f.name, "\x7b", indent 1 "param("]
    ++ (ScriptParameter.listLines f.params).map (indent 2) ++ [indent 1 ")"]), ?_⟩
  have hopened : unlines [indent 1 ")", indent 1 "Begin", indent 1 "\x7b"]
      = unlines [indent 1 ")"] ++ "    Begin\n    \x7b\n" := by
    decide
  have hclosed : unlines [indent 1 "\x7d", "\x7d"] = "    \x7d\n\x7d\n" := by decide
  simp only [text, lines, beginBlock, unlines_append, hopened, hclosed, String.append_assoc]

/-- Lines that are written as a block are read as they are. -/
theorem readsBlock_unlines_iff (h : ∀ line ∈ lines, Unbroken line) :
    ReadsBlock (unlines (lines.map (indent 2))) result ↔ ReadsBody lines result := by
  have hsplit : splitText '\n' (unlines (lines.map (indent 2))) = lines.map (indent 2) ++ [""] :=
    splitText_unlines fun line hline => (isLine_map_indent 1 h line hline).unbroken
  constructor
  · rintro ⟨lines', hlines', hreads⟩
    have hmap := List.append_cancel_right (hsplit.symm.trans hlines')
    rwa [List.map_injective_iff.mpr (fun _ _ => indent_inj) hmap]
  · exact fun hreads => ⟨lines, hsplit, hreads⟩

namespace Group

/-- In the choice between members every branch tests something, and only names. -/
theorem dispatch_tells (h : ∀ m ∈ members, ∀ p ∈ m.parameters, IsName p.name) :
    (dispatch base (.ofMembers members) members).Tells where
  tested := by
    intro b hb
    obtain ⟨m, hm, rfl⟩ := List.mem_map.mp hb
    -- members without conditions are not made branches
    have hplain := List.of_mem_filter hm
    intro hnil
    have hconditions : conditions (.ofMembers members) m = [] := hnil
    rw [isPlain, hconditions] at hplain
    exact Bool.false_ne_true hplain
  named := by
    intro b hb c hc
    obtain ⟨m, hm, rfl⟩ := List.mem_map.mp hb
    obtain ⟨p, hp, rfl⟩ := List.mem_map.mp (mem_distinct.mp hc)
    rw [Condition.name_ofParameter]
    exact h m (List.mem_of_mem_filter hm) p (List.mem_of_mem_filter hp)

/-- The block of a merged command is read as the branches of its choice, with their
    conditions and calls, and as its default, and in no other way. -/
theorem readsBlock_iff (cmdletPrefix base : String) (g : Group) (h : 2 ≤ g.members.length)
    (hnames : ∀ m ∈ g.members, ∀ p ∈ m.parameters, IsName p.name)
    (hendpoints : ∀ m ∈ g.members, Unbroken m.endpoint) (hbase : Unbroken base) :
    let f := g.function cmdletPrefix base
    ∃ choice head, f.body = .dispatch choice
      ∧ f.text = head ++ "    Begin\n    \x7b\n" ++ f.beginBlock ++ "    \x7d\n\x7d\n"
      ∧ ∀ result, ReadsBlock f.beginBlock result ↔ result = choice.reading := by
  intro f
  have hbody : f.body = .dispatch (dispatch base (.ofMembers g.members) g.members) :=
    function_body cmdletPrefix base h
  obtain ⟨head, htext⟩ := f.exists_text_eq
  refine ⟨_, head, hbody, htext, fun result => ?_⟩
  have hunbroken : ∀ line ∈ (Body.dispatch (dispatch base (.ofMembers g.members) g.members)).lines,
      Unbroken line := by
    refine Body.unbroken_lines (unbroken_dispatch ?_ hendpoints hbase)
    exact fun m hm p hp => (hnames m hm p hp).unbroken
  rw [Function.beginBlock, hbody, readsBlock_unlines_iff hunbroken,
    Dispatch.readsBody_iff (dispatch_tells hnames)]

/-- The block of a command that lists widgets, the widgets of a farm or a single one: two
    branches in the order of the members, and the listing otherwise. -/
theorem readsBlock_widgets :
    let g : Group := ⟨.read, "widgets", [allWidgets, farmWidget, widgetById]⟩
    let f := g.function "X" "http://h"
    2 ≤ g.members.length ∧ (∀ m ∈ g.members, ∀ p ∈ m.parameters, IsName p.name)
      ∧ (∀ m ∈ g.members, Unbroken m.endpoint) ∧ Unbroken "http://h"
      ∧ ∀ result, ReadsBlock f.beginBlock result ↔ result =
        ⟨[([.notNull "id", .notNull "farm"], (Call.ofDescriptor "http://h" farmWidget).line),
          ([.notNull "id"], (Call.ofDescriptor "http://h" widgetById).line)],
          some (Call.ofDescriptor "http://h" allWidgets).line⟩ := by
  intro g f
  have hlength : 2 ≤ g.members.length := by decide
  have hnames : ∀ m ∈ g.members, ∀ p ∈ m.parameters, IsName p.name := by decide
  have hendpoints : ∀ m ∈ g.members, Unbroken m.endpoint := by decide
  have hbase : Unbroken "http://h" := by decide
  have hchoice : f.body = .dispatch
      ⟨[⟨[.notNull "id", .notNull "farm"], Call.ofDescriptor "http://h" farmWidget⟩,
        ⟨[.notNull "id"], Call.ofDescriptor "http://h" widgetById⟩],
        some (Call.ofDescriptor "http://h" allWidgets)⟩ := by
    decide +kernel
  obtain ⟨choice, head, hbody, -, hreads⟩ :=
    readsBlock_iff "X" "http://h" g hlength hnames hendpoints hbase
  obtain rfl := Body.dispatch.inj (hchoice.symm.trans hbody)
  exact ⟨hlength, hnames, hendpoints, hbase, hreads⟩

end Group

end SwaggerCmdlets
