import SwaggerCmdlets.Proofs.Script.Lines
import SwaggerCmdlets.Proofs.Script.Occurrences

/-! # Choices — how the lines of a choice are read

    The lines of a choice follow a small grammar: an `if` with its tests and one call,
    any number of `elseif`, at most one `else`, and then the response; or one call and
    the response; or the response alone.  The grammar is given as rules for reading lines
    (`ReadsBody`), apart from how a choice is written.

    Tests on words can be told from what follows them (`ReadsTest.append_inj`), and the
    lines that start the parts of a choice can be told from each other, so that there is
    at most one reading (`ReadsBody.unique`).  The lines of a choice in which every branch
    tests something, and only words, are read as its branches and its default
    (`Dispatch.readsBody_iff`). -/

namespace SwaggerCmdlets

open Text

/-! ## The grammar -/

/-- A word of letters, digits and underscores, and not an empty one. -/
structure IsName (name : String) : Prop where
  filled : name ≠ ""
  letters : ∀ c ∈ name.toList, isIdentRest c = true

instance : DecidablePred IsName := fun name =>
  decidable_of_iff (name ≠ "" ∧ name.toList.all isIdentRest = true)
    ⟨fun h => ⟨h.1, List.all_eq_true.mp h.2⟩, fun h => ⟨h.1, List.all_eq_true.mpr h.2⟩⟩

/-- How one test is read. -/
inductive ReadsTest : String → Condition → Prop where
  | notNull {name : String} (h : IsName name) :
      ReadsTest ("($($" ++ name ++ ") -ne $null)") (.notNull name)
  | present {name : String} (h : IsName name) :
      ReadsTest ("($" ++ name ++ ".IsPresent)") (.present name)

/-- How a row of tests is read. -/
inductive ReadsTests : String → List Condition → Prop where
  | one {test : String} {c : Condition} (h : ReadsTest test c) : ReadsTests test [c]
  | and {test tests : String} {c : Condition} {cs : List Condition} (h : ReadsTest test c)
      (hs : ReadsTests tests cs) : ReadsTests (test ++ " -and " ++ tests) (c :: cs)

/-- The line makes a call. -/
def IsCallLine (line : String) : Prop := ∃ rest, line = "$response = Invoke-RestMethod " ++ rest

/-- The lines of a block around one line. -/
def braced (line : String) : List String := ["\x7b", "    " ++ line, "\x7d"]

/-- What is read of a choice: for each branch its tests and the line of its call, and the
    line of the call that is made otherwise. -/
structure Choice where
  branches : List (List Condition × String)
  default : Option String
deriving DecidableEq, Repr

/-- The reading with one more branch in front. -/
def Choice.before (branch : List Condition × String) (later : Choice) : Choice :=
  ⟨branch :: later.branches, later.default⟩

/-- How the lines behind a branch are read, up to the response. -/
inductive ReadsLater : List String → Choice → Prop where
  | done : ReadsLater ["$response"] ⟨[], none⟩
  | otherwise {line : String} (hcall : IsCallLine line) :
      ReadsLater ("else" :: (braced line ++ ["$response"])) ⟨[], some line⟩
  | elseif {tests line : String} {cs : List Condition} {rest : List String} {later : Choice}
      (htests : ReadsTests tests cs) (hcall : IsCallLine line) (hlater : ReadsLater rest later) :
      ReadsLater (("elseif (" ++ tests ++ ")") :: (braced line ++ rest)) (later.before (cs, line))

/-- How the lines of a choice are read. -/
inductive ReadsBody : List String → Choice → Prop where
  | choice {tests line : String} {cs : List Condition} {rest : List String} {later : Choice}
      (htests : ReadsTests tests cs) (hcall : IsCallLine line) (hlater : ReadsLater rest later) :
      ReadsBody (("if (" ++ tests ++ ")") :: (braced line ++ rest)) (later.before (cs, line))
  | call {line : String} (hcall : IsCallLine line) :
      ReadsBody [line, "$response"] ⟨[], some line⟩
  | nothing : ReadsBody ["$response"] ⟨[], none⟩

variable {name name' test test' tests tests' line line' r r' : String} {c c' : Condition}
  {cs cs' : List Condition} {lines rest rest' : List String} {result result' : Choice}

/-! ## At most one reading -/

theorem IsName.unbroken (h : IsName name) : Unbroken name := by
  intro hmem
  have hletter : isIdentRest '\n' = true := h.letters '\n' hmem
  exact absurd hletter (by decide)

/-- A name that no letter follows can be told from what follows it. -/
theorem IsName.append_inj {x y : Char} {us vs : List Char} (h : IsName name)
    (h' : IsName name') (hx : isIdentRest x = false) (hy : isIdentRest y = false)
    (heq : name.toList ++ x :: us = name'.toList ++ y :: vs) : name = name' ∧ x = y ∧ us = vs := by
  obtain ⟨hname, hrest⟩ := TypeUse.run_inj h.letters h'.letters hx hy heq
  exact ⟨String.toList_inj.mp hname, hrest⟩

theorem IsName.not_start {x : Char} {us vs : List Char} (h : IsName name)
    (hx : isIdentRest x = false) : name.toList ++ us ≠ x :: vs := by
  intro heq
  obtain ⟨c, cs, hcs⟩ := List.exists_cons_of_ne_nil (String.toList_eq_nil_iff.not.mpr h.filled)
  rw [hcs] at heq
  obtain rfl : c = x := (List.cons.inj heq).1
  have hc := h.letters c (hcs ▸ List.mem_cons_self)
  exact Bool.false_ne_true (hx.symm.trans hc)

/-- A test can be told from what follows it. -/
theorem ReadsTest.append_inj (h : ReadsTest test c) (h' : ReadsTest test' c')
    (heq : test ++ r = test' ++ r') : c = c' ∧ r = r' := by
  have hchars := congrArg String.toList heq
  cases h with
  | notNull hname =>
      cases h' with
      | notNull hname' =>
          simp at hchars
          obtain ⟨rfl, -, hrest⟩ := hname.append_inj hname' rfl rfl hchars
          exact ⟨rfl, String.toList_inj.mp (by simpa using hrest)⟩
      | present hname' =>
          -- a name does not start with a parenthesis
          simp at hchars
          exact absurd hchars.symm (hname'.not_start rfl)
  | present hname =>
      cases h' with
      | notNull hname' =>
          simp at hchars
          exact absurd hchars (hname.not_start rfl)
      | present hname' =>
          simp at hchars
          obtain ⟨rfl, -, hrest⟩ := hname.append_inj hname' rfl rfl hchars
          exact ⟨rfl, String.toList_inj.mp (by simpa using hrest)⟩

/-- A row of tests is read in one way. -/
theorem ReadsTests.unique (h : ReadsTests tests cs) (h' : ReadsTests tests' cs')
    (heq : tests = tests') : cs = cs' := by
  -- behind a test there is nothing, or the word between two tests: never both
  have hand : ∀ text : String, "" ≠ " -and " ++ text := by simp
  induction h generalizing tests' cs' with
  | @one test c htest =>
      have heq := String.append_empty.trans heq
      cases h' with
      | @one test' c' htest' =>
          obtain ⟨rfl, -⟩ := htest.append_inj htest' (heq.trans String.append_empty.symm)
          rfl
      | @and test' tests' c' cs' htest' _ =>
          rw [String.append_assoc] at heq
          exact absurd (htest.append_inj htest' heq).2 (hand tests')
  | @and test tests c cs htest _ ih =>
      rw [String.append_assoc] at heq
      cases h' with
      | @one test' c' htest' =>
          have heq := heq.trans String.append_empty.symm
          exact absurd (htest.append_inj htest' heq).2.symm (hand tests)
      | @and test' tests' c' cs' htest' hs' =>
          rw [String.append_assoc] at heq
          obtain ⟨rfl, hrest⟩ := htest.append_inj htest' heq
          rw [ih hs' (by simpa using hrest)]

/-- Blocks can be told from what follows them. -/
theorem braced_append_inj (h : braced line ++ rest = braced line' ++ rest') :
    line = line' ∧ rest = rest' := by
  simpa [braced] using h

theorem keyword_inj {keyword : String} (h : keyword ++ tests ++ ")" = keyword ++ tests' ++ ")") :
    tests = tests' := by
  simpa using h

/-- The lines behind a branch are read in one way. -/
theorem ReadsLater.unique (h : ReadsLater lines result) (h' : ReadsLater lines' result')
    (heq : lines = lines') : result = result' := by
  -- the two words start alike, but only one of them goes on
  have helse : ∀ tests : String, "else" ≠ "elseif (" ++ tests ++ ")" := by
    intro tests hword
    have hchars := congrArg String.toList hword
    simp at hchars
  induction h generalizing lines' result' with
  | done =>
      cases h' with
      | done => rfl
      | otherwise => exact nomatch (List.cons.inj heq).2
      | elseif => exact nomatch (List.cons.inj heq).2
  | otherwise hcall =>
      cases h' with
      | done => exact nomatch (List.cons.inj heq).2
      | otherwise hcall' =>
          obtain ⟨rfl, -⟩ := braced_append_inj (List.cons.inj heq).2
          rfl
      | @elseif tests' => exact absurd (List.cons.inj heq).1 (helse tests')
  | @elseif tests line cs rest later htests hcall hlater ih =>
      cases h' with
      | done => exact nomatch (List.cons.inj heq).2
      | otherwise => exact absurd (List.cons.inj heq).1.symm (helse tests)
      | elseif htests' hcall' hlater' =>
          obtain ⟨hheader, hbehind⟩ := List.cons.inj heq
          obtain ⟨rfl, hrest⟩ := braced_append_inj hbehind
          rw [htests.unique htests' (keyword_inj hheader), ih hlater' hrest]

/-- The lines of a choice are read in one way. -/
theorem ReadsBody.unique (h : ReadsBody lines result) (h' : ReadsBody lines' result')
    (heq : lines = lines') : result = result' := by
  -- the second line tells a branch from a call, whatever the first one is
  have hbrace : "\x7b" ≠ "$response" := by decide
  cases h with
  | choice htests hcall hlater =>
      cases h' with
      | choice htests' hcall' hlater' =>
          obtain ⟨hheader, hbehind⟩ := List.cons.inj heq
          obtain ⟨rfl, hrest⟩ := braced_append_inj hbehind
          rw [htests.unique htests' (keyword_inj hheader), hlater.unique hlater' hrest]
      | call => exact absurd (List.cons.inj (List.cons.inj heq).2).1 hbrace
      | nothing => exact nomatch (List.cons.inj heq).2
  | call hcall =>
      cases h' with
      | choice => exact absurd (List.cons.inj (List.cons.inj heq).2).1.symm hbrace
      | call hcall' =>
          obtain rfl := (List.cons.inj heq).1
          rfl
      | nothing => exact nomatch (List.cons.inj heq).2
  | nothing =>
      cases h' with
      | choice => exact nomatch (List.cons.inj heq).2
      | call => exact nomatch (List.cons.inj heq).2
      | nothing => rfl

/-! ## The lines of a choice -/

/-- Every branch tests something, and all that is tested has a name. -/
structure Dispatch.Tells (d : Dispatch) : Prop where
  tested : ∀ b ∈ d.branches, b.conditions ≠ []
  named : ∀ b ∈ d.branches, ∀ c ∈ b.conditions, IsName c.name

/-- What is to be read of a choice. -/
def Dispatch.reading (d : Dispatch) : Choice :=
  ⟨d.branches.map fun b => (b.conditions, b.call.line), d.default.map Call.line⟩

theorem IsCallLine.append (h : IsCallLine line) (text : String) : IsCallLine (line ++ text) := by
  obtain ⟨rest, rfl⟩ := h
  exact ⟨rest ++ text, String.append_assoc ..⟩

theorem Call.isCallLine (c : Call) : IsCallLine c.line := by
  have hstart : IsCallLine "$response = Invoke-RestMethod -Uri \"" :=
    ⟨"-Uri \"", by decide +kernel⟩
  exact (((((hstart.append _).append _).append _).append _).append _).append _

theorem Condition.readsTest (h : IsName c.name) : ReadsTest c.text c := by
  cases c with
  | notNull name => exact .notNull h
  | present name => exact .present h

/-- The tests of a branch are read as its conditions. -/
theorem Condition.readsTests (hne : cs ≠ []) (h : ∀ c ∈ cs, IsName c.name) :
    ReadsTests (joinWith " -and " (cs.map Condition.text)) cs := by
  induction cs with
  | nil => exact absurd rfl hne
  | cons c cs ih =>
      obtain ⟨hc, hcs⟩ := List.forall_mem_cons.mp h
      cases cs with
      | nil => exact .one (readsTest hc)
      | cons next cs => exact .and (readsTest hc) (ih (List.cons_ne_nil _ _) hcs)

/-- The tests of the first branch are read as its conditions, and the other branches tell
    theirs. -/
theorem Dispatch.Tells.readsTests {b : Branch} {bs : List Branch} {default : Option Call}
    (h : Dispatch.Tells ⟨b :: bs, default⟩) :
    ReadsTests b.test b.conditions ∧ Dispatch.Tells ⟨bs, default⟩ := by
  obtain ⟨htested, hnamed⟩ := h
  obtain ⟨htested, htestedLater⟩ := List.forall_mem_cons.mp htested
  obtain ⟨hnamed, hnamedLater⟩ := List.forall_mem_cons.mp hnamed
  exact ⟨Condition.readsTests htested hnamed, htestedLater, hnamedLater⟩

/-- The lines of the default behind the branches. -/
def Dispatch.elseLines : Option Call → List String
  | some call => "else" :: block call
  | none => []

/-- The lines behind the first branch are read as the other branches and the default. -/
theorem Dispatch.Tells.readsLater {bs : List Branch} {default : Option Call}
    (h : Dispatch.Tells ⟨bs, default⟩) :
    ReadsLater (laterLines bs ++ elseLines default ++ ["$response"]) (reading ⟨bs, default⟩) := by
  induction bs with
  | nil =>
      cases default with
      | none => exact .done
      | some call => exact .otherwise call.isCallLine
  | cons b bs ih =>
      obtain ⟨htests, hbs⟩ := h.readsTests
      have hlater := ih hbs
      rw [List.append_assoc] at hlater
      rw [laterLines, List.flatMap_cons, List.append_assoc, List.append_assoc]
      exact .elseif htests b.call.isCallLine hlater

/-- The lines of a choice in which every branch tests names are read as its branches and
    its default, and in no other way. -/
theorem Dispatch.readsBody_iff {d : Dispatch} (h : d.Tells) :
    ReadsBody (Body.dispatch d).lines result ↔ result = d.reading := by
  have hreads : ReadsBody (Body.dispatch d).lines d.reading := by
    obtain ⟨branches, default⟩ := d
    cases branches with
    | nil =>
        cases default with
        | none => exact .nothing
        | some call => exact .call call.isCallLine
    | cons first later =>
        obtain ⟨htests, hlater⟩ := h.readsTests
        have hlines : (Body.dispatch ⟨first :: later, default⟩).lines
            = ("if (" ++ first.test ++ ")") :: (braced first.call.line
              ++ (laterLines later ++ elseLines default ++ ["$response"])) := by
          cases default with
          | none => rfl
          | some call => rfl
        rw [hlines]
        exact .choice htests first.call.isCallLine hlater.readsLater
  constructor
  · exact fun hresult => hresult.unique hreads rfl
  · rintro rfl
    exact hreads

end SwaggerCmdlets
