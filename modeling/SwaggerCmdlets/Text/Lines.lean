/-! # Lines — text written line by line

    Emitted text is first a list of lines.  `unlines` closes each line with a
    line end, `indent` moves a line to the right by steps of four blanks. -/

namespace SwaggerCmdlets.Text

/-- Each line followed by a line end. -/
def unlines (lines : List String) : String :=
  String.join (lines.map (· ++ "\n"))

/-- One step of indentation. -/
def step : String := "    "

/-- The line moved `n` steps to the right. -/
def indent (n : Nat) (line : String) : String :=
  String.join (List.replicate n step) ++ line

/-- The texts with `sep` between every two of them. -/
def joinWith (sep : String) : List String → String
  | [] => ""
  | [s] => s
  | s :: rest => s ++ sep ++ joinWith sep rest

@[simp] theorem unlines_nil : unlines [] = "" := rfl

theorem unlines_append (a b : List String) :
    unlines (a ++ b) = unlines a ++ unlines b := by
  apply String.toList_inj.1
  simp [unlines, String.toList_join]

end SwaggerCmdlets.Text
