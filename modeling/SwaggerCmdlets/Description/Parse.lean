import SwaggerCmdlets.Description.FromJson
import SwaggerCmdlets.Description.FromYaml

/-! # Reading a description — strict text first

    A text that is not a strict document may still be one in the looser form.
    If it is neither, what is wrong with it as a strict document is reported. -/

namespace SwaggerCmdlets.Description

/-- The description of a text. -/
def parse (uri text : String) : Except Failure Description :=
  match ofJson text with
  | .ok d => .ok d
  | .error stop =>
    match ofYaml? text with
    | some d => .ok d
    | none => .error (.malformed uri (stop.message text))

end SwaggerCmdlets.Description
