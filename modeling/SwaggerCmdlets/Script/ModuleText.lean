import SwaggerCmdlets.Script.Declaration

/-! # Module text — pieces with an empty line between them

    A module is a row of pieces, each of which ends its last line; one more line
    end between two pieces leaves an empty line there. -/

namespace SwaggerCmdlets

/-- One piece of a module. -/
inductive Piece where
  | declaration (decl : Declaration)
  | function (function : Function)
  | condition (condition : Condition)
  | call (call : Call)
deriving DecidableEq, Repr

/-- The text of a piece. -/
def Piece.text : Piece → String
  | declaration d => d.text
  | function f => f.text
  | condition c => c.text
  | call c => c.line

/-- The text of a row of pieces. -/
def moduleText (pieces : List Piece) : String :=
  Text.joinWith "\n" (pieces.map Piece.text)

end SwaggerCmdlets
