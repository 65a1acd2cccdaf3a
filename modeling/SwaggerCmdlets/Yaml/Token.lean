/-! # Tokens — the marks that a text is made of

    Indentation has become tokens that open and close blocks, and a key that is
    only known by the colon after it has a token in front of it. -/

namespace SwaggerCmdlets.Yaml

/-- A mark of a text. -/
inductive Token where
  | streamEnd
  | version (major minor : Nat)
  | tagHandle (handle : String) (expansion : List UInt8)
  | documentStart
  | documentEnd
  | blockSequence
  | blockMapping
  | blockEnd
  | openSequence
  | closeSequence
  | openMapping
  | closeMapping
  | dash
  | comma
  | key
  | value
  | alias (name : String)
  | anchor (name : String)
  | tag (handle : String) (suffix : List UInt8)
  /-- A text; whether it stands there without quotes. -/
  | scalar (text : String) (plain : Bool)
deriving DecidableEq, Repr

end SwaggerCmdlets.Yaml
