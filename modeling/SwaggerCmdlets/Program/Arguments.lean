import SwaggerCmdlets.Text.Pieces

/-! # Arguments — what a command line says

    A command line is a row of options and plain words.  An option has a long
    name, perhaps a letter, and takes no value, one value, or a value each time
    it is given; the value stands behind an equals sign or in the next word, and
    there it may not look like an option.  After two hyphens every word is
    plain.  A plain word names a subcommand, if there are any, and all after it
    belongs to that. -/

namespace SwaggerCmdlets.Program

open Text

/-- How often an option is given, and with what. -/
inductive OptionKind where
  /-- At most once, without a value. -/
  | flag
  /-- At most once, with a value. -/
  | single
  /-- At most once, with a value that is not empty. -/
  | path
  /-- Any number of times, with a value. -/
  | many
deriving DecidableEq, Repr

/-- An option. -/
structure OptionSpec where
  name : String
  letter : Option Char
  kind : OptionKind
deriving DecidableEq, Repr

/-- What a command line may hold. -/
structure CommandSpec where
  options : List OptionSpec
  /-- How many plain words there may be. -/
  words : Nat
  subcommands : List String
  /-- Whether the version may be asked for. -/
  version : Bool
deriving DecidableEq, Repr

/-- Why a command line is not carried out. -/
inductive Halt where
  /-- It is not one that may be given. -/
  | usage
  | help
  | version
deriving DecidableEq, Repr

/-- What has been given. -/
structure Given where
  flags : List String
  values : List (String × String)
  words : List String
deriving DecidableEq, Repr

namespace Given

/-- Nothing has been given. -/
def none : Given := ⟨[], [], []⟩

/-- The values of an option, in order. -/
def all (g : Given) (name : String) : List String :=
  (g.values.filter (·.1 == name)).map (·.2)

/-- The value of an option. -/
def value? (g : Given) (name : String) : Option String := (g.all name).head?

/-- Whether an option without value is given. -/
def has (g : Given) (name : String) : Bool := g.flags.contains name

/-- Adds an option without value. -/
def addFlag (g : Given) (o : OptionSpec) : Except Halt Given :=
  if o.kind = .flag && !g.has o.name then .ok { g with flags := g.flags ++ [o.name] }
  else .error .usage

/-- Adds an option with its value. -/
def addValue (g : Given) (o : OptionSpec) (v : String) : Except Halt Given :=
  let isTwice := (g.value? o.name).isSome && o.kind != .many
  if o.kind = .flag || isTwice || (o.kind = .path && v == "") then .error .usage
  else .ok { g with values := g.values ++ [(o.name, v)] }

/-- Adds a plain word. -/
def addWord (g : Given) (spec : CommandSpec) (w : String) : Except Halt Given :=
  if g.words.length < spec.words then .ok { g with words := g.words ++ [w] } else .error .usage

end Given

/-- A word, by what it looks like. -/
inductive Word where
  | plain
  /-- Two hyphens. -/
  | divider
  | long (name : String) (value : Option String)
  | letters (cs : List Char)
deriving DecidableEq, Repr

/-- What a word looks like. -/
def Word.of (w : String) : Word :=
  match w.toList with
  | '-' :: '-' :: [] => .divider
  | '-' :: '-' :: rest =>
    match splitFirst '=' rest with
    | some (name, value) => .long (String.ofList name) (some (String.ofList value))
    | none => .long (String.ofList rest) none
  | '-' :: c :: rest => .letters (c :: rest)
  | _ => .plain

/-- Letters behind one hyphen; none of them takes a value. -/
def readLetters (spec : CommandSpec) (g : Given) : List Char → Except Halt Given
  | [] => .ok g
  | c :: cs =>
    match spec.options.find? (·.letter == some c) with
    | some o => (g.addFlag o).bind fun g => readLetters spec g cs
    | none =>
      if c = 'h' then .error .help
      else if c = 'V' && spec.version then .error .version
      else .error .usage

/-- What a long option is. -/
def findLong (spec : CommandSpec) (name : String) (hasValue : Bool) : Except Halt OptionSpec :=
  match spec.options.find? (·.name == name) with
  | some o => .ok o
  | none =>
    if hasValue then .error .usage
    else if name = "help" then .error .help
    else if name = "version" && spec.version then .error .version
    else .error .usage

/-- Plain words up to the end. -/
def readWords (spec : CommandSpec) (g : Given) (ws : List String) : Except Halt Given :=
  ws.foldlM (fun g w => g.addWord spec w) g

/-- Reads a command line; a subcommand ends it. -/
def readArguments (spec : CommandSpec) :
    Given → List String → Except Halt (Given × Option (String × List String))
  | g, [] => .ok (g, none)
  | g, w :: ws =>
    match Word.of w with
    | .divider => (readWords spec g ws).map fun g => (g, none)
    | .letters cs => (readLetters spec g cs).bind fun g => readArguments spec g ws
    | .plain =>
      if spec.subcommands.contains w then .ok (g, some (w, ws))
      else if w = "help" && !spec.subcommands.isEmpty then .error .help
      else (g.addWord spec w).bind fun g => readArguments spec g ws
    | .long name value =>
      match findLong spec name value.isSome with
      | .error halt => .error halt
      | .ok o =>
        match value with
        | some v => (g.addValue o v).bind fun g => readArguments spec g ws
        | none =>
          if o.kind = .flag then (g.addFlag o).bind fun g => readArguments spec g ws
          else match ws with
            | v :: ws =>
              if Word.of v = .plain then (g.addValue o v).bind fun g => readArguments spec g ws
              else .error .usage
            | [] => .error .usage

end SwaggerCmdlets.Program
