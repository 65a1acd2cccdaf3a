import SwaggerCmdlets.Generate.Notice
import SwaggerCmdlets.Text.Pieces
import SwaggerCmdlets.Text.Word

/-! # Filters — which notices are shown

    A filter is a row of rules with commas between them.  A rule has a level,
    and perhaps a topic and a detail that a notice must have: `level`, `topic`,
    `topic=level` or `topic[{detail}]=level`.  A topic stands for all
    that start with it.  The most specific rule that fits a notice decides: the
    one with the longest topic, and then one with a detail.

    A rule about a span of time fits no notice, since none is reported inside
    one. -/

namespace SwaggerCmdlets.Log

open Text

/-- A rule; level 0 shows nothing. -/
structure Rule where
  topic : Option String
  detail : Option String
  level : Nat
deriving DecidableEq, Repr

/-- The level that a word or a number names. -/
def level? (s : List Char) : Option Nat :=
  match String.ofList (s.map Char.toLower) with
  | "off" => some 0
  | "error" => some 1
  | "warn" => some 2
  | "info" => some 3
  | "debug" => some 4
  | "trace" => some 5
  | _ =>
    let digits := if s.head? == some '+' then s.drop 1 else s
    if digits.isEmpty || !digits.all Char.isDigit then none
    else
      let n := digits.foldl (fun n c => 10 * n + (c.toNat - 0x30)) 0
      if n ≤ 5 then some n else none

/-- Whether a filter is nothing but the name of a level. -/
def isLevelName (s : String) : Bool :=
  ["trace", "debug", "info", "warn", "error", "off"].contains
    (String.ofList (s.toList.map Char.toLower))

/-- The level after the sign that announces it; all levels if there is none. -/
def levelAfter? (cs : List Char) : Option Nat :=
  if cs.isEmpty then some 5 else level? cs

/-- What stands between braces: a detail, perhaps with a value. -/
def detail? (cs : List Char) : Option (String × Bool) :=
  if cs.isEmpty then none
  else match splitFirst '=' cs with
    | some (name, _) => some (String.ofList name, true)
    | none => some (String.ofList cs, false)

/-- What follows a topic: the end, a level, or what stands in brackets. -/
def ruleAfter? (topic : Option String) (cs : List Char) : Option (Option Rule) :=
  let finish := fun (isSpan : Bool) (detail : Option String) (rest : List Char) =>
    let level := match rest with
      | [] => some 5
      | '=' :: rest => levelAfter? rest
      | _ => none
    level.map fun level => if isSpan then none else some (⟨topic, detail, level⟩ : Rule)
  match cs with
  | '[' :: rest =>
    let name := rest.takeWhile fun c => c != ']' && c != '\x7b'
    match rest.drop name.length with
    | ']' :: rest => finish true none rest
    | '\x7b' :: rest =>
      let inner := rest.takeWhile (· != '\x7d')
      match detail? inner, rest.drop inner.length with
      | some (detail, hasValue), '\x7d' :: ']' :: rest =>
        finish (!name.isEmpty || hasValue) (some detail) rest
      | _, _ => none
    | _ => none
  | _ => finish false none cs

/-- Reads a rule; an inner nothing is a rule that fits no notice. -/
def rule? (s : String) : Option (Option Rule) :=
  let cs := trimChars s.toList
  match cs with
  | [] => none
  | c :: _ =>
    if c == '[' then ruleAfter? none cs
    else if c != '-' && c != ':' && !isWord c then none
    else
      let topic := cs.takeWhile fun c => c != '=' && c != '['
      let rest := cs.drop topic.length
      match rest, level? topic with
      | [], some level => some (some ⟨none, none, level⟩)
      | _, _ => ruleAfter? (some (String.ofList topic)) rest

/-- How specific a rule is. -/
def Rule.weight (r : Rule) : Nat × Nat :=
  ((r.topic.map fun t => byteLength t.toList + 1).getD 0, if r.detail.isSome then 1 else 0)

/-- Whether a rule says something about a notice. -/
def Rule.fits (r : Rule) (n : Notice) : Bool :=
  r.topic.all (fun t => n.topic.startsWith t)
    && r.detail.all fun d => d == "message" || n.details.any (·.1 == d)

/-- Whether one rule goes before an earlier one; of two rules about the same the
    later one counts. -/
def Rule.precedes (a b : Rule) : Bool :=
  let (topic, detail) := a.weight
  let (topic', detail') := b.weight
  topic' < topic || (topic == topic' && (detail' < detail
    || (detail == detail' && (b.topic.getD "" < a.topic.getD ""
      || (a.topic == b.topic && !(a.detail.getD "" < b.detail.getD ""))))))

/-- The rule that decides about a notice. -/
def deciding (rules : List Rule) (n : Notice) : Option Rule :=
  (rules.filter (·.fits n)).foldl
    (fun best r => match best with
      | some b => if r.precedes b then some r else some b
      | none => some r) none

/-- A filter: its rules, and what could not be read as one. -/
structure Filter where
  rules : List Rule
  ignored : List String
deriving DecidableEq, Repr

namespace Filter

/-- Reads a filter. -/
def ofSpec (spec : String) : Filter :=
  let parts := (splitText ',' spec).filter (· ≠ "")
  ⟨(parts.filterMap rule?).filterMap id, parts.filter fun p => (rule? p).isNone⟩

/-- The filter that a setting asks for: the level of the program's own notices,
    or a whole filter. -/
def ofSetting (setting : Option String) (verbose : Bool) : Filter :=
  match setting with
  | some s =>
    if isLevelName s then ofSpec ("swagger_pwsh=" ++ s)
    else if trim s ≠ "" then ofSpec s
    else ofSpec ("swagger_pwsh=" ++ if verbose then "debug" else "info")
  | none => ofSpec ("swagger_pwsh=" ++ if verbose then "debug" else "info")

/-- Whether a notice is shown. -/
def shows (f : Filter) (n : Notice) : Bool :=
  match deciding f.rules n with
  | some r => n.level.rank ≤ r.level
  | none => false

/-- The lines of what a filter could not be made of. -/
def complaints (f : Filter) : List String :=
  f.ignored.map fun part => "ignoring \x60" ++ part ++ "\x60: invalid filter directive"

/-- The lines of the notices that are shown. -/
def lines (f : Filter) (notices : List Notice) : List String :=
  (notices.filter f.shows).map Notice.line

end Filter

end SwaggerCmdlets.Log
