import SwaggerCmdlets.Url.Path

/-! # Reading addresses — from text to parts

    An address starts with its scheme; a text without one is relative, and there
    is nothing here that it could be relative to.  Blanks and controls at both
    ends are dropped, tabs and line ends everywhere. -/

namespace SwaggerCmdlets.Url

open Text

/-- The scheme in lower case, and what follows its colon. -/
def readScheme? (cs : List Char) : Option (List Char × List Char) :=
  match cs with
  | c :: _ =>
    if !c.isAlpha then none
    else
      let isPart := fun d : Char => d.isAlphanum || d == '+' || d == '-' || d == '.'
      match cs.dropWhile isPart with
      | ':' :: rest => some ((cs.takeWhile isPart).map Char.toLower, rest)
      | _ => none
  | [] => none

/-- Reads query and fragment. -/
def readTail (kind : SchemeKind) (cs : List Char) : Option String × Option String :=
  let fragment := fun cs : List Char => some (String.ofList (escape fragmentSet cs))
  match cs with
  | '?' :: rest =>
    let set := if kind.isSpecial then specialQuerySet else querySet
    let query := some (String.ofList (escape set (rest.takeWhile (· ≠ '#'))))
    match rest.dropWhile (· ≠ '#') with
    | '#' :: after => (query, fragment after)
    | _ => (query, none)
  | '#' :: rest => (none, fragment rest)
  | _ => (none, none)

/-- Whether the character ends an authority. -/
def endsAuthority (kind : SchemeKind) (c : Char) : Bool :=
  c == '/' || c == '?' || c == '#' || (c == '\\' && kind.isSpecial)

/-- User and password of credentials, escaped. -/
def readCredentials (cs : List Char) : String × String :=
  match splitFirst ':' cs with
  | none => (String.ofList (escape userSet cs), "")
  | some (user, password) =>
    (String.ofList (escape userSet user), String.ofList (escape userSet password))

/-- Splits credentials off at the last `@` of the authority. -/
def splitCredentials (authority : List Char) : Option (List Char) × List Char :=
  if authority.contains '@' then
    let host := (authority.reverse.takeWhile (· ≠ '@')).reverse
    (some (authority.take (authority.length - host.length - 1)), host)
  else (none, authority)

/-- The host part: up to a colon outside brackets. -/
def splitHost (inBrackets : Bool) : List Char → List Char × List Char
  | [] => ([], [])
  | c :: cs =>
    if c == ':' && !inBrackets then ([], c :: cs)
    else
      let (host, rest) :=
        splitHost (if c == '[' then true else if c == ']' then false else inBrackets) cs
      (c :: host, rest)

/-- Reads a port, at most 65535, and what follows its digits.  Only a
    backslash may follow them inside an authority. -/
def readPort (cs : List Char) : Except Fault (Option Nat × List Char) :=
  let digits := cs.takeWhile Char.isDigit
  let rest := cs.drop digits.length
  if rest.head?.any (· ≠ '\\') || 65535 < Host.numeral 10 digits then .error .port
  else .ok (if digits.isEmpty then none else some (Host.numeral 10 digits), rest)

/-- Reads an authority, and says what follows it.  Credentials need a host, and
    so does a port. -/
def readAuthority (kind : SchemeKind) (scheme : String) (cs : List Char) :
    Except Fault (Authority × List Char) := do
  let authority := cs.takeWhile (!endsAuthority kind ·)
  let rest := cs.drop authority.length
  let (credentials, place) := splitCredentials authority
  if credentials == some [] && place.isEmpty && !rest.isEmpty then throw .emptyHost
  let (user, password) := (credentials.map readCredentials).getD ("", "")
  let (hostText, afterHost) := splitHost false place
  if hostText.isEmpty && kind.isSpecial then throw .emptyHost
  let host ← if kind.isSpecial then Host.parse hostText else Host.parseAsWritten hostText
  let isEmpty := host == .name ""
  if isEmpty && afterHost.head? == some ':' then throw .emptyHost
  let (port, afterPort) ← if afterHost.head? == some ':' then readPort (afterHost.drop 1)
    else pure (none, afterHost)
  if isEmpty && (user != "" || password != "") then throw .emptyHost
  return (⟨user, password, if isEmpty then none else some host,
    if port == defaultPort? scheme then none else port⟩, afterPort ++ rest)

/-- Reads what follows `file:`. -/
def readLocal (cs : List Char) : Except Fault Url := do
  let isSlash := fun c : Char => c == '/' || c == '\\'
  let finish := fun (host : Option Host) (p : PathReading) =>
    let (query, fragment) := readTail .file p.rest
    { scheme := "file"
      authority := some ⟨"", "", if p.hostDropped then none else host, none⟩
      guarded := false
      path := String.ofList p.path
      query, fragment : Url }
  let r : PathRules := ⟨.file, true⟩
  match cs with
  | a :: b :: rest =>
    if isSlash a && isSlash b then
      let hostText := rest.takeWhile (!endsAuthority .file ·)
      if isDrive hostText then return finish none (pathFrom r ['/'] rest)
      let rest := rest.drop hostText.length
      let host ← if hostText.isEmpty then pure none else
        (Host.parse hostText).map fun h => if h == .name "localhost" then none else some h
      return finish host (pathAfterAuthority r rest)
    else return finish none (pathFrom r (if isSlash a then [] else ['/']) cs)
  | _ => return finish none (pathFrom r (if cs.any isSlash then [] else ['/']) cs)

/-- Puts `/.` before a path that would be taken for an authority. -/
def guardPath (path : List Char) : Bool :=
  match path with
  | '/' :: '/' :: _ => true
  | _ => false

/-- Reads what follows the colon of the scheme. -/
def readAfterScheme (scheme : String) (cs : List Char) : Except Fault Url := do
  let kind := SchemeKind.of scheme
  let r : PathRules := ⟨kind, true⟩
  let withAuthority := fun cs => do
    let (authority, rest) ← readAuthority kind scheme cs
    let p := pathAfterAuthority r rest
    let (query, fragment) := readTail kind p.rest
    return { scheme, authority := some authority, guarded := false
             path := String.ofList p.path, query, fragment : Url }
  match kind with
  | .file => readLocal cs
  | .special => withAuthority (cs.dropWhile fun c => c == '/' || c == '\\')
  | .other =>
    match cs with
    | '/' :: '/' :: rest => withAuthority rest
    | '/' :: rest =>
      let p := pathFrom r ['/'] rest
      let (query, fragment) := readTail kind p.rest
      return { scheme, authority := none, guarded := guardPath p.path
               path := String.ofList p.path, query, fragment : Url }
    | _ =>
      let (path, rest) := opaquePath true cs
      let (query, fragment) := readTail kind rest
      return { scheme, authority := none, guarded := false
               path := String.ofList path, query, fragment : Url }

/-- A blank or a control, which addresses do not start or end with. -/
def isEdge (c : Char) : Bool := c.toNat ≤ 0x20

/-- The characters of a text that an address is read from. -/
def significant (s : String) : List Char :=
  (dropEndWhile isEdge (s.toList.dropWhile isEdge)).filter (!isIgnored ·)

/-- Reads an address. -/
def parse (s : String) : Except Fault Url :=
  match readScheme? (significant s) with
  | none => .error .relative
  | some (scheme, rest) => readAfterScheme (String.ofList scheme) rest

/-- Whether a text is an address on its own. -/
def isAbsolute (s : String) : Bool :=
  match parse s with
  | .ok _ => true
  | .error _ => false

end SwaggerCmdlets.Url
