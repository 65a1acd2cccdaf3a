import SwaggerCmdlets.Url.Basic

/-! # Paths — segments, dots and drives

    A path is read segment by segment.  A segment of one dot adds nothing, one of
    two dots takes the segment before it away; both may be written with
    escapes.  In `file` addresses a drive letter is a segment of its own, is not
    taken away, and leaves the address without a host.

    A path ends before a query or a fragment, unless it is set on an address
    that exists: then `?` and `#` belong to it and are escaped. -/

namespace SwaggerCmdlets.Url

/-- How a path is read. -/
structure PathRules where
  kind : SchemeKind
  /-- Whether `?` and `#` end the path. -/
  ends : Bool

/-- A path that is being read: the closed part, which ends with a slash or is
    empty, the open segment, and whether a drive letter dropped the host. -/
structure PathBuilder where
  closed : List Char
  segment : List Char
  hostDropped : Bool

/-- A letter and a colon or a bar, alone or before a separator. -/
def startsWithDrive : List Char → Bool
  | a :: b :: rest =>
    a.isAlpha && (b == ':' || b == '|')
      && (match rest with
          | [] => true
          | c :: _ => c == '/' || c == '\\' || c == '?' || c == '#')
  | _ => false

/-- A letter and a colon or a bar. -/
def isDrive (cs : List Char) : Bool := cs.length == 2 && startsWithDrive cs

/-- A letter and a colon. -/
def isNormalDrive (cs : List Char) : Bool := isDrive cs && cs[1]? == some ':'

/-- Whether a segment is one dot. -/
def isDot (cs : List Char) : Bool :=
  [".", "%2e", "%2E"].any (·.toList == cs)

/-- Whether a segment is two dots. -/
def isDotDot (cs : List Char) : Bool :=
  ["..", "%2e%2e", "%2e%2E", "%2E%2e", "%2E%2E", "%2e.", "%2E.", ".%2e", ".%2E"].any
    (·.toList == cs)

/-- The path up to its last slash, that slash included. -/
def uptoLastSlash (cs : List Char) : List Char :=
  (cs.reverse.dropWhile (· ≠ '/')).reverse

/-- The segment after the last slash. -/
def afterLastSlash (cs : List Char) : List Char :=
  (cs.reverse.takeWhile (· ≠ '/')).reverse

/-- Whether the slash that ends the path may go: not the first one, and not one
    after a drive letter. -/
def canDropSlash (closed : List Char) : Bool :=
  let before := closed.dropLast
  before.contains '/' && !startsWithDrive (afterLastSlash before ++ ['/'])

/-- Takes the last segment away, unless it is the drive of a `file` address. -/
def popSegment (kind : SchemeKind) (path : List Char) : List Char :=
  if kind == .file && isNormalDrive (afterLastSlash path) then path
  else uptoLastSlash path

/-- The closed part after a segment of two dots. -/
def goUp (kind : SchemeKind) (closed : List Char) : List Char :=
  if closed.getLast? == some '/' && canDropSlash closed
  then popSegment kind closed.dropLast
  else popSegment kind closed

/-- Closes the open segment, with or without a slash after it. -/
def PathBuilder.close (r : PathRules) (b : PathBuilder) (slash : Bool) : PathBuilder :=
  let tail := if slash then ['/'] else []
  if isDotDot b.segment then
    let up := goUp r.kind b.closed
    { b with
      closed := if slash && up.getLast? != some '/' then up ++ ['/'] else up
      segment := [] }
  else if isDot b.segment then
    { b with
      closed := if b.closed.getLast? == some '/' then b.closed else b.closed ++ ['/']
      segment := [] }
  else if r.kind == .file && isDrive b.segment then
    { closed := b.closed ++ b.segment.take 1 ++ [':'] ++ tail
      segment := []
      hostDropped := true }
  else { b with closed := b.closed ++ b.segment ++ tail, segment := [] }

/-- Adds a character to the open segment, after the slash that a drive letter
    at the start of a `file` path calls for. -/
def PathBuilder.push (r : PathRules) (b : PathBuilder) (c : Char) : PathBuilder :=
  if r.kind == .file && isNormalDrive ((b.closed ++ b.segment).drop 1) then
    let whole := b.closed ++ b.segment ++ ['/']
    { b with
      closed := whole.take (b.closed.length + 1)
      segment := whole.drop (b.closed.length + 1) ++ escapeChar pathSet c }
  else { b with segment := b.segment ++ escapeChar pathSet c }

/-- Reads a path: what was built, and what follows it. -/
def readPath (r : PathRules) : List Char → PathBuilder → PathBuilder × List Char
  | [], b => (b.close r false, [])
  | c :: cs, b =>
    if r.ends && (c == '?' || c == '#') then (b.close r false, c :: cs)
    else if c == '/' || (c == '\\' && r.kind.isSpecial) then readPath r cs (b.close r true)
    else readPath r cs (b.push r c)

/-- A path that has been read. -/
structure PathReading where
  path : List Char
  hostDropped : Bool
  rest : List Char

/-- Reads a path of which `start` is already there; a `file` path has one slash
    at its front. -/
def pathFrom (r : PathRules) (start cs : List Char) : PathReading :=
  let (b, rest) := readPath r cs ⟨start, [], false⟩
  let path := if r.kind == .file then '/' :: b.closed.dropWhile (· == '/') else b.closed
  ⟨path, b.hostDropped, rest⟩

/-- Reads the path after an authority. -/
def pathAfterAuthority (r : PathRules) (cs : List Char) : PathReading :=
  if r.kind.isSpecial then
    match cs with
    | '/' :: rest | '\\' :: rest => pathFrom r ['/'] rest
    | _ => pathFrom r ['/'] cs
  else
    match cs with
    | '?' :: _ | '#' :: _ => ⟨[], false, cs⟩
    | [] => pathFrom r [] []
    | '/' :: _ => pathFrom r [] cs
    | _ => pathFrom r ['/'] cs

/-- Reads an opaque path. -/
def opaquePath (ends : Bool) : List Char → List Char × List Char
  | [] => ([], [])
  | c :: cs =>
    if ends && (c == '?' || c == '#') then ([], c :: cs)
    else
      let (path, rest) := opaquePath ends cs
      (escapeChar controlSet c ++ path, rest)

/-- Characters that addresses are read without. -/
def isIgnored (c : Char) : Bool := c == '\t' || c == '\n' || c == '\r'

/-- The address with another path.  Nothing but the path changes. -/
def withPath (u : Url) (path : String) : Url :=
  let cs := path.toList.filter (!isIgnored ·)
  if u.isOpaque then
    let cs := match path.toList with
      | '/' :: _ => "%2F".toList ++ (opaquePath false (cs.drop 1)).1
      | _ => (opaquePath false cs).1
    { u with path := String.ofList cs }
  else
    let r : PathRules := ⟨SchemeKind.of u.scheme, false⟩
    { u with path := String.ofList (pathAfterAuthority r cs).path }

end SwaggerCmdlets.Url
