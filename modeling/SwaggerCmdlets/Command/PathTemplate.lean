import SwaggerCmdlets.Command.Parameter
import SwaggerCmdlets.Text.Pieces

/-! # Path templates — subject and parameters read off a path

    A path template is a row of segments, some of them placeholders in braces.
    It is read from right to left.  The right-most bare segment is the subject;
    a placeholder is typed by the nearest bare segment to its left, and one that
    ends the path by the subject.  Of two placeholders in a row only one can be
    typed, and the other is dropped.

    When a second bare segment stands directly left of the subject and nothing
    else has been found, the first was a keyword: it becomes a switch, and the
    second is the subject instead. -/

namespace SwaggerCmdlets

/-- What a path template says: a subject, and the entries that start with it. -/
structure PathShape where
  subject : String
  entries : List Parameter
deriving DecidableEq, Repr

namespace PathTemplate

/-- The segments of a path that are not empty, left to right. -/
def segments (path : String) : List (List Char) :=
  (Text.pieces '/' path.toList).filter (!·.isEmpty)

/-- The name inside the braces of a placeholder segment. -/
def placeholder? : List Char → Option (List Char)
  | '\x7b' :: rest =>
    match rest.reverse with
    | '\x7d' :: name => some name.reverse
    | _ => none
  | _ => none

/-- What the scan expects next on its way to the left. -/
inductive Phase where
  /-- No bare segment yet; perhaps a placeholder that waits for the subject. -/
  | subject (waiting : Option String)
  /-- A bare segment was read last. -/
  | name
  /-- The placeholder waits for the segment that types it. -/
  | type (waiting : String)
deriving DecidableEq, Repr

/-- The scan so far. -/
structure Scan where
  entries : List Parameter
  phase : Phase
deriving DecidableEq, Repr

/-- Nothing read yet. -/
def Scan.start : Scan := ⟨[], .subject none⟩

/-- A placeholder is read. -/
def Scan.placeholder (s : Scan) (name : String) : Scan :=
  match s.phase with
  | .subject _ => { s with phase := .subject (some name) }
  | .name => { s with phase := .type name }
  | .type _ => s

/-- A bare segment is read. -/
def Scan.bare (s : Scan) (word : String) : Scan :=
  match s.phase with
  | .subject none => ⟨s.entries ++ [.subject word], .name⟩
  | .subject (some name) =>
    ⟨Parameter.addNew (s.entries ++ [.subject word]) ⟨name, .named word⟩, .name⟩
  | .type name => ⟨Parameter.addNew s.entries ⟨name, .named word⟩, .name⟩
  | .name =>
    match s.entries with
    | [keyword] => ⟨[.subject word, ⟨keyword.type.text, .switch⟩], .name⟩
    | _ => s

/-- A segment is read. -/
def Scan.segment (s : Scan) (segment : List Char) : Scan :=
  match placeholder? segment with
  | some name => s.placeholder (String.ofList name)
  | none => s.bare (String.ofList segment)

/-- The scan of a whole path, from its last segment to its first. -/
def scan (path : String) : Scan :=
  (segments path).reverse.foldl Scan.segment Scan.start

/-- Subject and entries of a path; nothing when it has no bare segment. -/
def shape? (path : String) : Option PathShape :=
  let entries := (scan path).entries
  entries.head?.map fun first => ⟨first.type.text, entries⟩

end PathTemplate

end SwaggerCmdlets
