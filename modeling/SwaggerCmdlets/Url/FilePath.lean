import SwaggerCmdlets.Url.Parse

/-! # Local paths — files as addresses

    A local path becomes a `file` address by way of its components: the pieces
    between slashes, without empty pieces and without single dots.  Two dots
    stay.  Going back, the segments of the address are unescaped into bytes,
    which need not be those of a text. -/

namespace SwaggerCmdlets.Url

open Text

/-- The components of a local path. -/
def components (cs : List Char) : List (List Char) :=
  (pieces '/' cs).filter fun p => !p.isEmpty && p != ['.']

/-- The `file` address of an absolute path, given by its components. -/
def ofComponents (parts : List (List Char)) : Url :=
  let path := if parts.isEmpty then ['/']
    else parts.flatMap fun p => '/' :: escape segmentSet p
  { scheme := "file"
    authority := some ⟨"", "", none, none⟩
    guarded := false
    path := String.ofList path
    query := none
    fragment := none }

/-- The `file` address of a local path, resolved against the working directory;
    nothing when it is relative and there is no working directory. -/
def ofFilePath? (cwd : Option String) (path : String) : Option Url :=
  match path.toList with
  | '/' :: _ => some (ofComponents (components path.toList))
  | cs => cwd.map fun dir => ofComponents (components dir.toList ++ components cs)

/-- The bytes of the local path that a `file` address leads to; nothing when
    the address names a host or has no segments. -/
def filePath? (u : Url) : Option (List UInt8) :=
  let isLocal : Bool := match u.authority with
    | none => true
    | some a => a.host == none || a.host == some (.name "localhost")
  match u.path.toList with
  | '/' :: rest =>
    if isLocal then
      let bytes := (pieces '/' rest).flatMap fun segment => 0x2F :: unescape segment
      match bytes.reverse with
      | mark :: letter :: _ :: _ =>
        let isLetter := (0x41 ≤ letter && letter ≤ 0x5A) || (0x61 ≤ letter && letter ≤ 0x7A)
        if isLetter && (mark == 0x3A || mark == 0x7C) then some (bytes ++ [0x2F])
        else some bytes
      | _ => some bytes
    else none
  | _ => none

end SwaggerCmdlets.Url
