import SwaggerCmdlets.Text.Pieces
import SwaggerCmdlets.Text.Utf8

/-! # File trees — files and directories by path

    A path is a row of names.  It is followed name by name from the root or
    from the working directory: every name but the last has to be that of a
    directory, one dot stays where it is, and two dots go one directory up.
    Names and paths have a greatest length.

    Reading wants a file at the end of the path.  Writing wants a directory to
    put the file into, and replaces a file that is there. -/

namespace SwaggerCmdlets.Files

open Text

/-- Why a file was not read or written. -/
inductive Fault where
  | missing
  | noDirectory
  | directory
  | tooLong
  | zeroByte
  | noText
deriving DecidableEq, Repr

/-- The fault in words. -/
def Fault.message : Fault → String
  | missing => "No such file or directory (os error 2)"
  | noDirectory => "Not a directory (os error 20)"
  | directory => "Is a directory (os error 21)"
  | tooLong => "File name too long (os error 36)"
  | zeroByte => "file name contained an unexpected NUL byte"
  | noText => "stream did not contain valid UTF-8"

/-- A sequence of bytes. -/
abbrev Bytes := List UInt8

/-- The names that lead from the root to a place. -/
abbrev Place := List Bytes

/-- The bytes that a path may have, and its end. -/
def pathLimit : Nat := 4096

/-- The bytes that a name may have. -/
def nameLimit : Nat := 255

/-- A slash. -/
def slash : UInt8 := 0x2F

/-- The pieces between the slashes of a path. -/
def names : Bytes → List Bytes
  | [] => [[]]
  | b :: bs =>
    if b = slash then [] :: names bs
    else match names bs with
      | [] => [[b]]
      | n :: ns => (b :: n) :: ns

/-- Directories, and files with their content. -/
structure Tree where
  directories : List Place
  files : List (Place × Bytes)

namespace Tree

/-- The content of a file. -/
def file? (t : Tree) (p : Place) : Option Bytes := (t.files.find? (·.1 == p)).map (·.2)

/-- Whether a place is a directory; the root always is. -/
def isDirectory (t : Tree) (p : Place) : Bool := p.isEmpty || t.directories.contains p

/-- One step from a directory. -/
def step (t : Tree) (here : Place) (name : Bytes) : Except Fault Place :=
  if name == [] || name == [0x2E] then .ok here
  else if name == [0x2E, 0x2E] then .ok here.dropLast
  else if nameLimit < name.length then .error .tooLong
  else
    let there := here ++ [name]
    if t.isDirectory there || (t.file? there).isSome then .ok there else .error .missing

/-- Follows names; a file has nothing below it, not even itself. -/
def follow (t : Tree) (here : Place) : List Bytes → Except Fault Place
  | [] => .ok here
  | n :: ns =>
    if !t.isDirectory here then .error .noDirectory
    else match t.step here n with
      | .error fault => .error fault
      | .ok there => follow t there ns

/-- Where a path starts: at the root, or in the working directory. -/
def origin (cwd : Place) (path : Bytes) : Place :=
  if path.head? == some slash then [] else cwd

/-- What is wrong with a path before it is followed. -/
def pathFault? (path : Bytes) : Option Fault :=
  if path.contains 0 then some .zeroByte
  else if path.isEmpty then some .missing
  else if pathLimit ≤ path.length then some .tooLong
  else none

/-- The content of the file at a path. -/
def read (t : Tree) (cwd : Place) (path : Bytes) : Except Fault Bytes :=
  match pathFault? path with
  | some fault => .error fault
  | none =>
    match t.follow (origin cwd path) (names path) with
    | .error fault => .error fault
    | .ok place =>
      match t.file? place with
      | some content => .ok content
      | none => .error .directory

/-- The text of the file at a path. -/
def readText (t : Tree) (cwd : Place) (path : Bytes) : Except Fault String :=
  match t.read cwd path with
  | .error fault => .error fault
  | .ok content =>
    match decodeUtf8? content with
    | some cs => .ok (String.ofList cs)
    | none => .error .noText

/-- Sets the content of a file. -/
def setFile (place : Place) (content : Bytes) : List (Place × Bytes) → List (Place × Bytes)
  | [] => [(place, content)]
  | f :: fs => if f.1 = place then (place, content) :: fs else f :: setFile place content fs

/-- The tree with a file at a path. -/
def write (t : Tree) (cwd : Place) (path : Bytes) (content : Bytes) : Except Fault Tree :=
  match pathFault? path with
  | some fault => .error fault
  | none =>
    let parts := names path
    let closed := dropEndWhile (·.isEmpty) parts
    let name := closed.getLastD []
    match t.follow (origin cwd path) closed.dropLast with
    | .error fault => .error fault
    | .ok place =>
      if !t.isDirectory place then .error .noDirectory
      else if closed.length < parts.length || name == [] || name == [0x2E] || name == [0x2E, 0x2E]
      then .error .directory
      else if nameLimit < name.length then .error .tooLong
      else if t.isDirectory (place ++ [name]) then .error .directory
      else .ok { t with files := setFile (place ++ [name]) content t.files }

/-- The directories above a place. -/
def above (p : Place) : List Place := (List.range p.length).map p.take

/-- The tree with a file and the directories above it. -/
def plant (t : Tree) (place : Place) (content : Bytes) : Tree :=
  ⟨t.directories ++ above place, setFile place content t.files⟩

end Tree

end SwaggerCmdlets.Files
