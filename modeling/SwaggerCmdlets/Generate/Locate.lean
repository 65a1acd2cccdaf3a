import SwaggerCmdlets.Generate.Failure
import SwaggerCmdlets.Url.FilePath

/-! # Locations — where documents are

    The first document is named by an address or by a local path.  A document
    that it refers to lies below it: the reference is appended to the path, with
    one slash between them, whatever else the reference looks like.  So nothing
    but the path changes, and query and fragment go. -/

namespace SwaggerCmdlets.Locate

open Text

/-- The address of the first document.  A local path is resolved against the
    working directory. -/
def root (cwd : Option String) (given : String) : Except Failure Url :=
  let given := trim given
  if given = "" then .error .noUri
  else
    match Url.parse given with
    | .ok u => .ok u
    | .error .relative =>
      match Url.ofFilePath? cwd given with
      | some u => .ok u
      | none => .error (.invalidUri given .relative)
    | .error fault => .error (.invalidUri given fault)

/-- The path of a document that the document at `path` refers to. -/
def childPath (path reference : String) : String :=
  String.ofList (trimEndOf '/' path.toList ++ '/' :: trimStartOf '/' reference.toList)

/-- The address of a document that the document at `parent` refers to. -/
def child (parent : Url) (reference : String) : Url :=
  { parent.withPath (childPath parent.path reference) with query := none, fragment := none }

end SwaggerCmdlets.Locate
