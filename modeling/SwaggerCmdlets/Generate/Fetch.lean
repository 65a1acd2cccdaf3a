import SwaggerCmdlets.Files.Tree
import SwaggerCmdlets.Generate.Walk

/-! # Fetching — documents by the scheme of their address

    Local documents are read from files.  Documents of web servers need a
    network; where there is none, asking for one fails.  No other scheme is
    known. -/

namespace SwaggerCmdlets.Source

/-- Fetches a document with what reads local files. -/
def fetchBy (readText : Files.Bytes → Except String String) (u : Url) :
    Except FetchFailure String :=
  if u.isWeb then .error .request
  else if u.scheme = "file" then
    match u.filePath? with
    | none => .error (.io ("not a local path: " ++ u.text))
    | some path => (readText path).mapError .io
  else .error (.scheme u.scheme)

/-- Local files as a source.  A document that is read while another one is has a
    path of its own, and paths have only so many bytes. -/
def ofFiles (readText : Files.Bytes → Except String String) : Source :=
  ⟨fetchBy readText, Files.pathLimit⟩

end SwaggerCmdlets.Source
