import SwaggerCmdlets.Program.Report

/-! # The program — its ties to the world

    What the program answers is a function of the world around it.  Here the
    world is looked at: a run is tried with what is known, what it asked for in
    vain is read, and the run is tried again until nothing is left to ask.
    There is no network, so documents of web servers are never there. -/

namespace SwaggerCmdlets.Program

/-- What has been seen of the world. -/
structure Seen where
  settings : List (String × String)
  cwd : Option String
  /-- Texts of files, or why there are none, by path. -/
  texts : List (Files.Bytes × Except String String)
  /-- Why files could not be written, by path. -/
  refusals : List (String × String)

/-- The world as far as it has been seen. -/
def Seen.world (s : Seen) : World :=
  { environment := fun name => s.settings.lookup name
    cwd := s.cwd
    readText := fun path => (s.texts.lookup path).getD (.error Files.Fault.missing.message)
    refuses := fun path _ => s.refusals.lookup path }

/-- The local files that a report asked for and that have not been looked at. -/
def Seen.wanted (s : Seen) (r : Report) : List Files.Bytes :=
  (r.requests.filterMap fun uri => (Url.parse uri).toOption.bind Url.filePath?).filter
    fun path => (s.texts.lookup path).isNone

/-- The number of an error of the system; some of them come negated. -/
def errorNumber (code : UInt32) : UInt32 :=
  if code < 4096 then code else 0 - code

/-- An error of the system in words. -/
def reason (e : IO.Error) : String :=
  match e with
  | .noFileOrDirectory .. => Files.Fault.missing.message
  | .inappropriateType _ code _ =>
    if errorNumber code = 20 then Files.Fault.noDirectory.message
    else Files.Fault.directory.message
  | .invalidArgument _ code _ =>
    if errorNumber code = 36 then Files.Fault.tooLong.message else toString e
  | .permissionDenied .. => "Permission denied (os error 13)"
  | _ => toString e

/-- Reads a file. -/
def readText (path : Files.Bytes) : IO (Except String String) := do
  if path.contains 0 then
    return .error Files.Fault.zeroByte.message
  match Text.decodeUtf8? path with
  | none => return .error Files.Fault.missing.message
  | some cs =>
    match ← (IO.FS.readBinFile (String.ofList cs)).toBaseIO with
    | .error e => return .error (reason e)
    | .ok bytes =>
      return match Text.decodeUtf8? bytes.toList with
        | some text => .ok (String.ofList text)
        | none => .error Files.Fault.noText.message

/-- Writes files up to the first that cannot be written. -/
def writeTexts : List (String × String) → IO (Option (String × String))
  | [] => return none
  | (path, text) :: rest => do
    match ← (IO.FS.writeFile path text).toBaseIO with
    | .error e => return some (path, reason e)
    | .ok () => writeTexts rest

/-- Tries a run until nothing is left to ask. -/
partial def settle (answer : World → Report) (s : Seen) : IO Report := do
  let report := answer s.world
  match s.wanted report with
  | path :: _ =>
    let text ← readText path
    settle answer { s with texts := (path, text) :: s.texts }
  | [] =>
    match ← writeTexts report.written with
    | some refusal => settle answer { s with refusals := refusal :: s.refusals }
    | none => return report

/-- The variables that are set, of those that the program knows. -/
def settings : IO (List (String × String)) := do
  let names :=
    [Config.apiBaseVariable, Config.tokenVariable, Config.passthroughVariable, logVariable]
  let values ← names.mapM fun name => return (← IO.getEnv name).map fun value => (name, value)
  return values.filterMap id

end SwaggerCmdlets.Program

open SwaggerCmdlets.Program in
/-- The program; under its second name it writes the command tree. -/
def main (args : List String) : IO UInt32 := do
  let name := (← IO.appPath).fileName
  let cwd := (← IO.currentDir.toBaseIO).toOption.map toString
  let answer := fun w => if name == some "dump_commands" then dump w args else run w args
  let report ← settle answer ⟨← settings, cwd, [], []⟩
  for line in report.output do
    IO.println line
  for line in report.errors do
    IO.eprintln line
  return report.code.toUInt32
