import GivenNames.Program
import GivenNames.Sample

/-!
The command line.

`[path]` loads the registrations and answers the messages on the standard input, one line each.
`--write-sample [path]` writes the sample data; here only delimited files can be stored.
-/

namespace GivenNames.CommandLine

/-- The code that the system gives where a path goes on behind a file. -/
def notDirectoryCode : UInt32 := 20

/-- What stands at a path of the file system. -/
def content (path : String) : IO Content := do
  try
    let bytes ← IO.FS.readBinFile path
    return .bytes bytes.data.toList
  catch
    | .noFileOrDirectory .. => return .nothing .notFound
    | .inappropriateType _ code _ =>
      return if code = notDirectoryCode then .nothing .notDirectory else .directory
    | e => throw e

/-- Reads the rest of a line, its line feed included; `begun` is held back to front. -/
partial def readLine (stream : IO.FS.Stream) (begun : Text.Bytes) : IO Text.Bytes := do
  let bytes ← stream.read 1
  match bytes.data[0]? with
  | none => return begun.reverse
  | some b =>
    if b == Text.lineFeed then return (b :: begun).reverse
    else readLine stream (b :: begun)

/-- Answers messages until the input ends, or until it fails. -/
partial def serve (registry : Registry) (filter : LogFilter) : IO (Option Stop) := do
  let line ← readLine (← IO.getStdin) []
  match Text.lines line with
  | [] => return none
  | line :: _ =>
    match Service.answerLine registry line with
    | .error stop => return some stop
    | .ok none => serve registry filter
    | .ok (some (response, events)) =>
      IO.eprint (filter.lines events)
      let out ← IO.getStdout
      out.putStr (response.text ++ "\n")
      out.flush
      serve registry filter

/-- Reports a failure, and gives the exit code. -/
def fail (causes : List String) : IO UInt32 := do
  IO.eprint (Program.failureText causes)
  return 1

/-- Loads the registrations and answers messages. -/
def answer (args : List String) : IO UInt32 := do
  let env : Environment := {
    dataPath := ← IO.getEnv Environment.dataPathVariable
    logLevel := ← IO.getEnv Environment.logLevelVariable
    logFilter := ← IO.getEnv Environment.logFilterVariable }
  let filter := (Program.logFilter args env).1
  let path := (Program.config args env).dataPath
  IO.eprint (Program.opening args env)
  match loadWithEvents path (← content path) with
  | (.error e, _) => fail e.causes
  | (.ok registry, events) =>
    IO.eprint (filter.lines (events ++ [.ready]))
    match ← serve registry filter with
    | none => return 0
    | some stop => fail stop.causes

/-- Writes the sample data. -/
def writeSample (args : List String) : IO UInt32 := do
  let file := Sample.run args
  match file.content with
  | .bytes bytes =>
    IO.FS.writeBinFile file.path ⟨bytes.toArray⟩
    IO.print file.message
    return 0
  | _ => fail ["writing " ++ file.path, "only delimited files can be stored"]

end GivenNames.CommandLine

/-- Runs the program. -/
def main (args : List String) : IO UInt32 :=
  match args with
  | "--write-sample" :: args => GivenNames.CommandLine.writeSample args
  | args => GivenNames.CommandLine.answer args
