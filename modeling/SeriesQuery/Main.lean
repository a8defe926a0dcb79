import SeriesQuery.CommandLine.Run

/-!
# The program

Reads what a run can see of the machine, runs, and writes what the run leaves. No transport is part
of the program, so a request never gets a reply.
-/

namespace SeriesQuery

open CommandLine

/-- The variables that settings are read from. -/
def readEnvironment : IO (String → Option String) := do
  let names := [Settings.urlVariable, Settings.tokenVariable, Settings.timeoutVariable]
  let values ← names.mapM fun name => do return (name, ← IO.getEnv name)
  return fun name => (values.lookup name).join

def faultOfError : IO.Error → FileFault
  | .permissionDenied .. => .permissionDenied
  | .inappropriateType _ code _ => if code = 21 then .isDirectory else .notDirectory
  | _ => .notFound

def readContent (path : Bytes) : IO (Except FileFault Bytes) := do
  try
    let content ← IO.FS.readBinFile (String.ofList (Utf8.decodeLossy path))
    return .ok content.toList
  catch e => return .error (faultOfError e)

/-- The content of the file that the words name. -/
def readNamedFile (words : List Bytes) : IO (Except FileFault Bytes) :=
  match parse words with
  | .ok invocation =>
    match invocation.paramsFile? with
    | some path => readContent path
    | none => return .error .notFound
  | .error _ => return .error .notFound

def program (arguments : List String) : IO UInt32 := do
  let words := arguments.map Utf8.ofString
  let environment ← readEnvironment
  let content ← readNamedFile words
  let output ← IO.getStdout
  let error ← IO.getStderr
  let surroundings : Surroundings := {
    environment
    contentOf := fun _ => content
    endpoint := fun _ => none
    outputIsTerminal := ← output.isTty
    errorIsTerminal := ← error.isTty }
  let outcome := run surroundings words
  output.putStr outcome.output
  output.flush
  error.putStr outcome.error
  error.flush
  return UInt32.ofNat outcome.exitCode

end SeriesQuery

def main (arguments : List String) : IO UInt32 :=
  SeriesQuery.program arguments
