import SeriesQuery.BindSpec
import SeriesQuery.CommandLine.Arguments
import SeriesQuery.Params
import SeriesQuery.Remote

/-!
# Running the program

A run reads the arguments and its surroundings, and leaves an exit code, two texts, and the requests
it sent. A result goes to standard output as one JSON document. An error goes to standard error, as
JSON or in words, and its kind fixes the exit code.
-/

namespace SeriesQuery.CommandLine

/-- What a run can see of the machine. -/
structure Surroundings where
  environment : String → Option String
  contentOf : Bytes → Except FileFault Bytes
  endpoint : Remote.Endpoint
  /-- The words of the transport for its faults. -/
  explain : Explanation := .silent
  outputIsTerminal : Bool
  errorIsTerminal : Bool

/-- What a run leaves. -/
structure Outcome where
  exitCode : Nat
  output : String := ""
  error : String := ""
  requests : List Request := []
  deriving DecidableEq

/-! ### Texts -/

/-- A document on a line of its own, or laid out for a reader. -/
def documentText (forTerminal : Bool) (document : Json) : String :=
  let sorted := document.sortMembers
  (if forTerminal then sorted.indentedText else sorted.compactText) ++ "\n"

/-- The lines that tell an error in words. -/
def errorLines (e : Error) : List String :=
  ["error: " ++ e.summary] ++ (e.parameter.map fun name => "parameter: " ++ name).toList ++
    (e.hint.map fun hint => "hint: " ++ hint).toList ++
      e.causes.map fun cause => "caused by: " ++ cause

def errorText (forTerminal : Bool) (e : Error) : String :=
  if forTerminal then "\n".intercalate (errorLines e) ++ "\n" else e.toJson.compactText ++ "\n"

/-! ### Commands -/

def placeholdersDocument (template : String) : Except Error Json := do
  let found ← scanPlaceholders template
  return .object [("placeholders", .array (found.names.map Json.string))]

/-- The entries of the params file come before those of the bind options. -/
def boundEntries (s : Surroundings) (a : QueryArguments) : Except Error (List (String × Cell)) := do
  let fromFile ← match a.paramsFile with
    | some path => Params.ofFile (String.ofList (Utf8.decodeLossy path)) (s.contentOf path)
    | none => .ok []
  let fromOptions ← a.binds.mapM BindSpec.parse
  return fromFile ++ fromOptions

def buildQuery (s : Surroundings) (a : QueryArguments) : Except Error Query := do
  let b ← QueryBuilder.new a.template
  let entries ← boundEntries s a
  (QueryBuilder.bindAndBuild entries).on b |>.1

/-- The store that the settings name, with those of the options on top of those of
the environment. -/
def remoteOf (s : Surroundings) (settings : Settings) : Except Error Remote := do
  let lower ← Settings.ofEnvironment s.environment
  Remote.ofSettings (lower.merge settings)

def remoteAndQuery (s : Surroundings) (a : QueryArguments) (settings : Settings) :
    Except Error (Remote × Query) := do
  let remote ← remoteOf s settings
  let query ← buildQuery s a
  return (remote, query)

/-! ### Outcomes -/

/-- The outcome of a run that has a document or an error to show. -/
def report (s : Surroundings) (requests : List Request) : Except Error Json → Outcome
  | .ok document => { exitCode := 0, output := documentText s.outputIsTerminal document, requests }
  | .error e => { exitCode := e.kind.exitCode, error := errorText s.errorIsTerminal e, requests }

def execOutcome (s : Surroundings) (a : QueryArguments) (settings : Settings) : Outcome :=
  match remoteAndQuery s a settings with
  | .error e => report s [] (.error e)
  | .ok (remote, query) =>
    report s (remote.sent s.endpoint query)
      ((remote.execute s.endpoint query s.explain).map QueryResult.toJson)

/-- Help that nobody asked for is an error. -/
def usageExitCode : Nat := 2

def perform (s : Surroundings) : Invocation → Outcome
  | .help topic => { exitCode := 0, output := topic.text }
  | .version => { exitCode := 0, output := versionText }
  | .nothing => { exitCode := usageExitCode, error := Topic.program.text }
  | .scan template => report s [] (placeholdersDocument template)
  | .build a => report s [] ((buildQuery s a).map Query.payload)
  | .exec a settings => execOutcome s a settings

/-- Runs the program with the words that stand after its name. -/
def run (s : Surroundings) (words : List Bytes) : Outcome :=
  match parse words with
  | .ok invocation => perform s invocation
  | .error flaw => report s [] (.error flaw.toError)

end SeriesQuery.CommandLine
