/-!
# Commands and their options

The program has three commands. Each takes a query template, and options that have a value.
-/

namespace SeriesQuery.CommandLine

inductive ValueOption where
  | bind
  | paramsFile
  | url
  | token
  | timeout
  deriving DecidableEq

namespace ValueOption

def name : ValueOption → String
  | bind => "bind"
  | paramsFile => "params-file"
  | url => "url"
  | token => "token"
  | timeout => "timeout-ms"

def valueName : ValueOption → String
  | bind => "NAME=TYPE:VALUE"
  | paramsFile => "PATH"
  | url => "URL"
  | token => "TOKEN"
  | timeout => "TIMEOUT_MS"

def description : ValueOption → String
  | bind => "Bind a placeholder (repeatable); TYPE is str|int|long|float|double|bool|ts|raw|null"
  | paramsFile => "JSON object of placeholder -> cell, applied before --bind"
  | url => "Base URL of the query endpoint (env: TSQUERY_URL)"
  | token => "Bearer token (env: TSQUERY_TOKEN)"
  | timeout => "Request timeout in milliseconds (env: TSQUERY_TIMEOUT_MS)"

/-- The option as it is shown, with a name for its value. -/
def shown (o : ValueOption) : String :=
  "--" ++ o.name ++ " <" ++ o.valueName ++ ">"

end ValueOption

inductive Command where
  | scan
  | build
  | exec
  deriving DecidableEq

namespace Command

def all : List Command := [scan, build, exec]

def name : Command → String
  | scan => "scan"
  | build => "build"
  | exec => "exec"

def about : Command → String
  | scan => "List the placeholders a template declares"
  | build => "Bind parameters and print the query payload"
  | exec => "Bind parameters and run the query against a remote endpoint"

def options : Command → List ValueOption
  | scan => []
  | build => [.bind, .paramsFile]
  | exec => [.bind, .paramsFile, .url, .token, .timeout]

def ofName? (name : String) : Option Command :=
  all.find? fun command => command.name == name

def option? (c : Command) (name : String) : Option ValueOption :=
  c.options.find? fun o => o.name == name

end Command

def programName : String := "tsquery"

def programVersion : String := "0.1.0"

def programAbout : String := "Build and run parameterized time-series queries"

/-- The command that prints help. -/
def helpName : String := "help"

def helpAbout : String := "Print this message or the help of the given subcommand(s)"

end SeriesQuery.CommandLine
