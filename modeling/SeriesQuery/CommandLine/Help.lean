import SeriesQuery.CommandLine.Command

/-!
# Help

The help of the program and of each command. What can be given stands in one column and what it
means in the next.
-/

namespace SeriesQuery.CommandLine

inductive Topic where
  | program
  | command (c : Command)
  | help
  deriving DecidableEq

namespace Topic

def pad (width : Nat) (text : String) : String :=
  text ++ "".pushn ' ' (width - text.length)

/-- Two columns, of which the first is as wide as its longest entry. -/
def table (rows : List (String × String)) : String :=
  let width := (rows.map fun row => row.1.length).foldl max 0
  String.join (rows.map fun row => "  " ++ pad width row.1 ++ "  " ++ row.2 ++ "\n")

def examples : String :=
  "EXAMPLES\n" ++
  "  $ tsquery scan 'select * from cpu where host = :host and time > :from'\n" ++
  "  $ tsquery build 'select * from cpu where host = :host' --bind ':host=str:web-1'\n" ++
  "  $ tsquery exec 'select * from cpu where time > :from' --bind ':from=ts:2015-08-14T12:00:00Z' \\\n" ++
  "      --url http://127.0.0.1:8098\n"

def notes : String :=
  "NOTES\n" ++
  "  - Placeholders are `:name` (a letter, then letters, digits or `_`); bind names keep the colon.\n" ++
  "  - Set RUST_LOG=debug for diagnostics on stderr.\n"

def helpRow : String × String := ("-h, --help", "Print help")

def versionRow : String × String := ("-V, --version", "Print version")

def commandRows : List (String × String) :=
  (Command.all.map fun c => (c.name, c.about)) ++ [(helpName, helpAbout)]

/-- An option without a short form keeps its place free. -/
def optionRow (o : ValueOption) : String × String := ("    " ++ o.shown, o.description)

def usageOfCommand (c : Command) : String :=
  programName ++ " " ++ c.name ++ (if c.options.isEmpty then "" else " [OPTIONS]") ++ " <TEMPLATE>"

def text : Topic → String
  | program =>
    programAbout ++ "\n\nUsage: " ++ programName ++ " <COMMAND>\n\nCommands:\n" ++ table commandRows ++
      "\nOptions:\n" ++ table [helpRow, versionRow] ++ "\n" ++ examples ++ "\n" ++ notes
  | command c =>
    c.about ++ "\n\nUsage: " ++ usageOfCommand c ++ "\n\nArguments:\n" ++
      table [("<TEMPLATE>", "Query template text")] ++ "\nOptions:\n" ++
      table (c.options.map optionRow ++ [helpRow])
  | help =>
    helpAbout ++ "\n\nUsage: " ++ programName ++ " " ++ helpName ++ " [COMMAND]...\n\nArguments:\n" ++
      table [("[COMMAND]...", "Print help for the subcommand(s)")]

end Topic

def versionText : String := programName ++ " " ++ programVersion ++ "\n"

end SeriesQuery.CommandLine
