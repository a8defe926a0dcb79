import SeriesQuery.CommandLine.Help
import SeriesQuery.Error
import SeriesQuery.Number.Integer
import SeriesQuery.Settings
import SeriesQuery.Text.Pieces
import SeriesQuery.Text.Terminal
import SeriesQuery.Text.Utf8

/-!
# Reading the arguments

The arguments of the program are words of bytes. A word is a long or a short option, or a value. The
value of an option is attached to it with an equals sign or is the next word. What is given is
judged when it is settled: an attached value at once, and any other when the next option, the next
template or the end of the words comes. An option that is not known, or a second template, is an
error at once. After a word of two hyphens every word is a template.
-/

namespace SeriesQuery.CommandLine

/-- What a query is built from. -/
structure QueryArguments where
  template : String
  binds : List String := []
  paramsFile : Option Bytes := none
  deriving DecidableEq

/-- What the arguments ask for. -/
inductive Invocation where
  | help (topic : Topic)
  | version
  /-- No command is given. -/
  | nothing
  | scan (template : String)
  | build (query : QueryArguments)
  | exec (query : QueryArguments) (settings : Settings)
  deriving DecidableEq

/-- The params file that is to be read, if any. -/
def Invocation.paramsFile? : Invocation → Option Bytes
  | .build query => query.paramsFile
  | .exec query _ => query.paramsFile
  | _ => none

inductive ArgumentFlaw where
  | unexpected (shown : List Char)
  | unexpectedValue (value : List Char) (option : String)
  | unknownCommand (word : List Char)
  | missingTemplate
  | missingValue (o : ValueOption)
  | repeatedOption (o : ValueOption)
  | badTimeout (value : List Char) (flaw : IntegerFlaw)
  | badText
  deriving DecidableEq

namespace ArgumentFlaw

def message : ArgumentFlaw → List Char
  | unexpected shown => "unexpected argument '".toList ++ shown ++ "' found".toList
  | unexpectedValue value option =>
    "unexpected value '".toList ++ value ++ s!"' for '{option}' found; no more were expected".toList
  | unknownCommand word => "unrecognized subcommand '".toList ++ word ++ ['\'']
  | missingTemplate => "the following required arguments were not provided:".toList
  | missingValue o => s!"a value is required for '{o.shown}' but none was supplied".toList
  | repeatedOption o => s!"the argument '{o.shown}' cannot be used multiple times".toList
  | badTimeout value flaw =>
    "invalid value '".toList ++ value ++ s!"' for '{ValueOption.timeout.shown}': {flaw.message}".toList
  | badText => "invalid UTF-8 was detected in one or more arguments".toList

/-- The first line of what a reader sees of a text. -/
def firstLine (text : List Char) : String :=
  String.ofList (trimEnd ((Terminal.visible text).takeWhile (· != '\n')))

def hint : String := "Try `tsquery --help`."

def toError (flaw : ArgumentFlaw) : Error :=
  { kind := .usage, message := some (firstLine flaw.message), hint := some hint }

end ArgumentFlaw

/-! ### Words -/

inductive Word where
  /-- Two hyphens. -/
  | separator
  | long (name : List Char) (value : Option Bytes)
  | short (letters : Bytes)
  | plain (bytes : Bytes)
  deriving DecidableEq

def hyphen : UInt8 := 0x2D

def equalsSign : UInt8 := 0x3D

def Word.ofLong (bytes : Bytes) : Word :=
  let name := Utf8.decodeLossy (bytes.takeWhile (· != equalsSign))
  match bytes.dropWhile (· != equalsSign) with
  | [] => .long name none
  | _ :: value => .long name (some value)

/-- A single hyphen is a value. -/
def Word.ofBytes (bytes : Bytes) : Word :=
  match bytes with
  | a :: b :: rest =>
    if a ≠ hyphen then .plain bytes
    else if b ≠ hyphen then .short (b :: rest)
    else if rest.isEmpty then .separator
    else .ofLong rest
  | _ => .plain bytes

/-- The first letter of a short option, or all of it if that is no text. -/
def firstLetter (letters : Bytes) : List Char :=
  match Utf8.pieces letters with
  | .char c :: _ => [c]
  | _ => Utf8.decodeLossy letters

def shownLong (name : List Char) : List Char := '-' :: '-' :: name

def shownShort (letters : Bytes) : List Char := '-' :: firstLetter letters

def helpFlag : List Char := ['h', 'e', 'l', 'p']

def versionFlag : List Char := ['v', 'e', 'r', 's', 'i', 'o', 'n']

/-! ### The words of a command -/

/-- What waits to be judged. -/
inductive Pending where
  | nothing
  | option (o : ValueOption) (value : Option Bytes)
  | template (value : Bytes)

/-- What a command has been given so far. -/
structure Given where
  template : Option String := none
  binds : List String := []
  paramsFile : Option Bytes := none
  settings : Settings := {}
  pending : Pending := .nothing

namespace Given

def textOf (value : Bytes) : Except ArgumentFlaw String :=
  match Utf8.decode value with
  | .ok text => .ok (String.ofList text)
  | .error _ => .error .badText

def timeoutOf (value : Bytes) : Except ArgumentFlaw UInt64 :=
  match Utf8.decode value with
  | .error _ => .error .badText
  | .ok text =>
    match IntegerRange.word64.parse text with
    | .ok n => .ok (UInt64.ofNat n.toNat)
    | .error flaw => .error (.badTimeout text flaw)

/-- Whether an option has a value and may not have another one. -/
def isTaken (g : Given) : ValueOption → Bool
  | .bind => false
  | .paramsFile => g.paramsFile.isSome
  | .url => g.settings.url.isSome
  | .token => g.settings.token.isSome
  | .timeout => g.settings.timeout.isSome

def store (g : Given) (o : ValueOption) (value : Bytes) : Except ArgumentFlaw Given := do
  match o with
  | .bind => return { g with binds := g.binds ++ [← textOf value] }
  | .paramsFile =>
    if value.isEmpty then .error (.missingValue .paramsFile)
    else return { g with paramsFile := some value }
  | .url => return { g with settings := { g.settings with url := some (← textOf value) } }
  | .token => return { g with settings := { g.settings with token := some (← textOf value) } }
  | .timeout => return { g with settings := { g.settings with timeout := some (← timeoutOf value) } }

def settleOption (g : Given) (o : ValueOption) : Option Bytes → Except ArgumentFlaw Given
  | none => .error (.missingValue o)
  | some value => if g.isTaken o then .error (.repeatedOption o) else g.store o value

/-- Judges what waits. -/
def settle (g : Given) : Except ArgumentFlaw Given :=
  match g.pending with
  | .nothing => .ok g
  | .option o value => ({ g with pending := .nothing } : Given).settleOption o value
  | .template value => do return { g with template := some (← textOf value), pending := .nothing }

def hasTemplate (g : Given) : Bool :=
  match g.pending with
  | .template _ => true
  | _ => g.template.isSome

def takeTemplate (g : Given) (value : Bytes) : Except ArgumentFlaw Given := do
  if g.hasTemplate then .error (.unexpected (Utf8.decodeLossy value))
  let g ← g.settle
  return { g with pending := .template value }

/-- A value belongs to the option before it that has none, or else it is the template. -/
def takeValue (g : Given) (value : Bytes) : Except ArgumentFlaw Given :=
  match g.pending with
  | .option o none => .ok { g with pending := .option o (some value) }
  | _ => g.takeTemplate value

def takeOption (g : Given) (o : ValueOption) (value : Option Bytes) : Except ArgumentFlaw Given := do
  let g ← g.settle
  match value with
  | none => return { g with pending := .option o none }
  | some _ => g.settleOption o value

end Given

/-- The end of reading a command's words, or the state after one of them. -/
inductive Progress where
  | going (g : Given)
  | help

/-- Reads one word of a command. -/
def Command.take (c : Command) (g : Given) : Word → Except ArgumentFlaw Progress
  | .separator => .ok (.going g)
  | .plain bytes => Progress.going <$> g.takeValue bytes
  | .short letters =>
    if firstLetter letters = ['h'] then do
      let _ ← g.settle
      return .help
    else .error (.unexpected (shownShort letters))
  | .long name value =>
    if name = helpFlag then
      match value with
      | none => do
        let _ ← g.settle
        return .help
      | some value => .error (.unexpectedValue (Utf8.decodeLossy value) "--help")
    else
      match c.option? (String.ofList name) with
      | some o => Progress.going <$> g.takeOption o value
      | none => .error (.unexpected (shownLong name))

/-- What a command was given, at the end of the words. -/
def Command.invocation (c : Command) (g : Given) : Except ArgumentFlaw Invocation := do
  let g ← g.settle
  match g.template with
  | none => .error .missingTemplate
  | some template =>
    let query : QueryArguments := { template, binds := g.binds, paramsFile := g.paramsFile }
    match c with
    | .scan => return .scan template
    | .build => return .build query
    | .exec => return .exec query g.settings

def Command.parseFrom (c : Command) (g : Given) : List Bytes → Except ArgumentFlaw Invocation
  | [] => c.invocation g
  | bytes :: rest =>
    match Word.ofBytes bytes with
    | .separator => do c.invocation (← rest.foldlM Given.takeTemplate g)
    | word => do
      match ← c.take g word with
      | .going g => c.parseFrom g rest
      | .help => return .help (.command c)

/-! ### The words of the program -/

/-- The command of a name, or the help command. -/
inductive Named where
  | command (c : Command)
  | help

def named? (bytes : Bytes) : Option Named :=
  match Utf8.decode bytes with
  | .error _ => none
  | .ok text =>
    let name := String.ofList text
    if name = helpName then some .help else (Command.ofName? name).map Named.command

/-- The topics of the help command. No command has commands of its own. -/
def helpTopic : List Bytes → Except ArgumentFlaw Topic
  | [] => .ok .program
  | [bytes] =>
    match named? bytes with
    | some (.command c) => .ok (.command c)
    | some .help => .ok .help
    | none => .error (.unknownCommand (Utf8.decodeLossy bytes))
  | bytes :: next :: _ =>
    match named? bytes with
    | some _ => .error (.unknownCommand (Utf8.decodeLossy next))
    | none => .error (.unknownCommand (Utf8.decodeLossy bytes))

/-- A word after the separator is no command, even if it is named like one. -/
def afterSeparator : List Bytes → Except ArgumentFlaw Invocation
  | [] => .ok .nothing
  | bytes :: _ =>
    match named? bytes with
    | some _ => .error (.unexpected (Utf8.decodeLossy bytes))
    | none => .error (.unknownCommand (Utf8.decodeLossy bytes))

/-- A flag of the program, which has no value. -/
def flag (shown : String) (invocation : Invocation) : Option Bytes → Except ArgumentFlaw Invocation
  | none => .ok invocation
  | some value => .error (.unexpectedValue (Utf8.decodeLossy value) shown)

/-- A first word that is no command. -/
def programFlag : Word → Except ArgumentFlaw Invocation
  | .separator => .ok .nothing
  | .plain bytes => .error (.unknownCommand (Utf8.decodeLossy bytes))
  | .short letters =>
    if firstLetter letters = ['h'] then .ok (.help .program)
    else if firstLetter letters = ['V'] then .ok .version
    else .error (.unexpected (shownShort letters))
  | .long name value =>
    if name = helpFlag then flag "--help" (.help .program) value
    else if name = versionFlag then flag "--version" .version value
    else .error (.unexpected (shownLong name))

/-- What the words after the name of the program ask for. -/
def parse : List Bytes → Except ArgumentFlaw Invocation
  | [] => .ok .nothing
  | bytes :: rest =>
    match named? bytes with
    | some (.command c) => c.parseFrom {} rest
    | some .help => Invocation.help <$> helpTopic rest
    | none =>
      match Word.ofBytes bytes with
      | .separator => afterSeparator rest
      | word => programFlag word

end SeriesQuery.CommandLine
