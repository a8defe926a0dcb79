import SeriesQuery.Json

/-!
# Errors

Every operation of the client fails with one error type: a kind that fixes the exit code, and
optional texts that say what happened, what to try, and which parameter it was about. The texts of
the underlying causes are kept from the nearest to the first. An error is reported as a JSON object
with the one member `error`, which is an object in turn: the kind and the message are always there,
the other texts only where the error has them.
-/

namespace SeriesQuery

inductive ErrorKind where
  | internal
  | usage
  | notFound
  | permission
  | io
  | invalidTemplate
  | unknownParameter
  | wrongVariantAccess
  | encoding
  | frozen
  deriving DecidableEq

namespace ErrorKind

def name : ErrorKind → String
  | internal => "Internal"
  | usage => "Usage"
  | notFound => "NotFound"
  | permission => "Permission"
  | io => "Io"
  | invalidTemplate => "InvalidTemplate"
  | unknownParameter => "UnknownParameter"
  | wrongVariantAccess => "WrongVariantAccess"
  | encoding => "Encoding"
  | frozen => "Frozen"

def all : List ErrorKind :=
  [internal, usage, notFound, permission, io, invalidTemplate, unknownParameter, wrongVariantAccess,
    encoding, frozen]

def ofName? (name : String) : Option ErrorKind :=
  all.find? fun kind => kind.name == name

def exitCode : ErrorKind → Nat
  | internal => 1
  | usage => 2
  | notFound => 3
  | permission => 4
  | io => 5
  | invalidTemplate => 6
  | unknownParameter => 7
  | wrongVariantAccess => 8
  | encoding => 9
  | frozen => 10

/-- What is shown for an error that has no message of its own. -/
def description : ErrorKind → String
  | internal => "internal error"
  | usage => "usage error"
  | notFound => "not found"
  | permission => "permission denied"
  | io => "i/o error"
  | invalidTemplate => "invalid query template"
  | unknownParameter => "unknown query parameter"
  | wrongVariantAccess => "wrong cell variant"
  | encoding => "encoding error"
  | frozen => "query builder is frozen"

end ErrorKind

structure Error where
  kind : ErrorKind
  message : Option String := none
  hint : Option String := none
  parameter : Option String := none
  causes : List String := []
  deriving DecidableEq

namespace Error

/-- One line: the kind, then the message and the parameter if there are any. -/
def display (e : Error) : String :=
  let message := match e.message with
    | some text => ": " ++ text
    | none => ""
  let parameter := match e.parameter with
    | some name => " (parameter: " ++ name ++ ")"
    | none => ""
  e.kind.name ++ message ++ parameter

/-- The error with another one as its nearest cause. -/
def causedBy (e source : Error) : Error :=
  { e with causes := source.display :: source.causes }

def withParameter (e : Error) (name : String) : Error :=
  { e with parameter := some name }

/-- The message, or the description of the kind if there is none. -/
def summary (e : Error) : String :=
  e.message.getD e.kind.description

/-! ### Reports -/

def textMember (name : String) (value : Option String) : List (String × Json) :=
  (value.map fun text => (name, Json.string text)).toList

def causesMember (causes : List String) : List (String × Json) :=
  if causes.isEmpty then [] else [("causes", .array (causes.map Json.string))]

/-- The members in the order of their names. -/
def members (e : Error) : List (String × Json) :=
  causesMember e.causes ++ textMember "hint" e.hint ++
    [("kind", .string e.kind.name), ("message", .string e.summary)] ++
      textMember "parameter" e.parameter

def toJson (e : Error) : Json :=
  .object [("error", .object e.members)]

end Error

end SeriesQuery
