import SeriesQuery.Bytes.Pairs
import SeriesQuery.Error
import SeriesQuery.Instant.Rfc3339
import SeriesQuery.Number.Decimal
import SeriesQuery.Text.Pieces

/-!
# Bind specs

A bind spec `NAME=TYPE:VALUE` gives a cell to a name; `NAME=null` needs no value. Everything up to
the first equals sign is the name, and everything up to the first colon after it is the type, so a
value may hold both. A spec that is not built like this is a usage error. A value that its type
cannot read is an encoding error.
-/

namespace SeriesQuery

inductive BindType where
  | str
  | int
  | long
  | float
  | double
  | bool
  | ts
  | raw
  | null
  deriving DecidableEq

namespace BindType

def name : BindType → String
  | str => "str"
  | int => "int"
  | long => "long"
  | float => "float"
  | double => "double"
  | bool => "bool"
  | ts => "ts"
  | raw => "raw"
  | null => "null"

def all : List BindType := [str, int, long, float, double, bool, ts, raw, null]

def ofName? (name : List Char) : Option BindType :=
  all.find? fun type => type.name.toList == name

/-- The error of a value that its type does not accept. -/
def invalidValue (description : String) (raw : List Char) (causes : List String) : Error :=
  { kind := .encoding, causes
    message := some ("`" ++ String.ofList raw ++ "` is not " ++ description) }

def integerValue (range : IntegerRange) (description : String) (raw : List Char) : Except Error Int :=
  match range.parse (trim raw) with
  | .ok n => .ok n
  | .error flaw => .error (invalidValue description raw [flaw.message])

def floatValue (description : String) (raw : List Char) : Except Error FloatLiteral :=
  match FloatLiteral.parse (trim raw) with
  | .ok literal => .ok literal
  | .error flaw => .error (invalidValue description raw [flaw.message])

def boolValue (raw : List Char) : Except Error Bool :=
  let word := trim raw
  if word = "true".toList then .ok true
  else if word = "false".toList then .ok false
  else .error (invalidValue "a valid bool" raw ["provided string was not `true` or `false`"])

/-- Whole milliseconds, or else an RFC 3339 text. -/
def timestampValue (raw : List Char) : Except Error Cell :=
  let text := trim raw
  match IntegerRange.int64.parse text with
  | .ok millis => .ok (.timestamp (Int64.ofInt millis))
  | .error _ =>
    match Rfc3339.parse (Utf8.encode text) with
    | .ok time => .ok (.ofZonedTime time)
    | .error flaw => .error (invalidValue "epoch millis or RFC3339" raw flaw.causes)

/-- A text without the mark `0x` in front of it. -/
def withoutMark : List Char → List Char
  | '0' :: 'x' :: rest => rest
  | text => text

/-- An even number of hexadecimal digits after an optional `0x`. -/
def hexBytes (raw : List Char) : Except Error Bytes :=
  let digits := withoutMark (trim raw)
  let invalid := invalidValue "an even-length hex string" raw []
  if Bytes.isPairsOfDigits digits then
    match Bytes.readPairs digits with
    | .ok bytes => .ok bytes
    -- Never met: where all digits have been judged, no pair of them is at fault.
    | .error _ => .error invalid
  else .error invalid

/-- The cell that a value denotes under a type. -/
def cell (type : BindType) (value : List Char) : Except Error Cell :=
  match type with
  | str => .ok (.ofText (String.ofList value))
  | int => (fun n => .ofInt32 (Int32.ofInt n)) <$> integerValue .int32 "a valid int" value
  | long => (fun n => .integer (Int64.ofInt n)) <$> integerValue .int64 "a valid long" value
  | float => (fun x => .ofSingle x.toSingle) <$> floatValue "a valid float" value
  | double => (fun x => .ofDouble x.toDouble) <$> floatValue "a valid double" value
  | bool => Cell.boolean <$> boolValue value
  | ts => timestampValue value
  | raw => Cell.numeric <$> hexBytes value
  | null => .ok .null

end BindType

namespace BindSpec

def hint : String :=
  "Use NAME=TYPE:VALUE, e.g. --bind ':host=str:web-1'. " ++
    "Types: str, int, long, float, double, bool, ts, raw, null."

def malformed (spec : List Char) (reason : String) : Error :=
  { kind := .usage
    message := some ("invalid --bind `" ++ String.ofList spec ++ "`: " ++ reason)
    hint := some hint }

def unknownType (type : List Char) : Error :=
  { kind := .usage
    message := some ("unknown bind type `" ++ String.ofList type ++ "`")
    hint := some hint }

def typedCell (type value : List Char) : Except Error Cell :=
  match BindType.ofName? type with
  | some type => type.cell value
  | none => .error (unknownType type)

/-- The name and the cell of a spec. An error about the type or the value names the parameter. -/
def parse (spec : String) : Except Error (String × Cell) :=
  let text := spec.toList
  match splitFirst? '=' text with
  | none => .error (malformed text "missing `=`")
  | some (name, typed) =>
    if name.isEmpty then .error (malformed text "empty name")
    else if typed = "null".toList then .ok (String.ofList name, .null)
    else
      match splitFirst? ':' typed with
      | none => .error (malformed text "missing TYPE:")
      | some (type, value) =>
        match typedCell type value with
        | .ok cell => .ok (String.ofList name, cell)
        | .error e => .error (e.withParameter (String.ofList name))

end BindSpec

end SeriesQuery
