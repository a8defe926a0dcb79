import SeriesQuery.Cell
import SeriesQuery.Json.Typed

/-!
# Reading cells

A cell is read in two ways: directly from text, or from a tree. In text the members come in the
order in which they are written. When `type` comes first, the payload is read as that kind demands;
when `value` comes first, it is kept as a tree until the kind is known. A cell can also be written
as an array of its kind and its payload.
-/

namespace SeriesQuery.Cell

def cellWanted : String := "adjacently tagged enum Cell"

def nullWanted : String := "unit variant Cell::Null"

def bytesWanted : String := "byte array"

def byteWanted : String := "u8"

def integerWanted : String := "i64"

def booleanWanted : String := "a boolean"

def setWanted : String := "a sequence"

/-! ### From a tree -/

def byteOfNumber : Json.Number → Except Json.Mismatch UInt8
  | .integer n h =>
    if 0 ≤ n ∧ n ≤ 255 then .ok (UInt8.ofNat n.toNat)
    else .error (.wrongValue (.number (.integer n h)) byteWanted)
  | .double x => .error (.wrongType (.number (.double x)) byteWanted)

def integerOfNumber : Json.Number → Except Json.Mismatch Int64
  | .integer n h =>
    if n < 2 ^ 63 then .ok (Int64.ofInt n)
    else .error (.wrongValue (.number (.integer n h)) integerWanted)
  | .double x => .error (.wrongType (.number (.double x)) integerWanted)

def byteOfJson : Json → Except Json.Mismatch UInt8
  | .number n => byteOfNumber n
  | other => .error (.wrongType other.found byteWanted)

/-- Bytes are an array of numbers, or a string that stands for its UTF-8 bytes. -/
def bytesOfJson : Json → Except Json.Mismatch Bytes
  | .array items => items.mapM byteOfJson
  | .string s => .ok (Utf8.ofString s)
  | other => .error (.wrongType other.found bytesWanted)

def integerOfJson : Json → Except Json.Mismatch Int64
  | .number n => integerOfNumber n
  | other => .error (.wrongType other.found integerWanted)

def payloadOfJson (kind : CellKind) (value : Json) : Except Json.Mismatch Cell :=
  match kind with
  | .null =>
    match value with
    | .null => .ok null
    | other => .error (.wrongType other.found nullWanted)
  | .binary => binary <$> bytesOfJson value
  | .integer => integer <$> integerOfJson value
  | .numeric => numeric <$> bytesOfJson value
  | .boolean =>
    match value with
    | .boolean b => .ok (boolean b)
    | other => .error (.wrongType other.found booleanWanted)
  | .timestamp => timestamp <$> integerOfJson value
  | .set =>
    match value with
    | .array items => set <$> items.mapM bytesOfJson
    | other => .error (.wrongType other.found setWanted)
  | .map => map <$> bytesOfJson value

/-- The cell of a kind whose payload is not there. -/
def withoutPayload (kind : CellKind) : Except Json.Mismatch Cell :=
  match kind with
  | .null => .ok null
  | _ => .error (.missingField "value")

def kindOfName (s : String) : Except Json.Mismatch CellKind :=
  Json.variant CellKind.all CellKind.name s

/-- The kind under `type`: its name, or an object with the name as its only key and null as its
value. -/
def kindOfJson : Json → Except Json.Mismatch CellKind
  | .string s => kindOfName s
  | .object [(s, value)] => do
    let kind ← kindOfName s
    match value with
    | .null => return kind
    | other => .error (.wrongType other.found "unit")
  | .object _ => .error (.wrongValue .map "map with a single key")
  | other => .error (.wrongType other.found "string or map")

def ofJson : Json → Except Json.Mismatch Cell
  | .array [] => .error (.wrongLength 0 cellWanted)
  | .array (tag :: rest) => do
    let kind ←
      match tag with
      | .string s => kindOfName s
      | other => .error (.wrongType other.found Json.variantWanted)
    match rest with
    | [] => .error (.wrongLength 1 cellWanted)
    | value :: more =>
      let cell ← payloadOfJson kind value
      if more.isEmpty then return cell
      else .error (.wrongLength (more.length + 2) "fewer elements in array")
  | .object members =>
    match members.lookup "type" with
    | none => .error (.missingField "type")
    | some tag => do
      let kind ← kindOfJson tag
      match members.lookup "value" with
      | none => withoutPayload kind
      | some value => payloadOfJson kind value
  | other => .error (.wrongType other.found cellWanted)

/-! ### From text -/

def readBytes (depth : Nat) (text : List Char) : Json.Read (Bytes × List Char) :=
  match Json.skipSpace text with
  | '"' :: rest => Json.readRaw rest
  | other =>
    Json.readArray (fun _ => Json.readNumberAs byteOfNumber byteWanted) bytesWanted depth other

def readBoolean (text : List Char) : Json.Read (Bool × List Char) :=
  match Json.skipSpace text with
  | [] => .error (.here .endInValue [])
  | 't' :: rest => do return (true, ← Json.readWord ['r', 'u', 'e'] rest)
  | 'f' :: rest => do return (false, ← Json.readWord ['a', 'l', 's', 'e'] rest)
  | other => .error (Json.unwanted booleanWanted other)

/-- The payload of a null cell. Another value is refused only after its bracket has been counted. -/
def readNullPayload (depth : Nat) (text : List Char) : Json.Read (List Char) :=
  match Json.skipSpace text with
  | [] => .error (.here .endInValue [])
  | 'n' :: rest => Json.readWord ['u', 'l', 'l'] rest
  | c :: rest =>
    if depth = 0 ∧ (c = '[' ∨ c = '{') then .error (.next .tooDeep (c :: rest))
    else .error (Json.unwanted nullWanted (c :: rest))

def readPayload (kind : CellKind) (depth : Nat) (text : List Char) : Json.Read (Cell × List Char) :=
  match kind with
  | .null => do return (null, ← readNullPayload depth text)
  | .binary => Json.mapValue binary (readBytes depth text)
  | .integer => Json.mapValue integer (Json.readNumberAs integerOfNumber integerWanted text)
  | .numeric => Json.mapValue numeric (readBytes depth text)
  | .boolean => Json.mapValue boolean (readBoolean text)
  | .timestamp => Json.mapValue timestamp (Json.readNumberAs integerOfNumber integerWanted text)
  | .set => Json.mapValue set (Json.readArray readBytes setWanted depth text)
  | .map => Json.mapValue map (readBytes depth text)

/-- How much of a cell the members so far have given. -/
inductive Progress where
  | nothing
  | kind (kind : CellKind)
  | payload (value : Json)
  | whole (cell : Cell)

def readKind (depth : Nat) (text : List Char) : Json.Read (CellKind × List Char) :=
  Json.readVariant CellKind.all CellKind.name depth text

/-- One member of a cell. Both fields may come once; any other name is skipped. -/
def readMember (depth : Nat) (progress : Progress) (name : String) (text : List Char) :
    Json.Read (Progress × List Char) :=
  if name = "type" then
    match progress with
    | .nothing => do
      let (kind, rest) ← readKind depth (← Json.readColon text)
      return (.kind kind, rest)
    | .payload value => do
      let (kind, rest) ← readKind depth (← Json.readColon text)
      Json.lift (Progress.whole <$> payloadOfJson kind value) rest
    | .kind _ | .whole _ => .error (.mismatch (.duplicateField "type"))
  else if name = "value" then
    match progress with
    | .nothing => do
      let (value, rest) ← Json.readTree depth (← Json.readColon text)
      return (.payload value, rest)
    | .kind kind => do
      let (cell, rest) ← readPayload kind depth (← Json.readColon text)
      return (.whole cell, rest)
    | .payload _ | .whole _ => .error (.mismatch (.duplicateField "value"))
  else do return (progress, ← Json.skipValue (← Json.readColon text))

def Progress.finish : Progress → Except Json.Mismatch Cell
  | .nothing | .payload _ => .error (.missingField "type")
  | .kind known => withoutPayload known
  | .whole cell => .ok cell

/-- A cell as an array of its kind and its payload, from behind the opening bracket. -/
def readPair (depth : Nat) (text : List Char) : Json.Read (Progress × List Char) := do
  match ← Json.nextItem true text with
  | .finished _ => .error (.mismatch (.wrongLength 0 cellWanted))
  | .more text =>
    let (kind, rest) ← Json.readVariantName CellKind.all CellKind.name text
    match ← Json.nextItem false rest with
    | .finished _ => .error (.mismatch (.wrongLength 1 cellWanted))
    | .more text =>
      let (cell, rest) ← readPayload kind depth text
      return (.whole cell, ← Json.endArray rest)

def read (depth : Nat) (text : List Char) : Json.Read (Cell × List Char) := do
  let (progress, rest) ← Json.readFields cellWanted readMember readPair .nothing depth text
  Json.lift progress.finish rest

/-- The cell that a whole text denotes. -/
def parse (text : List Char) : Except Json.Fault Cell :=
  Json.readWhole (read Json.depthLimit) text

end SeriesQuery.Cell
