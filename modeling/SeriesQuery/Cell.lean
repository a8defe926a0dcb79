import SeriesQuery.Number.Binary
import SeriesQuery.Text.Utf8

/-!
# Cells

One column value of the store. Text is held as its UTF-8 bytes, and a floating-point number as its
little-endian bytes, whose count tells single from double precision.
-/

namespace SeriesQuery

inductive CellKind where
  | null
  | binary
  | integer
  | numeric
  | boolean
  | timestamp
  | set
  | map
  deriving DecidableEq

namespace CellKind

def name : CellKind → String
  | null => "null"
  | binary => "binary"
  | integer => "integer"
  | numeric => "numeric"
  | boolean => "boolean"
  | timestamp => "timestamp"
  | set => "set"
  | map => "map"

def all : List CellKind :=
  [null, binary, integer, numeric, boolean, timestamp, set, map]

def ofName? (name : String) : Option CellKind :=
  all.find? fun kind => kind.name == name

end CellKind

inductive Cell where
  | null
  | binary (payload : Bytes)
  | integer (value : Int64)
  | numeric (raw : Bytes)
  | boolean (value : Bool)
  /-- Milliseconds since the start of 1970 in universal time. -/
  | timestamp (millis : Int64)
  | set (members : List Bytes)
  | map (encoded : Bytes)
  deriving DecidableEq, Inhabited

namespace Cell

def kind : Cell → CellKind
  | null => .null
  | binary _ => .binary
  | integer _ => .integer
  | numeric _ => .numeric
  | boolean _ => .boolean
  | timestamp _ => .timestamp
  | set _ => .set
  | map _ => .map

def ofText (text : String) : Cell :=
  binary (Utf8.ofString text)

def ofInt32 (value : Int32) : Cell :=
  integer value.toInt64

def ofSingle (x : Single) : Cell :=
  numeric x.toBytes

def ofDouble (x : Double) : Cell :=
  numeric x.toBytes

end Cell

end SeriesQuery
