import SeriesQuery.Cell
import SeriesQuery.Json

/-!
# Cells as JSON

A cell is written as an object with its kind under `type` and its payload under `value`; a null cell
has no payload. Bytes are written as arrays of numbers.
-/

namespace SeriesQuery

def Json.ofBytes (bytes : Bytes) : Json :=
  .array (bytes.map .ofByte)

namespace Cell

def payloadJson? : Cell → Option Json
  | null => none
  | binary payload => some (.ofBytes payload)
  | integer value => some (.ofInt64 value)
  | numeric raw => some (.ofBytes raw)
  | boolean value => some (.boolean value)
  | timestamp millis => some (.ofInt64 millis)
  | set members => some (.array (members.map .ofBytes))
  | map encoded => some (.ofBytes encoded)

def toJson (c : Cell) : Json :=
  .object (("type", .string c.kind.name) ::
    match c.payloadJson? with
    | none => []
    | some payload => [("value", payload)])

end Cell

end SeriesQuery
