import SeriesQuery.Cell.Json
import SeriesQuery.Cell.Reader
import SeriesQuery.Query

/-!
# The request payload of a query

The text of the query and its bindings in the order of their names. The names are kept as bytes and
are written as text; what is no text in them would be replaced. The text and the bindings can be
taken out of a payload again, in whatever order its members stand.
-/

namespace SeriesQuery.Query

def interpolation (entry : Bytes × Cell) : Json :=
  .object
    [("name", .string (String.ofList (Utf8.decodeLossy entry.1))), ("cell", entry.2.toJson)]

def payload (q : Query) : Json :=
  .object
    [("query", .string q.text), ("interpolations", .array (q.interpolations.map interpolation))]

/-- A binding with its name as text. -/
def named (entry : Bytes × Cell) : String × Cell :=
  (String.ofList (Utf8.decodeLossy entry.1), entry.2)

/-- The binding that an entry of a payload holds. -/
def bindingOf? : Json → Option (String × Cell)
  | .object members =>
    match members.lookup "name", members.lookup "cell" with
    | some (.string name), some cell => (Cell.ofJson cell).toOption.map fun cell => (name, cell)
    | _, _ => none
  | _ => none

/-- The text and the bindings that a payload holds. -/
def contentOf? : Json → Option (String × List (String × Cell))
  | .object members =>
    match members.lookup "query", members.lookup "interpolations" with
    | some (.string text), some (.array items) =>
      (items.mapM bindingOf?).map fun bindings => (text, bindings)
    | _, _ => none
  | _ => none

end SeriesQuery.Query
