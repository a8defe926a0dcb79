import SeriesQuery.Cell.Reader
import SeriesQuery.Result

/-!
# Reading query results

A result is an object with the fields `columns` and `rows`, either of which may be missing, or an
array of them in this order. A column is an object with both its fields, or an array of them.
-/

namespace SeriesQuery

namespace Column

def columnWanted : String := "struct ColumnDescription with 2 elements"

/-- The fields of a column that have been read. -/
structure Fields where
  name : Option String := none
  type : Option ColumnType := none

def readName : List Char → Json.Read (String × List Char) :=
  Json.readString "a string"

def readType (depth : Nat) : List Char → Json.Read (ColumnType × List Char) :=
  Json.readVariant ColumnType.all ColumnType.name depth

def readMember (depth : Nat) (fields : Fields) (key : String) (text : List Char) :
    Json.Read (Fields × List Char) :=
  if key = "name" then
    Json.mapValue (fun name => { fields with name }) (Json.readOnce "name" fields.name readName text)
  else if key = "type" then
    Json.mapValue (fun type => { fields with type })
      (Json.readOnce "type" fields.type (readType depth) text)
  else do return (fields, ← Json.skipValue (← Json.readColon text))

def readPair (depth : Nat) (text : List Char) : Json.Read (Fields × List Char) := do
  match ← Json.nextItem true text with
  | .finished _ => .error (.mismatch (.wrongLength 0 columnWanted))
  | .more text =>
    let (name, rest) ← readName text
    match ← Json.nextItem false rest with
    | .finished _ => .error (.mismatch (.wrongLength 1 columnWanted))
    | .more text =>
      let (type, rest) ← readType depth text
      return ({ name := some name, type := some type }, ← Json.endArray rest)

def Fields.finish (fields : Fields) : Except Json.Mismatch Column :=
  match fields.name, fields.type with
  | some name, some type => .ok { name, type }
  | none, _ => .error (.missingField "name")
  | some _, none => .error (.missingField "type")

def read (depth : Nat) (text : List Char) : Json.Read (Column × List Char) := do
  let (fields, rest) ← Json.readFields "struct ColumnDescription" readMember readPair {} depth text
  Json.lift fields.finish rest

end Column

namespace QueryResult

structure Fields where
  columns : Option (List Column) := none
  rows : Option (List Row) := none

def readColumns (depth : Nat) : List Char → Json.Read (List Column × List Char) :=
  Json.readArray Column.read Cell.setWanted depth

def readRow (depth : Nat) : List Char → Json.Read (Row × List Char) :=
  Json.readArray Cell.read Cell.setWanted depth

def readRows (depth : Nat) : List Char → Json.Read (List Row × List Char) :=
  Json.readArray readRow Cell.setWanted depth

def readMember (depth : Nat) (fields : Fields) (key : String) (text : List Char) :
    Json.Read (Fields × List Char) :=
  if key = "columns" then
    Json.mapValue (fun columns => { fields with columns })
      (Json.readOnce "columns" fields.columns (readColumns depth) text)
  else if key = "rows" then
    Json.mapValue (fun rows => { fields with rows })
      (Json.readOnce "rows" fields.rows (readRows depth) text)
  else do return (fields, ← Json.skipValue (← Json.readColon text))

def readPair (depth : Nat) (text : List Char) : Json.Read (Fields × List Char) := do
  match ← Json.nextItem true text with
  | .finished rest => return ({}, rest)
  | .more text =>
    let (columns, rest) ← readColumns depth text
    match ← Json.nextItem false rest with
    | .finished rest => return ({ columns := some columns }, rest)
    | .more text =>
      let (rows, rest) ← readRows depth text
      return ({ columns := some columns, rows := some rows }, ← Json.endArray rest)

def Fields.finish (fields : Fields) : QueryResult :=
  { columns := fields.columns.getD [], rows := fields.rows.getD [] }

def read (depth : Nat) (text : List Char) : Json.Read (QueryResult × List Char) :=
  Json.mapValue Fields.finish (Json.readFields "struct QueryResult" readMember readPair {} depth text)

/-- The result that a whole text denotes. -/
def parse (text : List Char) : Except Json.Fault QueryResult :=
  Json.readWhole (read Json.depthLimit) text

end QueryResult

end SeriesQuery
