import SeriesQuery.Cell.Json

/-!
# Query results

Columns with their types, and rows of cells. Rows may be shorter or longer than the list of columns,
and a column name may occur twice; a look-up by name takes its first column.
-/

namespace SeriesQuery

inductive ColumnType where
  | varchar
  | sint64
  | double
  | timestamp
  | boolean
  | set
  | map
  deriving DecidableEq

namespace ColumnType

def name : ColumnType → String
  | varchar => "varchar"
  | sint64 => "sint64"
  | double => "double"
  | timestamp => "timestamp"
  | boolean => "boolean"
  | set => "set"
  | map => "map"

def all : List ColumnType :=
  [varchar, sint64, double, timestamp, boolean, set, map]

def ofName? (name : String) : Option ColumnType :=
  all.find? fun type => type.name == name

end ColumnType

structure Column where
  name : String
  type : ColumnType
  deriving DecidableEq

abbrev Row := List Cell

structure QueryResult where
  columns : List Column := []
  rows : List Row := []
  deriving DecidableEq

namespace QueryResult

def columnIndex? (r : QueryResult) (name : String) : Option Nat :=
  r.columns.findIdx? fun column => column.name == name

def cell? (r : QueryResult) (row : Nat) (column : String) : Option Cell := do
  let index ← r.columnIndex? column
  let cells ← r.rows[row]?
  cells[index]?

end QueryResult

def Column.toJson (c : Column) : Json :=
  .object [("name", .string c.name), ("type", .string c.type.name)]

def QueryResult.toJson (r : QueryResult) : Json :=
  .object [("columns", .array (r.columns.map Column.toJson)),
    ("rows", .array (r.rows.map fun row => .array (row.map Cell.toJson)))]

end SeriesQuery
