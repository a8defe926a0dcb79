import SeriesQuery.Proofs.Cell.Text
import SeriesQuery.Result.Reader

/-!
# Results through text

A result that is written as text is read from it as it was, with all its columns and rows, in each
layout and whatever comes after it. Its members are written in the order of their names, so putting
them in order changes nothing.
-/

namespace SeriesQuery

open Json (Reads ReadsMembers Plain)

variable {layout : Json.Layout} {allowed depth : Nat}

/-! ### Columns -/

namespace Column

theorem variant_typeName (type : ColumnType) :
    Json.variant ColumnType.all ColumnType.name type.name = .ok type := by
  cases type <;> rfl

theorem plain_toJson (c : Column) (depth : Nat) : Plain (depth + 1) c.toJson :=
  .pair (.string _) (.string _)

theorem sortMembers_toJson (c : Column) : c.toJson.sortMembers = c.toJson :=
  Json.sortMembers_pair (by decide) rfl rfl

theorem readMember_name (hlayout : layout.Blank) (name : String) :
    Reads (readMember allowed {} "name") (':' :: (layout.afterColon ++ Json.quote name))
      { name := some name } := by
  intro rest hrest
  have hread := Json.readOnce_written hlayout (Json.skipsSpace_readString _)
    (Json.readString_quote "a string" name) "name"
  rw [readMember, if_pos rfl]
  exact hread.mapValue (fun name => ({ name } : Fields)) rest hrest

theorem readMember_type (hlayout : layout.Blank) (name : String) (type : ColumnType) :
    Reads (readMember allowed { name := some name } "type")
      (':' :: (layout.afterColon ++ Json.quote type.name))
      { name := some name, type := some type } := by
  intro rest hrest
  have hread := Json.readOnce_written hlayout (Json.skipsSpace_readVariant _ _ allowed)
    (Json.readVariant_quote (variant_typeName type) allowed) "type"
  rw [readMember, if_neg (by decide), if_pos rfl]
  exact hread.mapValue (fun type => ({ name := some name, type } : Fields)) rest hrest

theorem read_written (hlayout : layout.Blank) (c : Column) :
    Reads (read (allowed + 1)) (c.toJson.written layout depth) c := by
  intro rest hrest
  have hmembers : ReadsMembers layout (depth + 1) (readMember allowed) {}
      [("name", .string c.name), ("type", .string c.type.name)]
      { name := some c.name, type := some c.type } :=
    .cons (readMember_name hlayout c.name) (.cons (readMember_type hlayout c.name c.type) .nil)
  have hfields := Json.readFields_written hlayout hmembers "struct ColumnDescription" readPair
    rest hrest
  rw [toJson]
  simp only [read, bind, Except.bind, hfields]
  rfl

end Column

/-! ### Whole results -/

namespace QueryResult

theorem plain_row (row : Row) (depth : Nat) : Plain (depth + 4) (.array (row.map Cell.toJson)) :=
  .map (fun c => c.plain_toJson depth) row

theorem plain_toJson (r : QueryResult) (depth : Nat) : Plain (depth + 6) r.toJson :=
  .pair (.map (fun c => c.plain_toJson (depth + 3)) r.columns)
    (.map (fun row => plain_row row depth) r.rows)

theorem sortMembers_toJson (r : QueryResult) : r.toJson.sortMembers = r.toJson := by
  have hcolumns := Json.sortItems_map Column.sortMembers_toJson r.columns
  have hrow (row : Row) :
      (Json.array (row.map Cell.toJson)).sortMembers = .array (row.map Cell.toJson) :=
    congrArg Json.array (Json.sortItems_map Cell.sortMembers_toJson row)
  have hrows := Json.sortItems_map hrow r.rows
  exact Json.sortMembers_pair (by decide) (congrArg Json.array hcolumns)
    (congrArg Json.array hrows)

theorem readColumns_written (hlayout : layout.Blank) (columns : List Column) :
    Reads (readColumns (allowed + 2))
      ((Json.array (columns.map Column.toJson)).written layout depth) columns := by
  apply Json.readArray_written hlayout
  exact Json.forall₂_readsItem_map (fun c => c.plain_toJson 0)
    (fun c => Column.read_written hlayout c) columns

theorem readRow_written (hlayout : layout.Blank) (row : Row) :
    Reads (readRow (allowed + 4)) ((Json.array (row.map Cell.toJson)).written layout depth) row := by
  apply Json.readArray_written hlayout
  exact Json.forall₂_readsItem_map (fun c => c.plain_toJson 0)
    (fun c => Cell.read_written hlayout c) row

theorem readRows_written (hlayout : layout.Blank) (rows : List Row) :
    Reads (readRows (allowed + 5))
      ((Json.array (rows.map fun row => .array (row.map Cell.toJson))).written layout depth)
      rows := by
  apply Json.readArray_written hlayout
  exact Json.forall₂_readsItem_map (fun row => plain_row row 0)
    (fun row => readRow_written hlayout row) rows

theorem readMember_columns (hlayout : layout.Blank) (columns : List Column) :
    Reads (readMember (allowed + 2) {} "columns")
      (':' :: (layout.afterColon ++
        (Json.array (columns.map Column.toJson)).written layout depth))
      { columns := some columns } := by
  intro rest hrest
  have hcolumns : Reads (readColumns (allowed + 2))
      ((Json.array (columns.map Column.toJson)).written layout depth) columns :=
    readColumns_written hlayout columns
  have hread := Json.readOnce_written hlayout (Json.skipsSpace_readArray _ _ _) hcolumns "columns"
  rw [readMember, if_pos rfl]
  exact hread.mapValue (fun columns => ({ columns } : Fields)) rest hrest

theorem readMember_rows (hlayout : layout.Blank) (columns : List Column) (rows : List Row) :
    Reads (readMember (allowed + 5) { columns := some columns } "rows")
      (':' :: (layout.afterColon ++
        (Json.array (rows.map fun row => .array (row.map Cell.toJson))).written layout depth))
      { columns := some columns, rows := some rows } := by
  intro rest hrest
  have hrows : Reads (readRows (allowed + 5))
      ((Json.array (rows.map fun row => .array (row.map Cell.toJson))).written layout depth)
      rows :=
    readRows_written hlayout rows
  have hread := Json.readOnce_written hlayout (Json.skipsSpace_readArray _ _ _) hrows "rows"
  rw [readMember, if_neg (by decide), if_pos rfl]
  exact hread.mapValue (fun rows => ({ columns := some columns, rows } : Fields)) rest hrest

/-- A result is read from its text as it was, whatever comes after it. -/
theorem read_written (hlayout : layout.Blank) (r : QueryResult) :
    Reads (read (allowed + 6)) (r.toJson.written layout depth) r := by
  have hmembers : ReadsMembers layout (depth + 1) (readMember (allowed + 5)) {}
      [("columns", .array (r.columns.map Column.toJson)),
        ("rows", .array (r.rows.map fun row => .array (row.map Cell.toJson)))]
      { columns := some r.columns, rows := some r.rows } :=
    .cons (readMember_columns hlayout r.columns) (.cons (readMember_rows hlayout r.columns r.rows) .nil)
  exact (Json.readFields_written hlayout hmembers "struct QueryResult" readPair).mapValue Fields.finish

/-- White space may follow the text. -/
theorem parse_written (hlayout : layout.Blank) (r : QueryResult) (depth : Nat) {gap : List Char}
    (hgap : ∀ c ∈ gap, Json.isSpace c) :
    parse (r.toJson.written layout depth ++ gap) = .ok r := by
  have hread : Reads (read (Json.depthLimit - 6 + 6)) (r.toJson.written layout depth) r := read_written hlayout r
  rw [parse]
  exact Json.readWhole_append hread hgap

theorem parse_compactText (r : QueryResult) : parse r.toJson.compactText.toList = .ok r := by
  have hparse := r.parse_written Json.Layout.blank_compact 0 (List.forall_mem_nil _)
  rw [List.append_nil] at hparse
  rw [Json.compactText, String.toList_ofList]
  exact hparse

end QueryResult

end SeriesQuery
