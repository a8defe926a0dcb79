import SeriesQuery.Proofs.BindSpec.Value

/-!
# Cells that bind specs can express

Behind the equals sign a cell is written by its type and its value. What is written is read back as
exactly the cell: the name may hold colons, the value may hold any mark, and the white space of a text
is part of it. Only sets, maps and bytes that are no text have no such form.
-/

namespace SeriesQuery.BindSpec

/-- How a cell is written behind the equals sign. The letters of hexadecimal digits are of either
case. -/
inductive Expresses : String → Cell → Prop where
  | null : Expresses "null" .null
  | text (s : String) : Expresses ("str:" ++ s) (.binary (Utf8.ofString s))
  | long (v : Int64) : Expresses ("long:" ++ toString v.toInt) (.integer v)
  | raw {digits : String} {bytes : Bytes} : digits.toList.map Char.toLower = bytes.hexDigits →
      Expresses ("raw:" ++ digits) (.numeric bytes)
  | markedRaw {digits : String} {bytes : Bytes} :
      digits.toList.map Char.toLower = bytes.hexDigits →
      Expresses ("raw:0x" ++ digits) (.numeric bytes)
  | bool (b : Bool) : Expresses ("bool:" ++ String.ofList (Json.boolWord b)) (.boolean b)
  | ts (millis : Int64) : Expresses ("ts:" ++ toString millis.toInt) (.timestamp millis)

theorem solid_hexDigits {digits : List Char} {bytes : Bytes}
    (h : digits.map Char.toLower = bytes.hexDigits) : Solid digits := by
  intro c hc
  have hlower : c.toLower ∈ bytes.hexDigits := by
    rw [← h]
    exact List.mem_map_of_mem hc
  obtain ⟨n, hn, hdigit⟩ := Bytes.exists_of_mem_hexDigits hlower
  exact isBlank_of_hexValue? (hexValue?_eq_some_iff.2 ⟨hn, hdigit⟩)

/-- What is written for a cell is the word for null, or a type with a value that denotes the cell. -/
theorem Expresses.cases {text : String} {c : Cell} (h : Expresses text c) :
    (text = "null" ∧ c = .null) ∨ ∃ (type : BindType) (value : List Char),
      text = type.name ++ ":" ++ String.ofList value ∧ type.Denotes value c := by
  cases h with
  | null => exact .inl ⟨rfl, rfl⟩
  | text s =>
    refine .inr ⟨.str, s.toList, by rw [String.ofList_toList]; rfl, ?_⟩
    have hdenotes := BindType.Denotes.str s.toList
    rwa [String.ofList_toList] at hdenotes
  | long v =>
    have hwritten := IntegerRange.writesInteger_toString v
    refine .inr ⟨.long, (toString v.toInt).toList, by rw [String.ofList_toList]; rfl, .long ?_⟩
    rwa [hwritten.solid.trim_self]
  | @raw digits bytes hdigits =>
    refine .inr ⟨.raw, digits.toList, by rw [String.ofList_toList]; rfl, .raw hdigits (.inl ?_)⟩
    exact (solid_hexDigits hdigits).trim_self
  | @markedRaw digits bytes hdigits =>
    have htext : "raw:0x" ++ digits = "raw:" ++ String.ofList ('0' :: 'x' :: digits.toList) :=
      String.toList_injective (by simp)
    refine .inr ⟨.raw, '0' :: 'x' :: digits.toList, htext, .raw hdigits (.inr ?_)⟩
    exact Solid.trim_self (by simp [isBlank, solid_hexDigits hdigits])
  | bool b =>
    refine .inr ⟨.bool, Json.boolWord b, rfl, .bool ?_⟩
    cases b <;> rfl
  | ts millis =>
    have hwritten := IntegerRange.writesInteger_toString millis
    refine .inr ⟨.ts, (toString millis.toInt).toList, by rw [String.ofList_toList]; rfl, .millis ?_⟩
    rwa [hwritten.solid.trim_self]

theorem parse_of_expresses {name text : String} {c : Cell} (hne : name ≠ "")
    (hname : '=' ∉ name.toList) (h : Expresses text c) :
    parse (name ++ "=" ++ text) = .ok (name, c) := by
  rcases h.cases with ⟨rfl, rfl⟩ | ⟨type, value, rfl, hdenotes⟩
  · exact Names.parse_of_null ⟨rfl, hname⟩ hne
  · rw [← String.append_assoc, ← String.append_assoc, parse_typed hne hname,
      BindType.cell_eq_ok_iff.2 hdenotes]

/-- The cells for which there is something to write. -/
theorem exists_expresses_iff {c : Cell} :
    (∃ text, Expresses text c) ↔
      (∀ payload, c = .binary payload → ∃ s, payload = Utf8.ofString s) ∧ c.kind ≠ .set ∧
        c.kind ≠ .map := by
  constructor
  · rintro ⟨text, h⟩
    cases h with
    | text s =>
      refine ⟨?_, by simp [Cell.kind], by simp [Cell.kind]⟩
      intro payload hpayload
      exact ⟨s, (Cell.binary.inj hpayload).symm⟩
    | _ => simp [Cell.kind]
  · rintro ⟨hbinary, hset, hmap⟩
    cases c with
    | null => exact ⟨_, .null⟩
    | binary payload =>
      obtain ⟨s, rfl⟩ := hbinary payload rfl
      exact ⟨_, .text s⟩
    | integer v => exact ⟨_, .long v⟩
    | numeric raw =>
      have hdigits := Bytes.map_toLower_hexDigits raw
      exact ⟨_, @Expresses.raw (String.ofList raw.hexDigits) raw (by rwa [String.toList_ofList])⟩
    | boolean b => exact ⟨_, .bool b⟩
    | timestamp millis => exact ⟨_, .ts millis⟩
    | set members => exact absurd rfl hset
    | map encoded => exact absurd rfl hmap

/-- A cell that can be written is read back from every way of writing it, with its name. All cells can
be written but sets, maps and bytes that are no text. -/
theorem expressed_cells_recovered :
    (∀ (name text : String) (c : Cell), name ≠ "" → '=' ∉ name.toList → Expresses text c →
      parse (name ++ "=" ++ text) = .ok (name, c)) ∧
    ∀ c : Cell, (∃ text, Expresses text c) ↔
      (∀ payload, c = .binary payload → ∃ s, payload = Utf8.ofString s) ∧ c.kind ≠ .set ∧
        c.kind ≠ .map :=
  ⟨fun _ _ _ => parse_of_expresses, fun _ => exists_expresses_iff⟩

/-- A name with a colon, a text of marks and white space, and digits of both cases behind their
mark. -/
theorem expressed_cells_recovered_of_marks :
    parse ":a:b=str: =:\n " = .ok (":a:b", .binary (Utf8.ofString " =:\n ")) ∧
    parse ":a:b=raw:0xaF" = .ok (":a:b", .numeric [0xAF]) ∧
    ∃ text, Expresses text (.numeric []) := by
  obtain ⟨hrecovered, hexists⟩ := expressed_cells_recovered
  refine ⟨?_, ?_, ?_⟩
  · exact hrecovered ":a:b" _ _ (by decide) (by decide) (.text " =:\n ")
  · exact hrecovered ":a:b" _ _ (by decide) (by decide) (@Expresses.markedRaw "aF" _ (by decide))
  · exact (hexists (.numeric [])).2 (by simp [Cell.kind])

end SeriesQuery.BindSpec
