import SeriesQuery.Proofs.BindSpec.Value
import SeriesQuery.Proofs.Cell.Access
import SeriesQuery.Proofs.Number.Decimal

/-!
# Reading what was bound

The read of the type that a value was bound with gives the value that its text denotes. Two things
can be bound and are not read back, since the tests of cells leave them out: the bounds of the 32-bit
range, which are read as 64-bit numbers, and a number without bytes.
-/

namespace SeriesQuery

namespace Cell

/-- A read that gives a value, unless the value is reserved: then there is nothing of the type. -/
structure GivesUnless {α : Type} (reserved : Prop) (outcome : Except Error α) (value : α) : Prop where
  gives : ¬reserved → outcome = .ok value
  wrong : reserved → ∃ e, outcome = .error e ∧ e.kind = .wrongVariantAccess

theorem Judges.givesUnless {α : Type} {present : Bool} {outcome : Except Error α} {Holds : α → Prop}
    {reserved : Prop} {value : α} (h : Judges present outcome Holds)
    (hholds : ¬reserved → Holds value) (habsent : reserved → present = false) :
    GivesUnless reserved outcome value where
  gives := fun hfree => (h.ok_iff value).2 (hholds hfree)
  wrong := fun hreserved => h.absent_iff.1 (habsent hreserved)

theorem givesUnless_getInt (i : Int32) :
    GivesUnless (i = Int32.minValue ∨ i = Int32.maxValue) (ofInt32 i).getInt i := by
  apply (judges_getInt _).givesUnless
  · intro hfree
    obtain ⟨hmin, hmax⟩ := not_or.1 hfree
    exact ⟨rfl, Int32.lt_of_le_of_ne (Int32.minValue_le i) (Ne.symm hmin),
      Int32.lt_of_le_of_ne (Int32.le_maxValue i) hmax⟩
  · rintro (rfl | rfl) <;> rfl

theorem givesUnless_getRawNumeric (raw : Bytes) :
    GivesUnless (raw = []) (numeric raw).getRawNumeric raw := by
  apply (judges_getRawNumeric _).givesUnless
  · exact fun hfree => ⟨rfl, hfree⟩
  · rintro rfl
    rfl

/-- What a cell is made of is read back from it. -/
structure SourcesReadBack : Prop where
  text : ∀ s, (ofText s).getText = .ok s
  bytes : ∀ payload, (binary payload).getBinary = .ok payload
  int : ∀ i, GivesUnless (i = Int32.minValue ∨ i = Int32.maxValue) (ofInt32 i).getInt i
  int_long : ∀ i, (ofInt32 i).getLong = .ok i.toInt64
  long : ∀ v, (integer v).getLong = .ok v
  float : ∀ x, (ofSingle x).getFloat = .ok x
  double : ∀ x, (ofDouble x).getDouble = .ok x
  bool : ∀ b, (boolean b).getBoolean = .ok b

theorem sourcesReadBack : SourcesReadBack where
  text := getText_ofText
  bytes := fun _ => rfl
  int := givesUnless_getInt
  int_long := fun _ => rfl
  long := fun _ => rfl
  float := getFloat_ofSingle
  double := getDouble_ofDouble
  bool := fun _ => rfl

end Cell

namespace BindType

/-- The read of a type gives of a cell what a value denotes under the type. -/
def ReadsBack (type : BindType) (value : List Char) (c : Cell) : Prop :=
  match type with
  | str => c.getText = .ok (String.ofList value)
  | int => ∃ i : Int32, WritesInteger (trim value) i.toInt ∧ c.getLong = .ok i.toInt64 ∧
      Cell.GivesUnless (i = Int32.minValue ∨ i = Int32.maxValue) c.getInt i
  | long => ∃ v : Int64, WritesInteger (trim value) v.toInt ∧ c.getLong = .ok v
  | float => ∃ literal x, WritesFloat (trim value) literal ∧
      literal.HasBits .single x.bits.toNat ∧ c.getFloat = .ok x
  | double => ∃ literal x, WritesFloat (trim value) literal ∧
      literal.HasBits .double x.bits.toNat ∧ c.getDouble = .ok x
  | bool => ∃ b, trim value = Json.boolWord b ∧ c.getBoolean = .ok b
  | ts => ∃ millis : Int64, c.getTimestamp = .ok millis ∧
      (WritesInteger (trim value) millis.toInt ∨
        ∃ t, Rfc3339.parse (Utf8.encode (trim value)) = .ok t ∧ millis.toInt = floorMillis t.nanos)
  | raw => ∃ digits bytes, (trim value = digits ∨ trim value = '0' :: 'x' :: digits) ∧
      digits.map Char.toLower = Bytes.hexDigits bytes ∧
      Cell.GivesUnless (bytes = []) c.getRawNumeric bytes
  | null => c.isNull

theorem readsBack_of_denotes {type : BindType} {value : List Char} {c : Cell}
    (h : type.Denotes value c) : type.ReadsBack value c := by
  cases h with
  | str value => exact Cell.getText_ofText _
  | int hwritten => exact ⟨_, hwritten, rfl, Cell.givesUnless_getInt _⟩
  | long hwritten => exact ⟨_, hwritten, rfl⟩
  | float hliteral =>
    exact ⟨_, _, FloatLiteral.parse_eq_ok_iff.1 hliteral, FloatLiteral.hasBits_toSingle _,
      Cell.getFloat_ofSingle _⟩
  | double hliteral =>
    exact ⟨_, _, FloatLiteral.parse_eq_ok_iff.1 hliteral, FloatLiteral.hasBits_toDouble _,
      Cell.getDouble_ofDouble _⟩
  | bool hb => exact ⟨_, hb, rfl⟩
  | millis hwritten => exact ⟨_, rfl, .inl hwritten⟩
  | date ht => exact ⟨_, rfl, .inr ⟨_, ht, Rfc3339.toInt_toMillis_of_parse ht⟩⟩
  | raw hdigits htrim => exact ⟨_, _, htrim, hdigits, Cell.givesUnless_getRawNumeric _⟩
  | null value => rfl

end BindType

namespace BindSpec

/-- An accepted spec has a name up to its first equals sign. Behind it stands the word for null, or a
type up to the first colon and a value that denotes the cell. -/
theorem parse_cases {spec name : String} {c : Cell} (h : parse spec = .ok (name, c)) :
    name ≠ "" ∧ '=' ∉ name.toList ∧
      (spec = name ++ "=null" ∧ c = .null ∨
        ∃ (type : BindType) (value : List Char),
          spec = name ++ "=" ++ type.name ++ ":" ++ String.ofList value ∧ type.Denotes value c) := by
  cases form spec with
  | noMark hmark =>
    rw [parse_of_noMark hmark] at h
    cases h
  | noName hnames =>
    rw [hnames.parse_of_empty] at h
    cases h
  | noType hne hnames hnull hcolon =>
    rw [hnames.parse_of_noType hne hnull hcolon] at h
    cases h
  | null hne hnames =>
    rw [hnames.parse_of_null hne] at h
    obtain ⟨rfl, rfl⟩ := Prod.mk.inj (Except.ok.inj h)
    refine ⟨hne, hnames.first, .inl ⟨?_, rfl⟩⟩
    rw [hnames.cut, String.append_assoc]
    rfl
  | @assigns _ word value hne hassigns =>
    cases hcell : typedCell word.toList value.toList with
    | ok cell =>
      rw [hassigns.parse_of_ok hne hcell] at h
      obtain ⟨rfl, rfl⟩ := Prod.mk.inj (Except.ok.inj h)
      obtain ⟨type, rfl⟩ := exists_of_typedCell hcell
      rw [typedCell_name] at hcell
      refine ⟨hne, hassigns.names.first, .inr ⟨type, value.toList, ?_,
        BindType.cell_eq_ok_iff.1 hcell⟩⟩
      rw [hassigns.names.cut, String.ofList_toList]
      simp only [String.append_assoc]
    | error e =>
      rw [hassigns.parse_of_error hne hcell] at h
      cases h

/-- Whatever is bound is read back by the read of the type it was bound with, and so is what a cell is
made of elsewhere. Only the bounds of the 32-bit range and a number without bytes are not. -/
theorem bound_values_read_back :
    (∀ (spec name : String) (c : Cell), parse spec = .ok (name, c) →
      name ≠ "" ∧ '=' ∉ name.toList ∧
        (spec = name ++ "=null" ∧ c.isNull ∨
          ∃ (type : BindType) (value : List Char),
            spec = name ++ "=" ++ type.name ++ ":" ++ String.ofList value ∧
              type.ReadsBack value c)) ∧
    Cell.SourcesReadBack := by
  refine ⟨?_, Cell.sourcesReadBack⟩
  intro spec name c h
  obtain ⟨hne, hname, ⟨hspec, rfl⟩ | ⟨type, value, hspec, hdenotes⟩⟩ := parse_cases h
  · exact ⟨hne, hname, .inl ⟨hspec, rfl⟩⟩
  · exact ⟨hne, hname, .inr ⟨type, value, hspec, BindType.readsBack_of_denotes hdenotes⟩⟩

/-- A number half-way between two singles, and the greatest one that is read as a 32-bit number. -/
theorem bound_values_read_back_of_tie :
    parse ":a:b=float: 16777217\t" = .ok (":a:b", .numeric [0, 0, 0x80, 0x4B]) ∧
    (∃ (type : BindType) (value : List Char),
      ":a:b=float: 16777217\t" = ":a:b" ++ "=" ++ type.name ++ ":" ++ String.ofList value ∧
        type.ReadsBack value (.numeric [0, 0, 0x80, 0x4B])) ∧
    (Cell.ofInt32 2147483646).getInt = .ok 2147483646 := by
  have hparse : parse ":a:b=float: 16777217\t" = .ok (":a:b", .numeric [0, 0, 0x80, 0x4B]) := rfl
  obtain ⟨hspecs, hsources⟩ := bound_values_read_back
  refine ⟨hparse, ?_, (hsources.int 2147483646).gives (by decide)⟩
  obtain ⟨-, -, ⟨hspec, -⟩ | htyped⟩ := hspecs _ _ _ hparse
  · exact absurd hspec (by decide)
  · exact htyped

/-- The greatest number of 32 bits and a number without bytes are bound, and the reads of their types
refuse both. -/
theorem bounds_and_empty_numbers_not_read_back :
    (parse ":n=int:2147483647" = .ok (":n", .ofInt32 Int32.maxValue) ∧
      ∀ i, (Cell.ofInt32 Int32.maxValue).getInt ≠ .ok i) ∧
    (parse ":r=raw:" = .ok (":r", .numeric []) ∧
      ∀ bytes, (Cell.numeric []).getRawNumeric ≠ .ok bytes) := by
  refine ⟨⟨rfl, ?_⟩, rfl, ?_⟩
  · intro i h
    cases h
  · intro bytes h
    cases h

end BindSpec

end SeriesQuery
