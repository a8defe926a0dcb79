import SeriesQuery.Cell.Access
import SeriesQuery.Proofs.Json.Lexical
import SeriesQuery.Proofs.Number.Binary
import SeriesQuery.Proofs.Text.Decoding

/-!
# Tests and reads of cells

A test whether a cell holds a type and the read of that type are one judgement. The read gives exactly
what the cell was made of, and it fails as a read of the wrong kind exactly when the test is false.
Only a read of text can fail in another way: the bytes of a cell may be those of no text.
-/

namespace SeriesQuery.Cell

/-- A test and a read are one judgement on what a cell holds: the read gives the value that it
holds, the test says whether there is one, and without one the read is of the wrong kind. -/
structure Judges {α : Type} (present : Bool) (outcome : Except Error α) (Holds : α → Prop) :
    Prop where
  ok_iff : ∀ value, outcome = .ok value ↔ Holds value
  present_iff : present = true ↔ ∃ value, outcome = .ok value
  absent_iff : present = false ↔ ∃ e, outcome = .error e ∧ e.kind = .wrongVariantAccess

namespace Judges

variable {α : Type} {present : Bool} {outcome : Except Error α} {Holds : α → Prop}

theorem hit {value : α} (hpresent : present = true) (houtcome : outcome = .ok value)
    (hholds : ∀ other, Holds other ↔ value = other) : Judges present outcome Holds := by
  subst hpresent houtcome
  refine ⟨fun other => ?_, ?_, ?_⟩
  · rw [hholds, Except.ok.injEq]
  · simp
  · simp

theorem miss {e : Error} (hpresent : present = false) (houtcome : outcome = .error e)
    (hkind : e.kind = .wrongVariantAccess) (hholds : ∀ other, ¬Holds other) :
    Judges present outcome Holds := by
  subst hpresent houtcome
  refine ⟨fun other => ?_, ?_, ?_⟩
  · simp [hholds]
  · simp
  · simp [hkind]

end Judges

section Reads

variable (c : Cell)

theorem judges_getBinary : Judges c.hasBinary c.getBinary (c = .binary ·) := by
  cases c with
  | binary payload => exact .hit rfl rfl (by simp)
  | _ => exact .miss rfl rfl rfl (by simp)

theorem judges_getLong : Judges c.hasLong c.getLong (c = .integer ·) := by
  cases c with
  | integer value => exact .hit rfl rfl (by simp)
  | _ => exact .miss rfl rfl rfl (by simp)

theorem hasInt_ofInt32 {i : Int32} :
    (ofInt32 i).hasInt ↔ Int32.minValue < i ∧ i < Int32.maxValue := by
  simp only [ofInt32, hasInt, Bool.and_eq_true, decide_eq_true_eq, Int32.toInt64_lt]

/-- Inside the 32-bit range a number is known by its lower half. -/
theorem ofInt32_toInt32 {v : Int64} (h : (integer v).hasInt) : ofInt32 v.toInt32 = integer v := by
  simp only [hasInt, Bool.and_eq_true, decide_eq_true_eq, Int64.lt_iff_toInt_lt] at h
  have hlow : -2 ^ 31 < v.toInt := h.1
  have hhigh : v.toInt < 2 ^ 31 - 1 := h.2
  have hbmod : v.toInt.bmod (2 ^ 32) = v.toInt := Int.bmod_eq_of_le (by omega) (by omega)
  rw [ofInt32, integer.injEq, ← Int64.toInt_inj, Int32.toInt_toInt64, Int64.toInt_toInt32, hbmod]

theorem judges_getInt :
    Judges c.hasInt c.getInt
      (fun i => c = .ofInt32 i ∧ Int32.minValue < i ∧ i < Int32.maxValue) := by
  cases c with
  | integer v =>
    by_cases h : (integer v).hasInt
    · have hread : (integer v).getInt = .ok v.toInt32 := if_pos h
      refine .hit h hread fun i => ⟨?_, ?_⟩
      · rintro ⟨hv, -⟩
        rw [ofInt32, integer.injEq] at hv
        rw [hv, Int32.toInt32_toInt64]
      · rintro rfl
        rw [← hasInt_ofInt32, ofInt32_toInt32 h]
        exact ⟨rfl, h⟩
    · refine .miss (by simpa using h) (if_neg h) rfl ?_
      rintro i ⟨hv, hbounds⟩
      rw [hv, hasInt_ofInt32] at h
      exact h hbounds
  | _ => exact .miss rfl rfl rfl (by simp [ofInt32])

theorem judges_getRawNumeric :
    Judges c.hasRawNumeric c.getRawNumeric (fun raw => c = .numeric raw ∧ raw ≠ []) := by
  cases c with
  | numeric raw =>
    cases raw with
    | nil => exact .miss rfl rfl rfl (by simp +contextual [eq_comm])
    | cons b rest => exact .hit rfl rfl (by simp +contextual [eq_comm])
  | _ => exact .miss rfl rfl rfl (by simp)

/-- A cell that has the bytes of a single is read as it: the width has been tested before. -/
theorem getFloat_ofSingle (x : Single) : (ofSingle x).getFloat = .ok x := by
  have hdecode : decodeSingle x.toBytes = .ok x := by
    rw [decodeSingle, x.ofBytes?_toBytes]
  exact hdecode

theorem getDouble_ofDouble (x : Double) : (ofDouble x).getDouble = .ok x := by
  have hdecode : decodeDouble x.toBytes = .ok x := by
    rw [decodeDouble, x.ofBytes?_toBytes]
  exact hdecode

theorem judges_getFloat : Judges c.hasFloat c.getFloat (c = .ofSingle ·) := by
  cases c with
  | numeric raw =>
    by_cases h : raw.length = Single.byteLength
    · obtain ⟨x, rfl⟩ := Single.exists_eq_toBytes h
      refine .hit rfl (getFloat_ofSingle x) ?_
      simp [ofSingle, Single.toBytes_inj]
    · have hpresent : (numeric raw).hasFloat = false := by simpa [hasFloat] using h
      refine .miss hpresent (if_neg (by simp [hpresent])) rfl ?_
      rintro x hx
      rw [ofSingle, numeric.injEq] at hx
      exact h (congrArg List.length hx)
  | _ => exact .miss rfl rfl rfl (by simp [ofSingle])

theorem judges_getDouble : Judges c.hasDouble c.getDouble (c = .ofDouble ·) := by
  cases c with
  | numeric raw =>
    by_cases h : raw.length = Double.byteLength
    · obtain ⟨x, rfl⟩ := Double.exists_eq_toBytes h
      refine .hit rfl (getDouble_ofDouble x) ?_
      simp [ofDouble, Double.toBytes_inj]
    · have hpresent : (numeric raw).hasDouble = false := by simpa [hasDouble] using h
      refine .miss hpresent (if_neg (by simp [hpresent])) rfl ?_
      rintro x hx
      rw [ofDouble, numeric.injEq] at hx
      exact h (congrArg List.length hx)
  | _ => exact .miss rfl rfl rfl (by simp [ofDouble])

/-- Behind the test of its width a number is always decoded. -/
theorem exists_decodeSingle {raw : Bytes} (h : c.hasFloat) (hraw : c.getRawNumeric = .ok raw) :
    ∃ x, decodeSingle raw = .ok x := by
  obtain ⟨x, hx⟩ := c.judges_getFloat.present_iff.1 h
  rw [getFloat, if_pos h] at hx
  obtain ⟨found, hfound, hdecode⟩ := exists_of_bind_eq_ok hx
  rw [hraw] at hfound
  exact ⟨x, Except.ok.inj hfound ▸ hdecode⟩

theorem exists_decodeDouble {raw : Bytes} (h : c.hasDouble) (hraw : c.getRawNumeric = .ok raw) :
    ∃ x, decodeDouble raw = .ok x := by
  obtain ⟨x, hx⟩ := c.judges_getDouble.present_iff.1 h
  rw [getDouble, if_pos h] at hx
  obtain ⟨found, hfound, hdecode⟩ := exists_of_bind_eq_ok hx
  rw [hraw] at hfound
  exact ⟨x, Except.ok.inj hfound ▸ hdecode⟩

/-- No number of bytes is that of both formats. -/
theorem not_hasFloat_and_hasDouble : ¬(c.hasFloat ∧ c.hasDouble) := by
  rintro ⟨hfloat, hdouble⟩
  obtain ⟨x, hx⟩ := c.judges_getFloat.present_iff.1 hfloat
  obtain ⟨y, hy⟩ := c.judges_getDouble.present_iff.1 hdouble
  rw [c.judges_getFloat.ok_iff] at hx
  rw [c.judges_getDouble.ok_iff, hx, ofSingle, ofDouble, numeric.injEq] at hy
  cases congrArg List.length hy

theorem judges_getTimestamp : Judges c.hasTimestamp c.getTimestamp (c = .timestamp ·) := by
  cases c with
  | timestamp millis => exact .hit rfl rfl (by simp)
  | _ => exact .miss rfl rfl rfl (by simp)

theorem judges_getBoolean : Judges c.hasBoolean c.getBoolean (c = .boolean ·) := by
  cases c with
  | boolean value => exact .hit rfl rfl (by simp)
  | _ => exact .miss rfl rfl rfl (by simp)

theorem judges_getSet : Judges c.hasSet c.getSet (c = .set ·) := by
  cases c with
  | set members => exact .hit rfl rfl (by simp)
  | _ => exact .miss rfl rfl rfl (by simp)

theorem judges_getMap : Judges c.hasMap c.getMap (c = .map ·) := by
  cases c with
  | map encoded => exact .hit rfl rfl (by simp)
  | _ => exact .miss rfl rfl rfl (by simp)

/-! ### Text -/

theorem getText_ofText (text : String) : (ofText text).getText = .ok text := by
  rw [ofText, getText, getBinary]
  simp only [Utf8.decode_ofString, String.ofList_toList]

/-- A read of text gives the text whose bytes the cell has, or finds that they are those of none, or
finds that the cell is of another kind. -/
theorem getText_cases :
    (∃ text, c = .ofText text ∧ c.getText = .ok text) ∨
    (∃ payload e, c = .binary payload ∧ (∀ text, payload ≠ Utf8.ofString text) ∧
      c.getText = .error e ∧ e.kind = .encoding) ∨
    (∃ e, c.hasText = false ∧ c.getText = .error e ∧ e.kind = .wrongVariantAccess) := by
  cases c with
  | binary payload =>
    cases hdecode : Utf8.decode payload with
    | ok chars =>
      have hpayload : Utf8.ofString (String.ofList chars) = payload := by
        rw [Utf8.ofString, String.toList_ofList, Utf8.decode_eq_ok_iff.1 hdecode]
      rw [← hpayload]
      exact .inl ⟨_, rfl, getText_ofText _⟩
    | error flaw =>
      have hread : (binary payload).getText = .error
          { kind := .encoding, message := some "binary cell is not valid utf-8"
            causes := [flaw.message] } := by
        simp only [getText, getBinary, hdecode]
      refine .inr (.inl ⟨payload, _, rfl, ?_, hread, rfl⟩)
      rintro text rfl
      rw [Utf8.decode_ofString] at hdecode
      cases hdecode
  | _ => exact .inr (.inr ⟨_, rfl, rfl, rfl⟩)

theorem getText_eq_ok_iff {text : String} : c.getText = .ok text ↔ c = .ofText text := by
  constructor
  · intro h
    rcases c.getText_cases with ⟨found, rfl, hfound⟩ | ⟨_, e, _, _, he, _⟩ | ⟨e, _, he, _⟩
    · rw [hfound] at h
      rw [Except.ok.inj h]
    · rw [he] at h
      cases h
    · rw [he] at h
      cases h
  · rintro rfl
    exact getText_ofText text

theorem getText_wrong_iff :
    c.hasText = false ↔ ∃ e, c.getText = .error e ∧ e.kind = .wrongVariantAccess := by
  rcases c.getText_cases with ⟨text, hc, hok⟩ | ⟨payload, e, hc, _, he, hkind⟩ |
      ⟨e, habsent, he, hkind⟩
  · have hpresent : c.hasText = true := by rw [hc]; rfl
    simp [hok, hpresent]
  · have hpresent : c.hasText = true := by rw [hc]; rfl
    simp [he, hkind, hpresent]
  · simp [habsent, he, hkind]

theorem getText_encoding_iff :
    (∃ payload, c = .binary payload ∧ ∀ text, payload ≠ Utf8.ofString text) ↔
      ∃ e, c.getText = .error e ∧ e.kind = .encoding := by
  rcases c.getText_cases with ⟨text, hc, hok⟩ | ⟨payload, e, hc, hnone, he, hkind⟩ |
      ⟨e, habsent, he, hkind⟩
  · refine iff_of_false ?_ (by simp [hok])
    rintro ⟨payload, hpayload, hnone⟩
    rw [hc, ofText, binary.injEq] at hpayload
    exact hnone text hpayload.symm
  · exact iff_of_true ⟨payload, hc, hnone⟩ ⟨e, he, hkind⟩
  · refine iff_of_false ?_ (by simp [he, hkind])
    rintro ⟨payload, rfl, _⟩
    cases habsent

/-- The kinds of which a cell has one at most: it has none if it is a number without bytes. -/
theorem count_present :
    [c.isNull, c.hasBinary, c.hasLong, c.hasRawNumeric, c.hasTimestamp, c.hasBoolean, c.hasSet,
      c.hasMap].count true = if c = .numeric [] then 0 else 1 := by
  cases c with
  | numeric raw => cases raw <;> rfl
  | _ => rfl

end Reads

/-- The tests and reads of a cell agree. -/
structure TestsDecideReads (c : Cell) : Prop where
  binary : Judges c.hasBinary c.getBinary (c = .binary ·)
  long : Judges c.hasLong c.getLong (c = .integer ·)
  int : Judges c.hasInt c.getInt
    (fun i => c = .ofInt32 i ∧ Int32.minValue < i ∧ i < Int32.maxValue)
  rawNumeric : Judges c.hasRawNumeric c.getRawNumeric (fun raw => c = .numeric raw ∧ raw ≠ [])
  float : Judges c.hasFloat c.getFloat (c = .ofSingle ·)
  double : Judges c.hasDouble c.getDouble (c = .ofDouble ·)
  timestamp : Judges c.hasTimestamp c.getTimestamp (c = .timestamp ·)
  boolean : Judges c.hasBoolean c.getBoolean (c = .boolean ·)
  set : Judges c.hasSet c.getSet (c = .set ·)
  map : Judges c.hasMap c.getMap (c = .map ·)
  text_ok : ∀ text, c.getText = .ok text ↔ c = .binary (Utf8.ofString text)
  text_wrong : c.hasText = false ↔ ∃ e, c.getText = .error e ∧ e.kind = .wrongVariantAccess
  text_encoding : (∃ payload, c = .binary payload ∧ ∀ text, payload ≠ Utf8.ofString text) ↔
    ∃ e, c.getText = .error e ∧ e.kind = .encoding
  long_of_int : ∀ i, c.getInt = .ok i → c.getLong = .ok i.toInt64
  one_width : ¬(c.hasFloat ∧ c.hasDouble)
  /-- The error of a wrong width is never met behind the test of the width. -/
  single_decoded : ∀ raw, c.hasFloat → c.getRawNumeric = .ok raw → ∃ x, decodeSingle raw = .ok x
  double_decoded : ∀ raw, c.hasDouble → c.getRawNumeric = .ok raw → ∃ x, decodeDouble raw = .ok x
  one_kind : [c.isNull, c.hasBinary, c.hasLong, c.hasRawNumeric, c.hasTimestamp, c.hasBoolean,
    c.hasSet, c.hasMap].count true = if c = .numeric [] then 0 else 1

/-- A test is true exactly when the read of its type succeeds. A read gives what the cell was made of,
and one that fails is of the wrong kind. Text alone can fail otherwise, when the bytes are those of
no text. -/
theorem tests_decide_reads (c : Cell) : TestsDecideReads c where
  binary := c.judges_getBinary
  long := c.judges_getLong
  int := c.judges_getInt
  rawNumeric := c.judges_getRawNumeric
  float := c.judges_getFloat
  double := c.judges_getDouble
  timestamp := c.judges_getTimestamp
  boolean := c.judges_getBoolean
  set := c.judges_getSet
  map := c.judges_getMap
  text_ok := fun _ => c.getText_eq_ok_iff
  text_wrong := c.getText_wrong_iff
  text_encoding := c.getText_encoding_iff
  long_of_int := by
    intro i hi
    obtain ⟨hc, _⟩ := (c.judges_getInt.ok_iff i).1 hi
    exact (c.judges_getLong.ok_iff _).2 hc
  one_width := c.not_hasFloat_and_hasDouble
  single_decoded := fun _ => c.exists_decodeSingle
  double_decoded := fun _ => c.exists_decodeDouble
  one_kind := c.count_present

/-- The bytes of a surrogate, the greatest number that is read as a 32-bit one, and one half. -/
theorem tests_decide_reads_of_surrogate :
    (∀ text, [0xED, 0xA0, 0x80] ≠ Utf8.ofString text) ∧
    (Cell.integer 2147483646).getInt = .ok 2147483646 ∧
    (Cell.integer 2147483646).getLong = .ok 2147483646 ∧
    ∃ x, decodeSingle [0, 0, 0, 0x3F] = .ok x := by
  obtain ⟨payload, hpayload, hnone⟩ :=
    (tests_decide_reads (.binary [0xED, 0xA0, 0x80])).text_encoding.2 ⟨_, rfl, rfl⟩
  rw [Cell.binary.injEq] at hpayload
  exact ⟨hpayload ▸ hnone, rfl, (tests_decide_reads (.integer 2147483646)).long_of_int _ rfl,
    (tests_decide_reads (.numeric [0, 0, 0, 0x3F])).single_decoded _ rfl rfl⟩

end SeriesQuery.Cell
