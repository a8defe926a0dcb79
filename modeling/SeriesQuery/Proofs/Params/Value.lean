import SeriesQuery.Proofs.Cell.Json
import SeriesQuery.Proofs.Params.Order

/-!
# Values of params files

Which values of a params file are cells, and what each of them denotes. A scalar is the cell it
looks like. An object has to give its kind, and the payload that the kind asks for: bytes are an
array of numbers or a string, a set is an array of bytes, and only a null cell does without. What
denotes no cell is refused as an encoding error if it is a number, and as a usage error otherwise.
-/

namespace SeriesQuery

namespace Cell

/-- Bytes are an array of their numbers, or a string that stands for its UTF-8 bytes. -/
inductive DenotesBytes : Json → Bytes → Prop where
  | numbers (bytes : Bytes) : DenotesBytes (.ofBytes bytes) bytes
  | text (s : String) : DenotesBytes (.string s) (Utf8.ofString s)

/-- The payload that makes a cell of a kind. -/
inductive DenotesPayload : CellKind → Json → Cell → Prop where
  | null : DenotesPayload .null .null .null
  | binary {value : Json} {bytes : Bytes} : DenotesBytes value bytes →
      DenotesPayload .binary value (.binary bytes)
  | integer (i : Int64) : DenotesPayload .integer (.ofInt64 i) (.integer i)
  | numeric {value : Json} {bytes : Bytes} : DenotesBytes value bytes →
      DenotesPayload .numeric value (.numeric bytes)
  | boolean (b : Bool) : DenotesPayload .boolean (.boolean b) (.boolean b)
  | timestamp (i : Int64) : DenotesPayload .timestamp (.ofInt64 i) (.timestamp i)
  | set {items : List Json} {members : List Bytes} : List.Forall₂ DenotesBytes items members →
      DenotesPayload .set (.array items) (.set members)
  | map {value : Json} {bytes : Bytes} : DenotesBytes value bytes →
      DenotesPayload .map value (.map bytes)

/-- A kind is given by its name, or by an object with the name as its only key and null under it. -/
inductive DenotesKind : Json → CellKind → Prop where
  | name (kind : CellKind) : DenotesKind (.string kind.name) kind
  | key (kind : CellKind) : DenotesKind (.object [(kind.name, .null)]) kind

/-- An object with a kind and its payload. Members of other names do not matter. -/
inductive DenotesTagged (members : List (String × Json)) : Cell → Prop where
  | bare {tag : Json} : members.lookup "type" = some tag → DenotesKind tag .null →
      members.lookup "value" = none → DenotesTagged members .null
  | paid {tag value : Json} {kind : CellKind} {c : Cell} : members.lookup "type" = some tag →
      DenotesKind tag kind → members.lookup "value" = some value → DenotesPayload kind value c →
      DenotesTagged members c

/-! ### Payloads -/

theorem byteOfJson_eq_ok_iff {value : Json} {b : UInt8} :
    byteOfJson value = .ok b ↔ value = .ofByte b := by
  constructor
  · intro h
    cases value with
    | number n =>
      cases n with
      | integer n hword =>
        rw [byteOfJson, byteOfNumber] at h
        split at h
        · rename_i hrange
          obtain rfl := Except.ok.inj h
          have hn : ((UInt8.ofNat n.toNat).toNat : Int) = n := by
            rw [UInt8.toNat_ofNat_of_lt' (by simp only [UInt8.size]; omega)]
            exact Int.toNat_of_nonneg hrange.1
          rw [Json.ofByte]
          congr 2
          exact hn.symm
        · cases h
      | double x => cases h
    | _ => cases h
  · rintro rfl
    exact byteOfJson_ofByte b

theorem bytesOfJson_eq_ok_iff {value : Json} {bytes : Bytes} :
    bytesOfJson value = .ok bytes ↔ DenotesBytes value bytes := by
  constructor
  · intro h
    cases value with
    | array items =>
      have hitems : List.Forall₂ (fun item b => item = Json.ofByte b) items bytes :=
        (mapM_eq_ok_iff.1 h).imp fun _ _ => byteOfJson_eq_ok_iff.1
      rw [← List.forall₂_map_right_iff, List.forall₂_eq_eq_eq] at hitems
      exact hitems ▸ .numbers bytes
    | string s =>
      obtain rfl := Except.ok.inj h
      exact .text s
    | _ => cases h
  · intro h
    cases h with
    | numbers bytes => exact bytesOfJson_ofBytes bytes
    | text s => rfl

theorem integerOfJson_eq_ok_iff {value : Json} {i : Int64} :
    integerOfJson value = .ok i ↔ value = .ofInt64 i := by
  constructor
  · intro h
    cases value with
    | number n =>
      cases n with
      | integer n hword =>
        rw [integerOfJson, integerOfNumber] at h
        split at h
        · rename_i hlong
          obtain rfl := Except.ok.inj h
          rw [Json.ofInt64]
          congr 2
          exact (Int64.toInt_ofInt_of_le hword.1 hlong).symm
        · cases h
      | double x => cases h
    | _ => cases h
  · rintro rfl
    exact integerOfJson_ofInt64 i

theorem denotesPayload_of_payloadOfJson {kind : CellKind} {value : Json} {c : Cell}
    (h : payloadOfJson kind value = .ok c) : DenotesPayload kind value c := by
  cases kind with
  | null =>
    cases value with
    | null =>
      obtain rfl := Except.ok.inj h
      exact .null
    | _ => cases h
  | binary =>
    obtain ⟨bytes, hbytes, rfl⟩ := exists_of_map_eq_ok h
    exact .binary (bytesOfJson_eq_ok_iff.1 hbytes)
  | integer =>
    obtain ⟨i, hi, rfl⟩ := exists_of_map_eq_ok h
    exact integerOfJson_eq_ok_iff.1 hi ▸ .integer i
  | numeric =>
    obtain ⟨bytes, hbytes, rfl⟩ := exists_of_map_eq_ok h
    exact .numeric (bytesOfJson_eq_ok_iff.1 hbytes)
  | boolean =>
    cases value with
    | boolean b =>
      obtain rfl := Except.ok.inj h
      exact .boolean b
    | _ => cases h
  | timestamp =>
    obtain ⟨i, hi, rfl⟩ := exists_of_map_eq_ok h
    exact integerOfJson_eq_ok_iff.1 hi ▸ .timestamp i
  | set =>
    cases value with
    | array items =>
      obtain ⟨members, hmembers, rfl⟩ := exists_of_map_eq_ok h
      exact .set ((mapM_eq_ok_iff.1 hmembers).imp fun _ _ => bytesOfJson_eq_ok_iff.1)
    | _ => cases h
  | map =>
    obtain ⟨bytes, hbytes, rfl⟩ := exists_of_map_eq_ok h
    exact .map (bytesOfJson_eq_ok_iff.1 hbytes)

theorem payloadOfJson_of_denotesPayload {kind : CellKind} {value : Json} {c : Cell}
    (h : DenotesPayload kind value c) : payloadOfJson kind value = .ok c := by
  cases h with
  | null | boolean => rfl
  | binary hbytes | numeric hbytes | map hbytes =>
    rw [payloadOfJson, bytesOfJson_eq_ok_iff.2 hbytes]
    rfl
  | integer i | timestamp i =>
    rw [payloadOfJson, integerOfJson_ofInt64]
    rfl
  | set hmembers =>
    have hread := mapM_eq_ok_iff.2 (hmembers.imp fun _ _ => bytesOfJson_eq_ok_iff.2)
    simp only [payloadOfJson, hread]
    rfl

theorem payloadOfJson_eq_ok_iff {kind : CellKind} {value : Json} {c : Cell} :
    payloadOfJson kind value = .ok c ↔ DenotesPayload kind value c :=
  ⟨denotesPayload_of_payloadOfJson, payloadOfJson_of_denotesPayload⟩

/-! ### Kinds and objects -/

theorem kindOfName_eq_ok_iff {s : String} {kind : CellKind} :
    kindOfName s = .ok kind ↔ s = kind.name := by
  constructor
  · intro h
    rw [kindOfName, Json.variant] at h
    split at h
    · rename_i found hfound
      obtain rfl := Except.ok.inj h
      have hname := List.find?_some hfound
      exact (beq_iff_eq.1 hname).symm
    · cases h
  · rintro rfl
    exact kindOfName_name kind

theorem kindOfJson_eq_ok_iff {tag : Json} {kind : CellKind} :
    kindOfJson tag = .ok kind ↔ DenotesKind tag kind := by
  constructor
  · intro h
    rw [kindOfJson.eq_def] at h
    split at h
    · exact kindOfName_eq_ok_iff.1 h ▸ .name kind
    · obtain ⟨found, hfound, h⟩ := exists_of_bind_eq_ok h
      split at h
      · obtain rfl := Except.ok.inj h
        exact kindOfName_eq_ok_iff.1 hfound ▸ .key found
      · cases h
    · cases h
    · cases h
  · intro h
    cases h with
    | name => exact kindOfName_name kind
    | key =>
      rw [kindOfJson, kindOfName_name]
      rfl

theorem ofJson_object_eq_ok_iff {members : List (String × Json)} {c : Cell} :
    ofJson (.object members) = .ok c ↔ DenotesTagged members c := by
  rw [ofJson]
  constructor
  · intro h
    cases htag : members.lookup "type" with
    | none =>
      rw [htag] at h
      cases h
    | some tag =>
      rw [htag] at h
      obtain ⟨kind, hkind, h⟩ := exists_of_bind_eq_ok h
      rw [kindOfJson_eq_ok_iff] at hkind
      cases hvalue : members.lookup "value" with
      | none =>
        rw [hvalue] at h
        cases kind with
        | null =>
          obtain rfl := Except.ok.inj h
          exact .bare htag hkind hvalue
        | _ => cases h
      | some value =>
        rw [hvalue] at h
        exact .paid htag hkind hvalue (payloadOfJson_eq_ok_iff.1 h)
  · intro h
    cases h with
    | bare htag hkind hvalue =>
      simp only [htag, kindOfJson_eq_ok_iff.2 hkind, hvalue, ok_bind]
      rfl
    | paid htag hkind hvalue hpayload =>
      simp only [htag, kindOfJson_eq_ok_iff.2 hkind, hvalue, ok_bind,
        payloadOfJson_eq_ok_iff.2 hpayload]

end Cell

namespace Params

/-- The cell of a value. A number with a fraction or an exponent is a double, whatever it is. -/
inductive Denotes : Json → Cell → Prop where
  | null : Denotes .null .null
  | boolean (b : Bool) : Denotes (.boolean b) (.boolean b)
  | text (s : String) : Denotes (.string s) (.binary (Utf8.ofString s))
  | integer (i : Int64) : Denotes (.ofInt64 i) (.integer i)
  | double (x : Double) : x.toBytes.length = 8 → Denotes (.number (.double x)) (.numeric x.toBytes)
  | tagged {members : List (String × Json)} {c : Cell} : Cell.DenotesTagged members c →
      Denotes (.object members) c

/-- How a value that denotes no cell is refused. -/
inductive RefusedAs : Json → Error → Prop where
  | tooLarge {n : Int} {hword : Json.IsWord n} {e : Error} : 2 ^ 63 ≤ n → e.kind = .encoding →
      RefusedAs (.number (.integer n hword)) e
  | array {items : List Json} {e : Error} : e.kind = .usage → RefusedAs (.array items) e
  | untagged {members : List (String × Json)} {e : Error} : e.kind = .usage →
      e.hint = some taggedHint → RefusedAs (.object members) e

/-- Every number is a double, so none is refused for not being one. -/
theorem isSome_toDouble? (n : Json.Number) : n.toDouble?.isSome := by
  cases n <;> rfl

theorem exists_of_cellOfNumber_eq_error {n : Json.Number} {e : Error}
    (h : cellOfNumber n = .error e) :
    ∃ value hword, n = .integer value hword ∧ 2 ^ 63 ≤ value ∧ e = integerTooLarge n := by
  cases n with
  | integer value hword =>
    rw [cellOfNumber_integer] at h
    split at h
    · cases h
    · rename_i hlong
      exact ⟨value, hword, rfl, Int.not_lt.1 hlong, (Except.error.inj h).symm⟩
  | double x => cases h

theorem cellOfJson_eq_ok_iff {value : Json} {c : Cell} :
    cellOfJson value = .ok c ↔ Denotes value c := by
  constructor
  · intro h
    cases value with
    | null =>
      obtain rfl := Except.ok.inj h
      exact .null
    | boolean b =>
      obtain rfl := Except.ok.inj h
      exact .boolean b
    | string s =>
      obtain rfl := Except.ok.inj h
      exact .text s
    | number n =>
      cases n with
      | integer n hword =>
        rw [cellOfJson, cellOfNumber_integer] at h
        split at h
        · rename_i hlong
          obtain rfl := Except.ok.inj h
          have hread : Cell.integerOfJson (.number (.integer n hword)) = .ok (Int64.ofInt n) :=
            if_pos hlong
          exact Cell.integerOfJson_eq_ok_iff.1 hread ▸ .integer _
        · cases h
      | double x =>
        obtain rfl := Except.ok.inj h
        exact .double x rfl
    | array items => cases h
    | object members =>
      rw [cellOfJson] at h
      split at h
      · rename_i cell hcell
        obtain rfl := Except.ok.inj h
        exact .tagged (Cell.ofJson_object_eq_ok_iff.1 hcell)
      · cases h
  · intro h
    cases h with
    | null | boolean | text | double => rfl
    | integer i =>
      have hread : cellOfJson (.ofInt64 i) = _ := cellOfNumber_integer _
      rw [hread, if_pos i.toInt_lt, Int64.ofInt_toInt]
    | tagged hcell =>
      rw [cellOfJson, Cell.ofJson_object_eq_ok_iff.2 hcell]

theorem refusedAs_of_cellOfJson {value : Json} {e : Error} (h : cellOfJson value = .error e) :
    RefusedAs value e := by
  cases value with
  | null | boolean | string => cases h
  | number n =>
    obtain ⟨n, hword, rfl, hlarge, rfl⟩ := exists_of_cellOfNumber_eq_error h
    exact .tooLarge hlarge rfl
  | array items =>
    obtain rfl := Except.error.inj h
    exact .array rfl
  | object members =>
    rw [cellOfJson] at h
    split at h
    · cases h
    · obtain rfl := Except.error.inj h
      exact .untagged rfl rfl

/-- What is refused as an encoding error is an integer above the signed range. -/
theorem cellOfJson_encoding_iff {value : Json} :
    (∃ e, cellOfJson value = .error e ∧ e.kind = .encoding) ↔
      ∃ n hword, value = .number (.integer n hword) ∧ 2 ^ 63 ≤ n := by
  constructor
  · rintro ⟨e, he, hkind⟩
    cases refusedAs_of_cellOfJson he with
    | tooLarge hlarge _ => exact ⟨_, _, rfl, hlarge⟩
    | array husage | untagged husage _ =>
      rw [husage] at hkind
      cases hkind
  · rintro ⟨n, hword, rfl, hlarge⟩
    refine ⟨integerTooLarge (.integer n hword), ?_, rfl⟩
    rw [cellOfJson, cellOfNumber_integer, if_neg (Int.not_lt.2 hlarge)]

theorem exists_refusal_of_array (items : List Json) :
    ∃ e, cellOfJson (.array items) = .error e ∧ e.kind = .usage :=
  ⟨arrayValue, rfl, rfl⟩

/-- An object that is no tagged cell is refused, whatever is wrong with it. -/
theorem exists_refusal_of_object {members : List (String × Json)}
    (h : ∀ c, ¬Cell.DenotesTagged members c) :
    ∃ e, cellOfJson (.object members) = .error e ∧ e.kind = .usage ∧ e.hint = some taggedHint := by
  cases hcell : cellOfJson (.object members) with
  | ok c =>
    cases cellOfJson_eq_ok_iff.1 hcell with
    | tagged htagged => exact absurd htagged (h c)
  | error e =>
    cases refusedAs_of_cellOfJson hcell with
    | untagged husage hhint => exact ⟨e, rfl, husage, hhint⟩

theorem not_denotesTagged_of_lookup_eq_none {members : List (String × Json)} {c : Cell}
    (h : members.lookup "type" = none) : ¬Cell.DenotesTagged members c := by
  intro hcell
  cases hcell with
  | bare htag _ _ | paid htag _ _ _ =>
    rw [h] at htag
    cases htag

theorem message_ne_of_cellOfJson {value : Json} {e : Error} (h : cellOfJson value = .error e)
    (shown : String) : e.message ≠ some (shown ++ " is not a representable double") := by
  -- The complaints differ in their last three letters.
  have hshown : (shown ++ " is not a representable double").toList.reverse.take 3 =
      ['e', 'l', 'b'] := by
    simp
  intro hmessage
  cases value with
  | null | boolean | string => cases h
  | number n =>
    obtain ⟨_, _, _, _, rfl⟩ := exists_of_cellOfNumber_eq_error h
    have hlong : (String.ofList n.digits ++ " does not fit a signed 64-bit long").toList.reverse.take
        3 = ['g', 'n', 'o'] := by
      simp
    rw [← Option.some.inj hmessage] at hshown
    exact absurd (hlong.symm.trans hshown) (by decide)
  | array items =>
    obtain rfl := Except.error.inj h
    rw [← Option.some.inj hmessage] at hshown
    exact absurd hshown (by decide)
  | object members =>
    rw [cellOfJson] at h
    split at h
    · cases h
    · obtain rfl := Except.error.inj h
      rw [← Option.some.inj hmessage] at hshown
      exact absurd hshown (by decide)

/-- No value is refused for a number that is not a double. -/
theorem ne_notRepresentable_of_cellOfJson {value : Json} {e : Error}
    (h : cellOfJson value = .error e) (n : Json.Number) : e ≠ notRepresentable n := by
  rintro rfl
  exact message_ne_of_cellOfJson h (String.ofList n.digits) rfl

/-- A value of a params file is a cell if it denotes one, and is refused by what it is otherwise: a
number as an encoding error and only above the signed range, an array or an object as a usage
error. Every number that is judged as a double is one, so no value is refused for a number that is
none. -/
theorem cells_are_what_values_denote (value : Json) :
    (∀ c, cellOfJson value = .ok c ↔ Denotes value c) ∧
    (∀ e, cellOfJson value = .error e → RefusedAs value e ∧ ∀ n, e ≠ notRepresentable n) ∧
    (∀ n, value = .number n → n.toDouble?.isSome) ∧
    ((∃ e, cellOfJson value = .error e ∧ e.kind = .encoding) ↔
      ∃ n hword, value = .number (.integer n hword) ∧ 2 ^ 63 ≤ n) ∧
    (∀ items, value = .array items → ∃ e, cellOfJson value = .error e ∧ e.kind = .usage) ∧
    (∀ members, value = .object members →
      ((∀ c, ¬Cell.DenotesTagged members c) → ∃ e, cellOfJson value = .error e ∧
        e.kind = .usage ∧ e.hint = some taggedHint) ∧
      (members.lookup "type" = none → ∀ c, ¬Cell.DenotesTagged members c)) := by
  refine ⟨fun _ => cellOfJson_eq_ok_iff,
    fun e he => ⟨refusedAs_of_cellOfJson he, ne_notRepresentable_of_cellOfJson he⟩,
    fun n _ => isSome_toDouble? n, cellOfJson_encoding_iff, ?_, ?_⟩
  · rintro items rfl
    exact exists_refusal_of_array items
  · rintro members rfl
    exact ⟨exists_refusal_of_object, fun htag c => not_denotesTagged_of_lookup_eq_none htag⟩

end Params

end SeriesQuery
