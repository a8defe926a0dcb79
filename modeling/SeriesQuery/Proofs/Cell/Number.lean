import SeriesQuery.Proofs.Cell.Access

/-!
# Numbers in cells

A number goes into a cell as the bytes of its bit pattern and comes out of it as the same pattern. What
the pattern means is never looked at: NaNs with a payload, infinities, both zeros and the smallest values
are patterns like all others. The number of bytes alone decides whether there is a value, and of which
width.
-/

namespace SeriesQuery.Cell

/-- The bytes of a width and the values of a format are the same data: each value has its bytes, and all
bytes of the width are those of a value. Bytes of another width are refused. -/
structure IsCodec {α : Type} (width : Nat) (bits : α → Nat) (encode : α → Bytes)
    (decode : Bytes → Except Error α) : Prop where
  encode_eq : ∀ x, encode x = (List.range width).map fun k => UInt8.ofNat (bits x / 256 ^ k)
  decode_encode : ∀ x, decode (encode x) = .ok x
  encode_of_decode : ∀ raw x, decode raw = .ok x → encode x = raw
  decoded_iff : ∀ raw, (∃ x, decode raw = .ok x) ↔ raw.length = width
  refused_iff : ∀ raw,
    (∃ e, decode raw = .error e ∧ e.kind = .wrongVariantAccess) ↔ raw.length ≠ width

/-- A decoder that takes bytes for the value that they are written for is a codec, if all bytes of the
width are written for some value. -/
theorem isCodec_of_ofBytes? {α : Type} {width : Nat} {bits : α → Nat} {encode : α → Bytes}
    {decode : Bytes → Except Error α} {ofBytes? : Bytes → Option α} (what : String)
    (hdigits : ∀ x, encode x = (List.range width).map fun k => UInt8.ofNat (bits x / 256 ^ k))
    (hread : ∀ {raw x}, ofBytes? raw = some x ↔ raw = encode x)
    (hwritten : ∀ {raw : Bytes}, raw.length = width → ∃ x, raw = encode x)
    (hdecode : ∀ raw, decode raw = match ofBytes? raw with
      | some x => .ok x
      | none => .error (widthError what width raw)) :
    IsCodec width bits encode decode := by
  have hok : ∀ raw x, decode raw = .ok x ↔ raw = encode x := by
    intro raw x
    rw [← hread, hdecode]
    cases ofBytes? raw <;> simp
  have hlength : ∀ x, (encode x).length = width := by
    intro x
    rw [hdigits, List.length_map, List.length_range]
  have hdecoded : ∀ raw, (∃ x, decode raw = .ok x) ↔ raw.length = width := by
    intro raw
    simp only [hok]
    constructor
    · rintro ⟨x, rfl⟩
      exact hlength x
    · exact hwritten
  refine ⟨hdigits, fun x => (hok _ x).2 rfl, fun raw x h => ((hok raw x).1 h).symm, hdecoded, ?_⟩
  intro raw
  rw [ne_eq, ← hdecoded, hdecode]
  cases ofBytes? raw with
  | some x => simp
  | none => simp [widthError]

theorem isCodec_single :
    IsCodec Single.byteLength (fun x : Single => x.bits.toNat) Single.toBytes decodeSingle := by
  refine isCodec_of_ofBytes? "float" Single.toBytes_eq Single.ofBytes?_eq_some_iff
    Single.exists_eq_toBytes fun raw => ?_
  rw [decodeSingle]
  cases Single.ofBytes? raw <;> rfl

theorem isCodec_double :
    IsCodec Double.byteLength (fun x : Double => x.bits.toNat) Double.toBytes decodeDouble := by
  refine isCodec_of_ofBytes? "double" Double.toBytes_eq Double.ofBytes?_eq_some_iff
    Double.exists_eq_toBytes fun raw => ?_
  rw [decodeDouble]
  cases Double.ofBytes? raw <;> rfl

/-- A cell holds the bytes of a value: the read of its width gives the value, the read of the other width
is refused, and the bytes can be had as they are. -/
structure Holds {α β : Type} (c : Cell) (raw : Bytes) (value : α) (read : Cell → Except Error α)
    (other : Cell → Except Error β) : Prop where
  read_eq : read c = .ok value
  refused : ∃ e, other c = .error e ∧ e.kind = .wrongVariantAccess
  raw_eq : c.getRawNumeric = .ok raw

theorem holds_ofSingle (x : Single) : Holds (ofSingle x) x.toBytes x getFloat getDouble where
  read_eq := getFloat_ofSingle x
  refused := ⟨_, rfl, rfl⟩
  raw_eq := rfl

theorem holds_ofDouble (x : Double) : Holds (ofDouble x) x.toBytes x getDouble getFloat where
  read_eq := getDouble_ofDouble x
  refused := ⟨_, rfl, rfl⟩
  raw_eq := rfl

/-- Bit patterns and byte strings of their width are in bijection, through the bytes of the pattern from
the lowest, and a decoder refuses byte strings of all other widths and no others. A cell made of a value
gives its pattern back, and its bytes, and does not take it for a value of the other width. -/
theorem numbers_keep_their_bits :
    IsCodec Single.byteLength (fun x : Single => x.bits.toNat) Single.toBytes decodeSingle ∧
    IsCodec Double.byteLength (fun x : Double => x.bits.toNat) Double.toBytes decodeDouble ∧
    (∀ x : Single, Holds (ofSingle x) x.toBytes x getFloat getDouble) ∧
    ∀ x : Double, Holds (ofDouble x) x.toBytes x getDouble getFloat :=
  ⟨isCodec_single, isCodec_double, holds_ofSingle, holds_ofDouble⟩

/-- The bytes of a NaN that carries a payload, and a number of four bytes as one of eight. -/
theorem numbers_keep_their_bits_of_payload :
    (⟨0x7FA00001⟩ : Single).toBytes = [0x01, 0x00, 0xA0, 0x7F] ∧
    (∃ e, decodeDouble [0x01, 0x00, 0xA0, 0x7F] = .error e ∧ e.kind = .wrongVariantAccess) ∧
    (ofSingle ⟨0x7FA00001⟩).getFloat = .ok ⟨0x7FA00001⟩ := by
  obtain ⟨hsingle, hdouble, hfloat, -⟩ := numbers_keep_their_bits
  refine ⟨?_, ?_, ?_⟩
  · exact hsingle.encode_of_decode [0x01, 0x00, 0xA0, 0x7F] ⟨0x7FA00001⟩ rfl
  · exact (hdouble.refused_iff _).2 (by decide)
  · exact (hfloat ⟨0x7FA00001⟩).read_eq

end SeriesQuery.Cell
