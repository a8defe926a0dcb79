import SeriesQuery.Number.Binary

/-!
# The bytes of a floating-point value

The bytes of a value, lowest first, give its bit pattern back, whatever the pattern means. So values
with different patterns, two NaNs or the two zeros among them, have different bytes. Every byte string
of the right length is the bytes of one value.
-/

namespace SeriesQuery

/-- Each byte is a digit of the bit pattern in base 256, the lowest first. -/
theorem Single.toBytes_eq (x : Single) :
    x.toBytes = (List.range byteLength).map fun k => UInt8.ofNat (x.bits.toNat / 256 ^ k) := by
  have hplaces : List.range byteLength = [0, 1, 2, 3] := rfl
  rw [hplaces, toBytes]
  simp only [List.map_cons, List.map_nil, List.cons.injEq, and_true]
  refine ⟨?_, ?_, ?_, ?_⟩ <;>
  · apply UInt8.toNat_inj.1
    simp [Nat.shiftRight_eq_div_pow]

theorem Double.toBytes_eq (x : Double) :
    x.toBytes = (List.range byteLength).map fun k => UInt8.ofNat (x.bits.toNat / 256 ^ k) := by
  have hplaces : List.range byteLength = [0, 1, 2, 3, 4, 5, 6, 7] := rfl
  rw [hplaces, toBytes]
  simp only [List.map_cons, List.map_nil, List.cons.injEq, and_true]
  refine ⟨?_, ?_, ?_, ?_, ?_, ?_, ?_, ?_⟩ <;>
  · apply UInt8.toNat_inj.1
    simp [Nat.shiftRight_eq_div_pow]

theorem Single.ofBytes?_toBytes (x : Single) : ofBytes? x.toBytes = some x := by
  have hbits : x.bits.toUInt8.toUInt32 ||| (x.bits >>> 8).toUInt8.toUInt32 <<< 8 |||
      (x.bits >>> 16).toUInt8.toUInt32 <<< 16 ||| (x.bits >>> 24).toUInt8.toUInt32 <<< 24 =
      x.bits := by
    apply UInt32.toBitVec_inj.1
    apply BitVec.eq_of_getLsbD_eq
    intro place hplace
    simp only [UInt32.toBitVec_or, UInt32.toBitVec_shiftLeft, UInt8.toBitVec_toUInt32,
      UInt32.toBitVec_toUInt8, UInt32.toBitVec_shiftRight, UInt32.toBitVec_ofNat,
      BitVec.getLsbD_or, BitVec.getLsbD_shiftLeft, BitVec.getLsbD_setWidth,
      BitVec.getLsbD_ushiftRight, BitVec.shiftLeft_eq', BitVec.ushiftRight_eq', BitVec.reduceMod,
      BitVec.reduceToNat]
    grind
  rw [toBytes, ofBytes?, hbits]

theorem Double.ofBytes?_toBytes (x : Double) : ofBytes? x.toBytes = some x := by
  have hbits : x.bits.toUInt8.toUInt64 ||| (x.bits >>> 8).toUInt8.toUInt64 <<< 8 |||
      (x.bits >>> 16).toUInt8.toUInt64 <<< 16 ||| (x.bits >>> 24).toUInt8.toUInt64 <<< 24 |||
      (x.bits >>> 32).toUInt8.toUInt64 <<< 32 ||| (x.bits >>> 40).toUInt8.toUInt64 <<< 40 |||
      (x.bits >>> 48).toUInt8.toUInt64 <<< 48 ||| (x.bits >>> 56).toUInt8.toUInt64 <<< 56 =
      x.bits := by
    apply UInt64.toBitVec_inj.1
    apply BitVec.eq_of_getLsbD_eq
    intro place hplace
    simp only [UInt64.toBitVec_or, UInt64.toBitVec_shiftLeft, UInt8.toBitVec_toUInt64,
      UInt64.toBitVec_toUInt8, UInt64.toBitVec_shiftRight, UInt64.toBitVec_ofNat,
      BitVec.getLsbD_or, BitVec.getLsbD_shiftLeft, BitVec.getLsbD_setWidth,
      BitVec.getLsbD_ushiftRight, BitVec.shiftLeft_eq', BitVec.ushiftRight_eq', BitVec.reduceMod,
      BitVec.reduceToNat]
    grind
  rw [toBytes, ofBytes?, hbits]

theorem Single.toBytes_of_ofBytes? {raw : Bytes} {x : Single} (h : ofBytes? raw = some x) :
    x.toBytes = raw := by
  unfold ofBytes? at h
  split at h
  · obtain rfl := Option.some.inj h
    simp only [toBytes, List.cons.injEq, and_true]
    refine ⟨?_, ?_, ?_, ?_⟩ <;>
    · apply UInt8.toBitVec_inj.1
      apply BitVec.eq_of_getLsbD_eq
      intro place hplace
      simp only [UInt32.toBitVec_or, UInt32.toBitVec_shiftLeft, UInt8.toBitVec_toUInt32,
        UInt32.toBitVec_toUInt8, UInt32.toBitVec_shiftRight, UInt32.toBitVec_ofNat,
        BitVec.getLsbD_or, BitVec.getLsbD_shiftLeft, BitVec.getLsbD_setWidth,
        BitVec.getLsbD_ushiftRight, BitVec.shiftLeft_eq', BitVec.ushiftRight_eq', BitVec.reduceMod,
        BitVec.reduceToNat]
      grind
  · cases h

theorem Double.toBytes_of_ofBytes? {raw : Bytes} {x : Double} (h : ofBytes? raw = some x) :
    x.toBytes = raw := by
  unfold ofBytes? at h
  split at h
  · obtain rfl := Option.some.inj h
    simp only [toBytes, List.cons.injEq, and_true]
    refine ⟨?_, ?_, ?_, ?_, ?_, ?_, ?_, ?_⟩ <;>
    · apply UInt8.toBitVec_inj.1
      apply BitVec.eq_of_getLsbD_eq
      intro place hplace
      simp only [UInt64.toBitVec_or, UInt64.toBitVec_shiftLeft, UInt8.toBitVec_toUInt64,
        UInt64.toBitVec_toUInt8, UInt64.toBitVec_shiftRight, UInt64.toBitVec_ofNat,
        BitVec.getLsbD_or, BitVec.getLsbD_shiftLeft, BitVec.getLsbD_setWidth,
        BitVec.getLsbD_ushiftRight, BitVec.shiftLeft_eq', BitVec.ushiftRight_eq', BitVec.reduceMod,
        BitVec.reduceToNat]
      grind
  · cases h

theorem Single.ofBytes?_eq_some_iff {raw : Bytes} {x : Single} :
    ofBytes? raw = some x ↔ raw = x.toBytes := by
  constructor
  · exact fun h => (toBytes_of_ofBytes? h).symm
  · rintro rfl
    exact ofBytes?_toBytes x

theorem Double.ofBytes?_eq_some_iff {raw : Bytes} {x : Double} :
    ofBytes? raw = some x ↔ raw = x.toBytes := by
  constructor
  · exact fun h => (toBytes_of_ofBytes? h).symm
  · rintro rfl
    exact ofBytes?_toBytes x

theorem Single.exists_eq_toBytes {raw : Bytes} (h : raw.length = byteLength) :
    ∃ x : Single, raw = x.toBytes := by
  match raw, h with
  | [a, b, c, d], _ => exact ⟨_, ofBytes?_eq_some_iff.1 rfl⟩

theorem Double.exists_eq_toBytes {raw : Bytes} (h : raw.length = byteLength) :
    ∃ x : Double, raw = x.toBytes := by
  match raw, h with
  | [a, b, c, d, e, f, g, h], _ => exact ⟨_, ofBytes?_eq_some_iff.1 rfl⟩

theorem Single.toBytes_inj {x y : Single} : x.toBytes = y.toBytes ↔ x = y := by
  constructor
  · intro h
    have hread := x.ofBytes?_toBytes
    rw [h, y.ofBytes?_toBytes] at hread
    exact (Option.some.inj hread).symm
  · rintro rfl
    rfl

theorem Double.toBytes_inj {x y : Double} : x.toBytes = y.toBytes ↔ x = y := by
  constructor
  · intro h
    have hread := x.ofBytes?_toBytes
    rw [h, y.ofBytes?_toBytes] at hread
    exact (Option.some.inj hread).symm
  · rintro rfl
    rfl

end SeriesQuery
