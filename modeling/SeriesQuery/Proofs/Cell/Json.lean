import SeriesQuery.Cell.Json
import SeriesQuery.Cell.Reader
import SeriesQuery.Proofs.Json.Tree

/-!
# Cells through JSON

A cell that is written as a tree is read from the tree as it was: its kind has a name of its own, a
byte and a 64-bit word are numbers that keep their value, and bytes and members keep their order.
The members of the tree may have been put in order before.
-/

namespace SeriesQuery

open Json (Plain)

theorem mapM_map_ok {α β : Type} {f : α → β} {g : β → Except Json.Mismatch α}
    (h : ∀ a, g (f a) = .ok a) (values : List α) : (values.map f).mapM g = .ok values := by
  induction values with
  | nil => rfl
  | cons a rest ih =>
    rw [List.map_cons, List.mapM_cons, h, ih]
    rfl

namespace Cell

/-! ### Payloads -/

theorem byteOfJson_ofByte (b : UInt8) : byteOfJson (.ofByte b) = .ok b := by
  have hlt := b.toNat_lt
  have hread : byteOfJson (.ofByte b) = .ok (UInt8.ofNat (b.toNat : Int).toNat) :=
    if_pos (by omega)
  rw [hread, Int.toNat_natCast, UInt8.ofNat_toNat]

theorem bytesOfJson_ofBytes (bytes : Bytes) : bytesOfJson (.ofBytes bytes) = .ok bytes :=
  mapM_map_ok byteOfJson_ofByte bytes

theorem integerOfJson_ofInt64 (n : Int64) : integerOfJson (.ofInt64 n) = .ok n := by
  have hread : integerOfJson (.ofInt64 n) = .ok (Int64.ofInt n.toInt) := if_pos n.toInt_lt
  rw [hread, Int64.ofInt_toInt]

theorem sortMembers_ofBytes (bytes : Bytes) :
    (Json.ofBytes bytes).sortMembers = .ofBytes bytes :=
  congrArg Json.array (Json.sortItems_map (fun _ => rfl) bytes)

theorem sortMembers_payload {c : Cell} {payload : Json} (h : c.payloadJson? = some payload) :
    payload.sortMembers = payload := by
  cases c with
  | null => cases h
  | binary bytes | numeric bytes | map bytes =>
    obtain rfl := Option.some.inj h
    exact sortMembers_ofBytes bytes
  | integer n | timestamp n =>
    obtain rfl := Option.some.inj h
    rfl
  | boolean b =>
    obtain rfl := Option.some.inj h
    rfl
  | set members =>
    obtain rfl := Option.some.inj h
    exact congrArg Json.array (Json.sortItems_map sortMembers_ofBytes members)

/-- The payload of a cell is read from its tree as it was. -/
theorem payloadOfJson_payloadJson {c : Cell} {payload : Json} (h : c.payloadJson? = some payload) :
    payloadOfJson c.kind payload = .ok c := by
  cases c with
  | null => cases h
  | binary bytes | numeric bytes | map bytes =>
    obtain rfl := Option.some.inj h
    rw [kind, payloadOfJson, bytesOfJson_ofBytes]
    rfl
  | integer n | timestamp n =>
    obtain rfl := Option.some.inj h
    rw [kind, payloadOfJson, integerOfJson_ofInt64]
    rfl
  | boolean b =>
    obtain rfl := Option.some.inj h
    rfl
  | set members =>
    obtain rfl := Option.some.inj h
    have hmembers := mapM_map_ok bytesOfJson_ofBytes members
    simp only [kind, payloadOfJson, hmembers]
    rfl

/-! ### Whole cells -/

theorem kindOfName_name (kind : CellKind) : kindOfName kind.name = .ok kind := by
  cases kind <;> rfl

theorem toJson_of_payload {c : Cell} {payload : Json} (h : c.payloadJson? = some payload) :
    c.toJson = .object [("type", .string c.kind.name), ("value", payload)] := by
  rw [toJson, h]

/-- The kind is written before the payload, as the order of the names has it. -/
theorem sortMembers_toJson (c : Cell) : c.toJson.sortMembers = c.toJson := by
  cases hpayload : c.payloadJson? with
  | none =>
    cases c with
    | null => rfl
    | _ => cases hpayload
  | some payload =>
    rw [toJson_of_payload hpayload]
    exact Json.sortMembers_pair (by decide) rfl (sortMembers_payload hpayload)

theorem ofJson_toJson (c : Cell) : ofJson c.toJson = .ok c := by
  cases hpayload : c.payloadJson? with
  | none =>
    cases c with
    | null => rfl
    | _ => cases hpayload
  | some payload =>
    have hread := payloadOfJson_payloadJson hpayload
    have hkind := kindOfName_name c.kind
    have htype : [("type", Json.string c.kind.name), ("value", payload)].lookup "type" =
        some (.string c.kind.name) := rfl
    have hvalue : [("type", Json.string c.kind.name), ("value", payload)].lookup "value" =
        some payload := rfl
    rw [toJson_of_payload hpayload]
    simp only [ofJson, htype, hvalue, kindOfJson, hkind, bind, Except.bind]
    exact hread

/-- A cell is read from its tree as it was. -/
theorem ofJson_sortMembers_toJson (c : Cell) : ofJson c.toJson.sortMembers = .ok c := by
  rw [c.sortMembers_toJson, c.ofJson_toJson]

/-! ### Depth -/

theorem plain_ofBytes (bytes : Bytes) (depth : Nat) : Plain (depth + 1) (.ofBytes bytes) :=
  .map (fun _ => .integer _ _) bytes

theorem plain_payload {c : Cell} {payload : Json} (h : c.payloadJson? = some payload)
    (depth : Nat) : Plain (depth + 2) payload := by
  cases c with
  | null => cases h
  | binary bytes | numeric bytes | map bytes =>
    obtain rfl := Option.some.inj h
    exact plain_ofBytes bytes (depth + 1)
  | integer n | timestamp n =>
    obtain rfl := Option.some.inj h
    exact .integer _ _
  | boolean b =>
    obtain rfl := Option.some.inj h
    exact .boolean b
  | set members =>
    obtain rfl := Option.some.inj h
    exact .map (fun bytes => plain_ofBytes bytes depth) members

/-- The tree of a cell has brackets at most three deep. -/
theorem plain_toJson (c : Cell) (depth : Nat) : Plain (depth + 3) c.toJson := by
  cases hpayload : c.payloadJson? with
  | none =>
    cases c with
    | null => exact .object (List.forall_mem_singleton.2 (.string _))
    | _ => cases hpayload
  | some payload =>
    rw [toJson_of_payload hpayload]
    exact .pair (.string _) (plain_payload hpayload depth)

end Cell

end SeriesQuery
