import SeriesQuery.Proofs.Cell.Json
import SeriesQuery.Proofs.Json.Typed
import SeriesQuery.Proofs.Number.Binary

/-!
# Cells through text

A cell that is written as text is read directly from the text as it was, in each layout and whatever
comes after it: the kind is written first, so the payload is read as that kind demands. Reading the
text as a tree first gives the same cell. So the text of a cell determines the cell, and numeric
cells are told apart by their bytes.
-/

namespace SeriesQuery.Cell

open Json (Reads SkipsSpace ReadsItem ReadsMembers Plain)

variable {layout : Json.Layout} {allowed depth : Nat}

/-! ### Payloads -/

theorem skipsSpace_readBytes (allowed : Nat) : SkipsSpace (readBytes allowed) := by
  intro gap hgap text
  simp only [readBytes, Json.skipSpace_append hgap]

theorem skipsSpace_readBoolean : SkipsSpace readBoolean := by
  intro gap hgap text
  simp only [readBoolean, Json.skipSpace_append hgap]

theorem readNumberAs_ofByte (b : UInt8) (wanted : String) :
    Reads (Json.readNumberAs byteOfNumber wanted) ((Json.ofByte b).written layout depth) b := by
  obtain ⟨_, haccept⟩ : ∃ h, byteOfNumber (.integer b.toNat h) = .ok b := ⟨_, byteOfJson_ofByte b⟩
  rw [Json.ofByte, Json.written]
  exact Json.readNumberAs_integerDigits haccept wanted

theorem readNumberAs_ofInt64 (n : Int64) (wanted : String) :
    Reads (Json.readNumberAs integerOfNumber wanted) ((Json.ofInt64 n).written layout depth) n := by
  obtain ⟨_, haccept⟩ : ∃ h, integerOfNumber (.integer n.toInt h) = .ok n :=
    ⟨_, integerOfJson_ofInt64 n⟩
  rw [Json.ofInt64, Json.written]
  exact Json.readNumberAs_integerDigits haccept wanted

theorem readBytes_ofBytes (hlayout : layout.Blank) (bytes : Bytes) :
    Reads (readBytes (allowed + 1)) ((Json.ofBytes bytes).written layout depth) bytes := by
  intro rest _
  have hplain (b : UInt8) : Plain 0 (.ofByte b) := .integer _ _
  have hitems : List.Forall₂
      (ReadsItem layout (depth + 1) (Json.readNumberAs byteOfNumber byteWanted))
      (bytes.map Json.ofByte) bytes :=
    Json.forall₂_readsItem_map hplain (fun b => readNumberAs_ofByte b byteWanted) bytes
  obtain ⟨body, hbody, hread⟩ := Json.readItems_written hlayout hitems
  rw [Json.ofBytes, hbody, List.cons_append, readBytes, Json.skipSpace_cons (by decide)]
  exact hread rest

theorem readBoolean_boolWord (b : Bool) : Reads readBoolean (Json.boolWord b) b := by
  intro rest _
  cases b <;> rfl

theorem skipsSpace_readPayload (kind : CellKind) (hkind : kind ≠ .null) (allowed : Nat) :
    SkipsSpace (readPayload kind allowed) := by
  cases kind with
  | null => exact absurd rfl hkind
  | binary | numeric | map => exact (skipsSpace_readBytes allowed).mapValue _
  | integer | timestamp => exact (Json.skipsSpace_readNumberAs _ _).mapValue _
  | boolean => exact skipsSpace_readBoolean.mapValue _
  | set => exact (Json.skipsSpace_readArray _ _ _).mapValue _

/-- The payload of a cell is read from its text as it was. -/
theorem readPayload_written (hlayout : layout.Blank) {c : Cell} {payload : Json}
    (h : c.payloadJson? = some payload) :
    Reads (readPayload c.kind (allowed + 2)) (payload.written layout depth) c := by
  cases c with
  | null => cases h
  | binary bytes | numeric bytes | map bytes =>
    obtain rfl := Option.some.inj h
    exact (readBytes_ofBytes hlayout bytes).mapValue _
  | integer n | timestamp n =>
    obtain rfl := Option.some.inj h
    exact (readNumberAs_ofInt64 n integerWanted).mapValue _
  | boolean b =>
    obtain rfl := Option.some.inj h
    rw [Json.written]
    exact (readBoolean_boolWord b).mapValue _
  | set members =>
    obtain rfl := Option.some.inj h
    have hmembers : List.Forall₂ (ReadsItem layout (depth + 1) (readBytes (allowed + 1)))
        (members.map Json.ofBytes) members :=
      Json.forall₂_readsItem_map (fun bytes => plain_ofBytes bytes 0)
        (fun bytes => readBytes_ofBytes hlayout bytes) members
    exact (Json.readArray_written hlayout hmembers setWanted).mapValue _

/-! ### Whole cells -/

theorem readMember_type (hlayout : layout.Blank) (kind : CellKind) :
    Reads (readMember allowed .nothing "type")
      (':' :: (layout.afterColon ++ Json.quote kind.name)) (.kind kind) := by
  intro rest hrest
  have hspace := Json.skipsSpace_readVariant CellKind.all CellKind.name allowed
  have hread := Json.readVariant_quote (kindOfName_name kind) allowed rest hrest
  rw [List.cons_append, List.append_assoc, readMember, if_pos rfl]
  simp only [readKind, bind, Except.bind, Json.readColon_cons, hspace _ hlayout.afterColon, hread]
  rfl

theorem readMember_value (hlayout : layout.Blank) {c : Cell} {payload : Json}
    (h : c.payloadJson? = some payload) :
    Reads (readMember (allowed + 2) (.kind c.kind) "value")
      (':' :: (layout.afterColon ++ payload.written layout depth)) (.whole c) := by
  intro rest hrest
  have hkind : c.kind ≠ .null := by
    cases c with
    | null => cases h
    | _ => exact CellKind.noConfusion
  have hspace := skipsSpace_readPayload c.kind hkind (allowed + 2)
  have hpayload : Reads (readPayload c.kind (allowed + 2)) (payload.written layout depth) c :=
    readPayload_written hlayout h
  rw [List.cons_append, List.append_assoc, readMember, if_neg (by decide), if_pos rfl]
  simp only [bind, Except.bind, Json.readColon_cons, hspace _ hlayout.afterColon,
    hpayload rest hrest]
  rfl

/-- The members of a written cell lead to the cell. -/
theorem exists_readsMembers (hlayout : layout.Blank) (c : Cell) (allowed depth : Nat) :
    ∃ members final, c.toJson = .object members ∧ Progress.finish final = .ok c ∧
      ReadsMembers layout depth (readMember (allowed + 2)) .nothing members final := by
  have htype : Reads (readMember (allowed + 2) .nothing "type")
      (':' :: (layout.afterColon ++ Json.quote c.kind.name)) (.kind c.kind) :=
    readMember_type hlayout c.kind
  cases hpayload : c.payloadJson? with
  | none =>
    cases c with
    | null => exact ⟨_, .kind .null, rfl, rfl, .cons htype .nil⟩
    | _ => cases hpayload
  | some payload =>
    refine ⟨[("type", .string c.kind.name), ("value", payload)], .whole c, ?_, rfl, ?_⟩
    · rw [toJson, hpayload]
    · exact .cons htype (.cons (readMember_value hlayout hpayload) .nil)

/-- A cell is read from its text as it was, whatever comes after it. -/
theorem read_written (hlayout : layout.Blank) (c : Cell) :
    Reads (read (allowed + 3)) (c.toJson.written layout depth) c := by
  intro rest hrest
  obtain ⟨members, final, hjson, hfinish, hmembers⟩ :=
    exists_readsMembers hlayout c allowed (depth + 1)
  have hfields := Json.readFields_written hlayout hmembers cellWanted readPair rest hrest
  rw [hjson]
  simp only [read, bind, Except.bind, hfields, hfinish, Json.lift]

theorem parse_compactText (c : Cell) : parse c.toJson.compactText.toList = .ok c := by
  have hread : Reads (read (Json.depthLimit - 3 + 3)) c.toJson.compact c := read_written Json.Layout.blank_compact c
  rw [Json.compactText, String.toList_ofList, parse]
  exact Json.readWhole_of_reads hread

theorem exists_tree_compactText (c : Cell) :
    ∃ tree, Json.parse c.toJson.compactText.toList = .ok tree ∧ ofJson tree = .ok c := by
  refine ⟨c.toJson.sortMembers, ?_, ofJson_sortMembers_toJson c⟩
  rw [Json.compactText, String.toList_ofList]
  exact Json.parse_compact (c.plain_toJson (Json.depthLimit - 3))

theorem compactText_inj {c d : Cell} : c.toJson.compactText = d.toJson.compactText ↔ c = d := by
  constructor
  · intro h
    have hread := c.parse_compactText
    rw [h, d.parse_compactText] at hread
    exact (Except.ok.inj hread).symm
  · rintro rfl
    rfl

/-- The text of a cell gives the cell back, directly and through a tree. Two cells have the same
text only when they are the same, so floating-point cells are compared by their bit patterns and
one of single precision is never one of double precision. -/
theorem texts_lose_nothing :
    (∀ c : Cell, parse c.toJson.compactText.toList = .ok c ∧
      ∃ tree, Json.parse c.toJson.compactText.toList = .ok tree ∧ ofJson tree = .ok c) ∧
    (∀ c d : Cell, c.toJson.compactText = d.toJson.compactText ↔ c = d) ∧
    (∀ x y : Single,
      (ofSingle x).toJson.compactText = (ofSingle y).toJson.compactText ↔ x.bits = y.bits) ∧
    (∀ x y : Double,
      (ofDouble x).toJson.compactText = (ofDouble y).toJson.compactText ↔ x.bits = y.bits) ∧
    ∀ (x : Single) (y : Double),
      (ofSingle x).toJson.compactText ≠ (ofDouble y).toJson.compactText := by
  refine ⟨fun c => ⟨c.parse_compactText, c.exists_tree_compactText⟩, fun _ _ => compactText_inj,
    fun x y => ?_, fun x y => ?_, fun x y h => ?_⟩
  · rw [compactText_inj, ofSingle, ofSingle, numeric.injEq, Single.toBytes_inj, Single.mk.injEq]
  · rw [compactText_inj, ofDouble, ofDouble, numeric.injEq, Double.toBytes_inj, Double.mk.injEq]
  · have hlength : Single.byteLength = Double.byteLength :=
      congrArg List.length (numeric.inj (compactText_inj.1 h))
    exact absurd hlength (by decide)

end SeriesQuery.Cell
