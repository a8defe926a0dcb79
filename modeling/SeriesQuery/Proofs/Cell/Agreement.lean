import SeriesQuery.Cell.Reader
import SeriesQuery.Proofs.Json.Agreement

/-!
# Cells read directly and through a tree

The rows of a response are read directly from text, and the values of a params file through a tree.
The direct reader sees the members in the order of the text and keeps the payload as a tree when it
comes before the kind; the tree has its members in order and its strings decoded. Where both give a
cell it is the same one: the direct reader's progress describes the members that the tree has so
far, and every member keeps it so.
-/

namespace SeriesQuery.Cell

open Json (Agrees MembersAgree)

/-! ### Payloads -/

/-- The bytes of a string are those of its decoded text, however its characters are spelled. -/
theorem agrees_readBytes (depth : Nat) : Agrees (readBytes depth) bytesOfJson depth := by
  intro text rest left bytes j hread htree
  rw [← (Json.skipsSpace_readTree depth).skipSpace_eq] at htree
  rw [readBytes] at hread
  split at hread
  · rename_i heq
    rw [heq, Json.readTree_quote] at htree
    obtain ⟨s, htext, rfl⟩ := Json.exists_of_mapValue_eq_ok htree
    obtain ⟨spelling, rfl, hspells⟩ := Json.spells_of_readText htext
    rw [Json.readRaw_of_spells hspells] at hread
    obtain ⟨rfl, rfl⟩ := Prod.mk.inj (Except.ok.inj hread)
    exact ⟨by rw [bytesOfJson, Utf8.ofString, String.toList_ofList], rfl⟩
  · have hnumber (n : Json.Number) : byteOfJson (.number n) = byteOfNumber n := rfl
    obtain ⟨items, rfl, hitems, hrest⟩ :=
      Json.readArray_agrees (Json.agrees_readNumberAs hnumber byteWanted) hread htree
    exact ⟨hitems, hrest⟩

theorem agrees_readPayload (kind : CellKind) (depth : Nat) :
    Agrees (readPayload kind depth) (payloadOfJson kind) depth := by
  have hnumber (n : Json.Number) : integerOfJson (.number n) = integerOfNumber n := rfl
  have hinteger := Json.agrees_readNumberAs hnumber integerWanted depth
  cases kind with
  | binary => exact (agrees_readBytes depth).map binary
  | numeric => exact (agrees_readBytes depth).map numeric
  | map => exact (agrees_readBytes depth).map map
  | integer => exact hinteger.map integer
  | timestamp => exact hinteger.map timestamp
  | null =>
    intro text rest left c j hread htree
    rw [← (Json.skipsSpace_readTree depth).skipSpace_eq] at htree
    obtain ⟨after, hnull, hread⟩ := exists_of_bind_eq_ok hread
    obtain ⟨rfl, rfl⟩ := Prod.mk.inj (Except.ok.inj hread)
    rw [readNullPayload] at hnull
    split at hnull
    · cases hnull
    · rename_i heq
      rw [heq, Json.readTree_null] at htree
      obtain ⟨rfl, hword⟩ := Json.readWord_of_bind htree
      exact ⟨rfl, Except.ok.inj (hword.symm.trans hnull)⟩
    · split at hnull <;> cases hnull
  | boolean =>
    intro text rest left c j hread htree
    rw [← (Json.skipsSpace_readTree depth).skipSpace_eq] at htree
    obtain ⟨b, hboolean, rfl⟩ := Json.exists_of_mapValue_eq_ok hread
    rw [readBoolean] at hboolean
    split at hboolean
    · cases hboolean
    · rename_i heq
      rw [heq, Json.readTree_true] at htree
      obtain ⟨rfl, hword⟩ := Json.readWord_of_bind htree
      obtain ⟨rfl, hafter⟩ := Json.readWord_of_bind hboolean
      exact ⟨rfl, Except.ok.inj (hword.symm.trans hafter)⟩
    · rename_i heq
      rw [heq, Json.readTree_false] at htree
      obtain ⟨rfl, hword⟩ := Json.readWord_of_bind htree
      obtain ⟨rfl, hafter⟩ := Json.readWord_of_bind hboolean
      exact ⟨rfl, Except.ok.inj (hword.symm.trans hafter)⟩
    · cases hboolean
  | set =>
    intro text rest left c j hread htree
    obtain ⟨members, hmembers, rfl⟩ := Json.exists_of_mapValue_eq_ok hread
    obtain ⟨items, rfl, hitems, hrest⟩ := Json.readArray_agrees agrees_readBytes hmembers htree
    exact ⟨congrArg (set <$> ·) hitems, hrest⟩

theorem agrees_readKind (depth : Nat) : Agrees (readKind depth) kindOfJson depth := by
  apply Json.agrees_readVariant
  · intro s
    rfl
  · intro s
    rw [kindOfJson, kindOfName]
    cases Json.variant CellKind.all CellKind.name s <;> rfl

/-! ### Members in any order -/

/-- What the members so far have given of a cell, said of the object they make up. -/
inductive Progress.Describes : Progress → List (String × Json) → Prop where
  | nothing {members : List (String × Json)} : members.lookup "type" = none →
      members.lookup "value" = none → Describes .nothing members
  | kind {members : List (String × Json)} {tag : Json} {kind : CellKind} :
      members.lookup "type" = some tag → kindOfJson tag = .ok kind →
      members.lookup "value" = none → Describes (.kind kind) members
  | payload {members : List (String × Json)} {value : Json} : members.lookup "type" = none →
      members.lookup "value" = some value → Describes (.payload value) members
  | whole {members : List (String × Json)} {tag value : Json} {kind : CellKind} {cell : Cell} :
      members.lookup "type" = some tag → kindOfJson tag = .ok kind →
      members.lookup "value" = some value → payloadOfJson kind value = .ok cell →
      Describes (.whole cell) members

theorem lookup_insertEntry_of_ne {name other : String} (h : other ≠ name) (value : Json)
    (members : List (String × Json)) :
    (SortedMap.insertEntry name value members).lookup other = members.lookup other := by
  rw [SortedMap.lookup_insertEntry, if_neg h]

/-- A member of another name changes nothing of what the object says about the cell. -/
theorem Progress.Describes.insert_other {progress : Progress} {members : List (String × Json)}
    (h : progress.Describes members) {name : String} (htype : "type" ≠ name)
    (hvalue : "value" ≠ name) (value : Json) :
    progress.Describes (SortedMap.insertEntry name value members) := by
  have htype := lookup_insertEntry_of_ne htype value members
  have hvalue := lookup_insertEntry_of_ne hvalue value members
  cases h with
  | nothing hnotype hnovalue => exact .nothing (htype.trans hnotype) (hvalue.trans hnovalue)
  | kind htag hkind hnovalue => exact .kind (htype.trans htag) hkind (hvalue.trans hnovalue)
  | payload hnotype hpayload => exact .payload (htype.trans hnotype) (hvalue.trans hpayload)
  | whole htag hkind hpayload hcell =>
    exact .whole (htype.trans htag) hkind (hvalue.trans hpayload) hcell

theorem membersAgree_readMember (depth : Nat) :
    MembersAgree Progress.Describes (readMember depth)
      (Json.readTreeMember (Json.readTree depth)) := by
  intro progress next members after name text rest left hstate hread htree
  obtain ⟨body, hcolon, htree⟩ := exists_of_bind_eq_ok htree
  obtain ⟨⟨j, behind⟩, hvalue, htree⟩ := exists_of_bind_eq_ok htree
  obtain ⟨rfl, rfl⟩ := Prod.mk.inj (Except.ok.inj htree)
  have hgiven : (SortedMap.insertEntry name j members).lookup name = some j := by
    rw [SortedMap.lookup_insertEntry, if_pos rfl]
  rw [readMember.eq_def] at hread
  simp only [hcolon, ok_bind] at hread
  by_cases htype : name = "type"
  · subst htype
    have hother := lookup_insertEntry_of_ne (show "value" ≠ "type" by decide) j members
    rw [if_pos rfl] at hread
    cases hstate with
    | nothing _ hnovalue =>
      obtain ⟨⟨kind, _⟩, hkind, hread⟩ := exists_of_bind_eq_ok hread
      obtain ⟨hmake, rfl⟩ := agrees_readKind depth hkind hvalue
      obtain ⟨rfl, rfl⟩ := Prod.mk.inj (Except.ok.inj hread)
      exact ⟨.kind hgiven hmake (hother.trans hnovalue), rfl⟩
    | payload _ hpayload =>
      obtain ⟨⟨kind, _⟩, hkind, hread⟩ := exists_of_bind_eq_ok hread
      obtain ⟨hmake, rfl⟩ := agrees_readKind depth hkind hvalue
      obtain ⟨hcell, rfl⟩ := Json.eq_ok_of_lift hread
      obtain ⟨cell, hpaid, rfl⟩ := exists_of_map_eq_ok hcell
      exact ⟨.whole hgiven hmake (hother.trans hpayload) hpaid, rfl⟩
    | kind | whole => cases hread
  rw [if_neg htype] at hread
  by_cases hpayload : name = "value"
  · subst hpayload
    have hother := lookup_insertEntry_of_ne (show "type" ≠ "value" by decide) j members
    rw [if_pos rfl] at hread
    cases hstate with
    | nothing hnotype _ =>
      obtain ⟨found, hfound, hread⟩ := exists_of_bind_eq_ok hread
      obtain rfl := Except.ok.inj (hvalue.symm.trans hfound)
      obtain ⟨rfl, rfl⟩ := Prod.mk.inj (Except.ok.inj hread)
      exact ⟨.payload (hother.trans hnotype) hgiven, rfl⟩
    | kind htag hkind _ =>
      obtain ⟨⟨cell, _⟩, hcell, hread⟩ := exists_of_bind_eq_ok hread
      obtain ⟨hmake, rfl⟩ := agrees_readPayload _ depth hcell hvalue
      obtain ⟨rfl, rfl⟩ := Prod.mk.inj (Except.ok.inj hread)
      exact ⟨.whole (hother.trans htag) hkind hgiven hmake, rfl⟩
    | payload | whole => cases hread
  · rw [if_neg hpayload] at hread
    obtain ⟨after, hskip, hread⟩ := exists_of_bind_eq_ok hread
    obtain ⟨rfl, rfl⟩ := Prod.mk.inj (Except.ok.inj hread)
    have hrest := Json.stopsAlike_readTree_skipNested depth _ hvalue hskip
    exact ⟨hstate.insert_other (Ne.symm htype) (Ne.symm hpayload) j, hrest.symm⟩

/-- An object is made into the cell that its members have given. -/
theorem Progress.Describes.ofJson_object {progress : Progress} {members : List (String × Json)}
    (h : progress.Describes members) {c : Cell} (hfinish : progress.finish = .ok c) :
    ofJson (.object members) = .ok c := by
  cases h with
  | nothing | payload => cases hfinish
  | kind htag hkind hnovalue =>
    simp only [ofJson, htag, hkind, hnovalue, bind, Except.bind]
    exact hfinish
  | whole htag hkind hpayload hcell =>
    simp only [ofJson, htag, hkind, hpayload, bind, Except.bind]
    exact hcell.trans hfinish

/-! ### Whole cells -/

theorem exists_of_readPair {depth : Nat} {text rest : List Char} {progress : Progress}
    (h : readPair depth text = .ok (progress, rest)) :
    ∃ body s kind behind payload cell after, Json.nextItem true text = .ok (.more body) ∧
      Json.readString Json.variantWanted body = .ok (s, behind) ∧ kindOfName s = .ok kind ∧
      Json.nextItem false behind = .ok (.more payload) ∧
      readPayload kind depth payload = .ok (cell, after) ∧
      Json.skipSpace after = ']' :: rest ∧ progress = .whole cell := by
  obtain ⟨next, hnext, h⟩ := exists_of_bind_eq_ok h
  cases next with
  | finished after => cases h
  | more body =>
    obtain ⟨⟨kind, behind⟩, hkind, h⟩ := exists_of_bind_eq_ok h
    obtain ⟨s, hname, hvariant⟩ := Json.exists_of_readVariantName hkind
    obtain ⟨second, hsecond, h⟩ := exists_of_bind_eq_ok h
    cases second with
    | finished after => cases h
    | more payload =>
      obtain ⟨⟨cell, after⟩, hcell, h⟩ := exists_of_bind_eq_ok h
      obtain ⟨last, hclose, h⟩ := exists_of_bind_eq_ok h
      obtain ⟨rfl, rfl⟩ := Prod.mk.inj (Except.ok.inj h)
      exact ⟨body, s, kind, behind, payload, cell, after, hnext, hname, hvariant, hsecond, hcell,
        Json.skipSpace_of_endArray hclose, rfl⟩

/-- An array of the kind and the payload is made into the cell that is read from it. -/
theorem readPair_agrees {depth : Nat} {text rest left : List Char} {progress : Progress} {c : Cell}
    {items : List Json} (hread : readPair depth text = .ok (progress, rest))
    (hfinish : progress.finish = .ok c)
    (htree : Json.readItems (Json.readTree depth) text = .ok (items, left)) :
    ofJson (.array items) = .ok c ∧ left = rest := by
  obtain ⟨body, s, kind, behind, payload, cell, after, hnext, hname, hkind, hsecond, hcell, hclose,
    rfl⟩ := exists_of_readPair hread
  obtain rfl := Except.ok.inj hfinish
  have htag := Json.readTree_of_readString hname depth
  -- The tree has the same two items: the name as a string, and the payload.
  rcases Json.readItemsFrom_cases htree with ⟨hnext', _⟩ |
    ⟨_, _, _, _, _, hnext', htag', hothers, _, rfl⟩
  · cases hnext.symm.trans hnext'
  obtain rfl := Json.Next.more.inj (Except.ok.inj (hnext.symm.trans hnext'))
  obtain ⟨rfl, rfl⟩ := Prod.mk.inj (Except.ok.inj (htag.symm.trans htag'))
  rcases Json.readItemsFrom_cases hothers with ⟨hsecond', _⟩ |
    ⟨_, _, value, _, _, hsecond', hvalue, hmore, _, rfl⟩
  · cases hsecond.symm.trans hsecond'
  obtain rfl := Json.Next.more.inj (Except.ok.inj (hsecond.symm.trans hsecond'))
  obtain ⟨hmake, rfl⟩ := agrees_readPayload kind depth hcell hvalue
  rcases Json.readItemsFrom_cases hmore with ⟨hthird, rfl⟩ | ⟨_, _, _, _, _, hthird, _⟩
  · have hlast := (List.cons.inj ((Json.nextItem_eq_finished hthird).symm.trans hclose)).2
    simp only [ofJson, hkind, hmake, ok_bind]
    exact ⟨rfl, hlast⟩
  · obtain ⟨hfirst, _⟩ | ⟨_, _, hcomma, _⟩ := Json.nextItem_eq_more hthird
    · cases hfirst
    · cases hcomma.symm.trans hclose

theorem agrees_read (depth : Nat) : Agrees (read depth) ofJson depth := by
  intro text rest left c j hread htree
  rw [← (Json.skipsSpace_readTree depth).skipSpace_eq] at htree
  obtain ⟨⟨progress, behind⟩, hfields, hread⟩ := exists_of_bind_eq_ok hread
  obtain ⟨hfinish, rfl⟩ := Json.eq_ok_of_lift hread
  rw [Json.readFields] at hfields
  split at hfields
  · cases hfields
  · rename_i heq
    rw [heq] at htree
    obtain ⟨inner, items, rfl, rfl, hitems⟩ := Json.exists_items_of_readTree htree
    exact readPair_agrees hfields hfinish hitems
  · rename_i heq
    rw [heq] at htree
    obtain ⟨inner, members, rfl, rfl, hmembers⟩ := Json.exists_members_of_readTree htree
    obtain ⟨hdescribes, hrest⟩ := Json.readMembersFrom_agrees (membersAgree_readMember inner)
      (.nothing rfl rfl) hfields hmembers
    exact ⟨hdescribes.ofJson_object hfinish, hrest⟩
  · cases hfields

/-- A text that is read directly as a cell has a tree, if it has one at all, of which that cell is
made and no other. -/
theorem ofJson_eq_ok_iff_of_parse {text : List Char} {c : Cell} {tree : Json}
    (hdirect : parse text = .ok c) (htree : Json.parse text = .ok tree) (other : Cell) :
    ofJson tree = .ok other ↔ c = other := by
  rw [(agrees_read Json.depthLimit).readWhole hdirect htree, Except.ok.injEq]

/-- The payload comes before the kind, with an escape in it, and there is a member of another name. -/
def payloadFirst : List Char :=
  "\x7b\"value\": \"a\\u0042\", \"x\": [null], \"type\": \"binary\"\x7d".toList

theorem ofJson_eq_ok_iff_of_payload_first :
    parse payloadFirst = .ok (binary [0x61, 0x42]) ∧ ∃ tree, Json.parse payloadFirst = .ok tree ∧
      ∀ other, ofJson tree = .ok other ↔ binary [0x61, 0x42] = other := by
  have hdirect : parse payloadFirst = .ok (binary [0x61, 0x42]) := by decide +kernel
  obtain ⟨tree, htree⟩ : ∃ tree, Json.parse payloadFirst = .ok tree :=
    exists_eq_ok_of_isSome (by decide +kernel)
  exact ⟨hdirect, tree, htree, ofJson_eq_ok_iff_of_parse hdirect htree⟩

end SeriesQuery.Cell
