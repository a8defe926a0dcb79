import SeriesQuery.Json.Typed
import SeriesQuery.Proofs.Json.Tree

/-!
# Printed values are read back as values of a type

The readers of strings, numbers, variants, arrays and objects take what was printed for a value of
their type for this value. A reader of arrays needs only that its items are read back, and a reader
of objects that each member leads from one state to the next.
-/

namespace SeriesQuery.Json

variable {α σ : Type} {layout : Layout} {allowed depth : Nat}

/-! ### Space before a value -/

theorem skipsSpace_readString (wanted : String) : SkipsSpace (readString wanted) := by
  intro gap hgap text
  simp only [readString, skipSpace_append hgap]

theorem skipsSpace_readVariant (all : List α) (name : α → String) (allowed : Nat) :
    SkipsSpace (readVariant all name allowed) := by
  intro gap hgap text
  simp only [readVariant, skipSpace_append hgap]

theorem skipsSpace_readNumberAs (accept : Number → Except Mismatch α) (wanted : String) :
    SkipsSpace (readNumberAs accept wanted) := by
  intro gap hgap text
  simp only [readNumberAs, skipSpace_append hgap]

theorem skipsSpace_readArray (item : Nat → List Char → Read (α × List Char)) (wanted : String)
    (allowed : Nat) : SkipsSpace (readArray item wanted allowed) := by
  intro gap hgap text
  simp only [readArray, skipSpace_append hgap]

theorem SkipsSpace.mapValue {β : Type} {reader : List Char → Read (α × List Char)}
    (h : SkipsSpace reader) (f : α → β) : SkipsSpace fun text => mapValue f (reader text) := by
  intro gap hgap text
  exact congrArg _ (h gap hgap text)

/-! ### Values -/

theorem Reads.mapValue {β : Type} {reader : List Char → Read (α × List Char)} {text : List Char}
    {value : α} (h : Reads reader text value) (f : α → β) :
    Reads (fun text => mapValue f (reader text)) text (f value) := by
  intro rest hrest
  simp only [h rest hrest]
  rfl

/-- A value is read back behind a colon. -/
theorem Reads.behindColon (hlayout : layout.Blank) {reader : List Char → Read (α × List Char)}
    (hspace : SkipsSpace reader) {text : List Char} {value : α} (h : Reads reader text value) :
    Reads (fun text => do reader (← readColon text)) (':' :: (layout.afterColon ++ text)) value := by
  intro rest hrest
  rw [List.cons_append, List.append_assoc]
  simp only [bind, Except.bind, readColon_cons, hspace _ hlayout.afterColon, h rest hrest]

theorem readString_quote (wanted s : String) : Reads (readString wanted) (quote s) s := by
  intro rest _
  rw [quote_append, readString, skipSpace_cons (by decide)]
  simp only [readText_quoted, mapValue, String.ofList_toList]

/-- The name of a variant is read back when no other variant has the same name. -/
theorem readVariant_quote {all : List α} {name : α → String} {a : α}
    (h : variant all name (name a) = .ok a) (allowed : Nat) :
    Reads (readVariant all name allowed) (quote (name a)) a := by
  intro rest hrest
  have hname := readString_quote variantWanted (name a) rest hrest
  rw [quote_append] at hname
  rw [quote_append, readVariant, skipSpace_cons (by decide)]
  simp only [readVariantName, bind, Except.bind, hname, h, lift]

theorem readNumberAs_integerDigits {accept : Number → Except Mismatch α} {n : Int} {h : IsWord n}
    {a : α} (haccept : accept (.integer n h) = .ok a) (wanted : String) :
    Reads (readNumberAs accept wanted) (integerDigits n) a := by
  intro rest hrest
  rcases readNumber_integerDigits h with ⟨c, more, hdigits, hc, hread⟩ | ⟨digits, hdigits, hread⟩
  · have hnumber := hread rest hrest
    rw [List.cons_append] at hnumber
    rw [hdigits, List.cons_append, readNumberAs, skipSpace_cons (isSpace_of_isDigit hc)]
    split
    case h_1 heq => cases heq
    case h_2 heq => exact absurd (List.cons.inj heq).1 (isDigit_ne hc (by decide))
    case h_3 heq =>
      obtain ⟨rfl, rfl⟩ := List.cons.inj heq
      simp only [hc, if_true, bind, Except.bind, hnumber, haccept, lift]
  · rw [hdigits, List.cons_append, readNumberAs, skipSpace_cons (by decide)]
    simp only [bind, Except.bind, hread rest hrest, haccept, lift]

theorem readArray_written (hlayout : layout.Blank)
    {item : Nat → List Char → Read (α × List Char)} {items : List Json} {values : List α}
    (h : List.Forall₂ (ReadsItem layout (depth + 1) (item allowed)) items values)
    (wanted : String) :
    Reads (readArray item wanted (allowed + 1)) ((Json.array items).written layout depth)
      values := by
  intro rest _
  obtain ⟨body, hbody, hread⟩ := readItems_written hlayout h
  rw [hbody, List.cons_append, readArray, skipSpace_cons (by decide)]
  exact hread rest

theorem readFields_written (hlayout : layout.Blank)
    {member : Nat → σ → String → List Char → Read (σ × List Char)} {start final : σ}
    {members : List (String × Json)}
    (h : ReadsMembers layout (depth + 1) (member allowed) start members final) (wanted : String)
    (items : Nat → List Char → Read (σ × List Char)) :
    Reads (readFields wanted member items start (allowed + 1))
      ((Json.object members).written layout depth) final := by
  intro rest _
  obtain ⟨body, hbody, hread⟩ := readMembers_written hlayout h
  rw [hbody, List.cons_append, readFields, skipSpace_cons (by decide)]
  exact hread rest

/-- A field that has not come before is read back behind its colon. -/
theorem readOnce_written (hlayout : layout.Blank) {reader : List Char → Read (α × List Char)}
    (hspace : SkipsSpace reader) {text : List Char} {value : α} (h : Reads reader text value)
    (name : String) :
    Reads (readOnce name none reader) (':' :: (layout.afterColon ++ text)) (some value) :=
  (h.mapValue some).behindColon hlayout (hspace.mapValue some)

/-- The items of a printed list are read back when each value is. -/
theorem forall₂_readsItem_map {reader : List Char → Read (α × List Char)} {toJson : α → Json}
    (hplain : ∀ a, Plain allowed (toJson a))
    (hreads : ∀ a, Reads reader ((toJson a).written layout depth) a) (values : List α) :
    List.Forall₂ (ReadsItem layout depth reader) (values.map toJson) values := by
  induction values with
  | nil => exact .nil
  | cons a rest ih => exact .cons ⟨beginsItem_written (hplain a) layout depth, hreads a⟩ ih

end SeriesQuery.Json
