import SeriesQuery.Proofs.Text.Split
import SeriesQuery.Url.UserInfo

/-!
# User info read back

What percent encoding writes it keeps when it is applied again, because neither a percent sign nor a
digit behind it is reserved in user info. The marks between the name, the password and the host are
reserved, so what stands before the host is cut where it was put together.
-/

namespace SeriesQuery

namespace Percent

variable {reserved : Char → Bool}

/-- The characters that encoding leaves as they are. -/
def Keeps (reserved : Char → Bool) (c : Char) : Prop := c.toNat < 0x80 ∧ reserved c = false

theorem encode_of_keeps {text : List Char} (h : ∀ c ∈ text, Keeps reserved c) :
    encode reserved text = text := by
  induction text with
  | nil => rfl
  | cons c rest ih =>
    obtain ⟨⟨hascii, hfree⟩, hrest⟩ := List.forall_mem_cons.1 h
    rw [encode, List.flatMap_cons, ← encode, ih hrest, encodeChar, if_pos (by simp [hascii, hfree])]
    rfl

theorem keeps_of_mem_encode {text : List Char} (hmark : Keeps reserved '%')
    (hdigits : ∀ n < 16, Keeps reserved (upperHexDigit n)) {c : Char}
    (hc : c ∈ encode reserved text) : Keeps reserved c := by
  obtain ⟨d, -, hmem⟩ := List.mem_flatMap.1 hc
  rw [encodeChar] at hmem
  split at hmem
  · rename_i hd
    obtain rfl := List.mem_singleton.1 hmem
    simpa [Keeps] using hd
  · obtain ⟨b, -, hbyte⟩ := List.mem_flatMap.1 hmem
    have hb := b.toNat_lt
    rw [encodeByte] at hbyte
    simp only [List.mem_cons, List.not_mem_nil, or_false] at hbyte
    rcases hbyte with rfl | rfl | rfl
    · exact hmark
    · exact hdigits _ (by omega)
    · exact hdigits _ (by omega)

end Percent

namespace UserInfo

/-- A character of a name or a password as they are kept. -/
def IsWritten (c : Char) : Prop := Percent.Keeps isReserved c

instance (c : Char) : Decidable (IsWritten c) :=
  inferInstanceAs (Decidable (c.toNat < 0x80 ∧ isReserved c = false))

structure Encoded (u : UserInfo) : Prop where
  username : ∀ c ∈ u.username, IsWritten c
  password : ∀ c ∈ u.password, IsWritten c

theorem encoded_none : Encoded none where
  username := List.forall_mem_nil _
  password := List.forall_mem_nil _

theorem isWritten_of_mem_encode {text : List Char} {c : Char}
    (hc : c ∈ Percent.encode isReserved text) : IsWritten c := by
  have hdigits : ∀ n < 16, IsWritten (Percent.upperHexDigit n) := by decide
  exact Percent.keeps_of_mem_encode (by decide : IsWritten '%') hdigits hc

theorem encoded_parse (text : List Char) : (parse text).Encoded where
  username := fun _ => isWritten_of_mem_encode
  password := fun _ => isWritten_of_mem_encode

theorem ne_of_isWritten {c mark : Char} (h : IsWritten c) (hmark : isReserved mark) : c ≠ mark :=
  ne_of_class h.2 hmark

theorem lt_of_isWritten {c : Char} (h : IsWritten c) : 0x20 < c.toNat := by
  by_contra hle
  have hreserved : isReserved c := by
    simp only [isReserved, decide_eq_true (Nat.le_of_not_lt hle), Bool.true_or]
  exact ne_of_isWritten h hreserved rfl

theorem isEmpty_iff {u : UserInfo} : u.isEmpty ↔ u = none := by
  cases u
  simp [isEmpty, none]

/-- The text before the at sign. -/
def front (u : UserInfo) : List Char :=
  u.username ++ if u.password.isEmpty then [] else ':' :: u.password

theorem text_none : none.text = [] := rfl

theorem text_of_ne_none {u : UserInfo} (h : u ≠ none) : u.text = u.front ++ ['@'] := by
  rw [text, if_neg (mt isEmpty_iff.1 h), front]

variable {u : UserInfo}

theorem parse_front (h : u.Encoded) : parse u.front = u := by
  have hcolon : ':' ∉ u.username := fun hmem => ne_of_isWritten (h.username ':' hmem) rfl rfl
  have hparts : (splitFirst? ':' u.front).getD (u.front, []) = (u.username, u.password) := by
    rw [front]
    split
    · rename_i hempty
      rw [List.append_nil, splitFirst?_eq_none hcolon, List.isEmpty_iff.1 hempty]
      rfl
    · rw [splitFirst?_append hcolon]
      rfl
  simp only [parse, hparts, Percent.encode_of_keeps h.username,
    Percent.encode_of_keeps h.password]

theorem isWritten_of_mem_front (h : u.Encoded) {c : Char} (hc : c ∈ u.front) :
    IsWritten c ∨ c = ':' := by
  rw [front] at hc
  rcases List.mem_append.1 hc with husername | hrest
  · exact .inl (h.username c husername)
  · split at hrest
    · cases hrest
    · rcases List.mem_cons.1 hrest with rfl | hpassword
      · exact .inr rfl
      · exact .inl (h.password c hpassword)

theorem isWritten_of_mem_text (h : u.Encoded) {c : Char} (hc : c ∈ u.text) :
    IsWritten c ∨ c = ':' ∨ c = '@' := by
  by_cases hnone : u = none
  · rw [hnone, text_none] at hc
    cases hc
  · rw [text_of_ne_none hnone] at hc
    rcases List.mem_append.1 hc with hfront | hat
    · exact (isWritten_of_mem_front h hfront).imp_right .inl
    · exact .inr (.inr (List.mem_singleton.1 hat))

end UserInfo

end SeriesQuery
