import SeriesQuery.Proofs.Text.Utf8

/-!
# Slices of a text

The places in a text are counted in bytes. A text is cut at a place where the characters before it fill
exactly the bytes before it, and it has a slice where it is cut at both ends. So a slice never reaches
beyond the text and never takes a character apart.
-/

namespace SeriesQuery.Utf8

@[simp] theorem size_nil : size [] = 0 := rfl

@[simp] theorem size_cons (c : Char) (rest : List Char) : size (c :: rest) = c.utf8Size + size rest :=
  rfl

@[simp] theorem size_append (front rest : List Char) :
    size (front ++ rest) = size front + size rest := by
  induction front with
  | nil => simp
  | cons c front ih => simp [ih, Nat.add_assoc]

theorem length_encode (text : List Char) : (encode text).length = size text := by
  induction text with
  | nil => rfl
  | cons c rest ih =>
    rw [encode, List.flatMap_cons, List.length_append, String.length_utf8EncodeChar]
    exact congrArg _ ih

theorem size_ascii {text : List Char} (h : ∀ c ∈ text, c.toNat < 0x80) : size text = text.length := by
  rw [← length_encode, encode_ascii h, List.length_map]

variable {text front back part : List Char} {n start length : Nat}

theorem cut?_append (front back : List Char) :
    cut? (size front) (front ++ back) = some (front, back) := by
  induction front with
  | nil => rw [size_nil, List.nil_append, cut?]
  | cons c front ih =>
    obtain ⟨n, hn⟩ := Nat.exists_eq_succ_of_ne_zero
      (show c.utf8Size + size front ≠ 0 by have := c.utf8Size_pos; omega)
    have hfits : c.utf8Size ≤ n + 1 := by omega
    have hrest : n + 1 - c.utf8Size = size front := by omega
    rw [size_cons, hn, List.cons_append, cut?, if_pos hfits, hrest, ih]
    rfl

theorem eq_append_of_cut? (h : cut? n text = some (front, back)) :
    text = front ++ back ∧ size front = n := by
  induction text generalizing n front with
  | nil =>
    cases n with
    | zero =>
      obtain ⟨rfl, rfl⟩ := Prod.mk.inj (Option.some.inj h)
      exact ⟨rfl, rfl⟩
    | succ n => cases h
  | cons c rest ih =>
    cases n with
    | zero =>
      obtain ⟨rfl, rfl⟩ := Prod.mk.inj (Option.some.inj h)
      exact ⟨rfl, rfl⟩
    | succ n =>
      rw [cut?] at h
      split at h
      · rename_i hfits
        obtain ⟨⟨tail, behind⟩, htail, heq⟩ := Option.map_eq_some_iff.1 h
        obtain ⟨rfl, rfl⟩ := Prod.mk.inj heq
        obtain ⟨rfl, hsize⟩ := ih htail
        refine ⟨rfl, ?_⟩
        rw [size_cons, hsize]
        omega
      · cases h

theorem cut?_eq_some_iff :
    cut? n text = some (front, back) ↔ text = front ++ back ∧ size front = n := by
  refine ⟨eq_append_of_cut?, ?_⟩
  rintro ⟨rfl, rfl⟩
  exact cut?_append front back

/-- The characters of a slice stand between others, and the places of its ends are theirs. -/
theorem slice?_eq_some_iff :
    slice? start length text = some part ↔
      ∃ before after, text = before ++ part ++ after ∧ size before = start ∧ size part = length := by
  simp only [slice?, Option.bind_eq_bind, Option.bind_eq_some_iff, Option.pure_def, Option.some.injEq]
  constructor
  · rintro ⟨⟨before, rest⟩, hbefore, ⟨found, after⟩, hfound, rfl⟩
    obtain ⟨rfl, hstart⟩ := cut?_eq_some_iff.1 hbefore
    obtain ⟨rfl, hlength⟩ := cut?_eq_some_iff.1 hfound
    exact ⟨before, after, (List.append_assoc _ _ _).symm, hstart, hlength⟩
  · rintro ⟨before, after, rfl, rfl, rfl⟩
    rw [List.append_assoc]
    exact ⟨(before, part ++ after), cut?_append _ _, (part, after), cut?_append _ _, rfl⟩

end SeriesQuery.Utf8
