import SeriesQuery.Unicode.Normal

/-!
# Upper case in composed characters

An upper-case letter of ASCII is the first part of some composed characters, and of characters that
are composed of these, but of none beyond. They all lie in a few ranges. A character outside of the
two classes has no upper-case letter of ASCII in its decomposition, and whatever a decomposition
leaves is such a character or such a letter. Composition makes no letter of ASCII at all.
-/

namespace SeriesQuery.Unicode

/-! ### The classes -/

/-- The built-in comparisons, which the kernel evaluates at once. -/
def isBetween (low high n : Nat) : Bool := Nat.ble low n && Nat.ble n high

def isUpper (n : Nat) : Bool := isBetween 0x41 0x5A n

/-- Ranges that hold all composed upper-case letters of the two classes. What names replace by other
characters lies between them. -/
def upperRanges : List (Nat × Nat) :=
  [(0xC0, 0xDD), (0x100, 0x10E), (0x112, 0x124), (0x128, 0x130), (0x134, 0x13D), (0x143, 0x147),
    (0x14C, 0x150), (0x154, 0x164), (0x168, 0x17D), (0x1A0, 0x1A0), (0x1AF, 0x1AF), (0x1CD, 0x1DB),
    (0x1DE, 0x1E0), (0x1E6, 0x21A), (0x21E, 0x21E), (0x226, 0x232), (0x1E00, 0x1EF8),
    (0x212A, 0x212B)]

def inUpperRanges (n : Nat) : Bool :=
  isBetween 0xC0 0x212B n && upperRanges.any fun range => isBetween range.1 range.2 n

/-- The composed characters whose first part is of a class. -/
def composedFrom (table : List (List Nat)) (p : Nat → Bool) : List Nat :=
  table.filterMap fun
    | composed :: first :: _ => if p first then some composed else none
    | _ => none

/-- The composed characters whose first part is one of a list. -/
def composedAgain (table : List (List Nat)) (firsts : List Nat) : List Nat :=
  composedFrom table fun n => inUpperRanges n && firsts.any (Nat.beq n)

def upperOnce (table : List (List Nat)) : List Nat := composedFrom table isUpper

def upperTwice (table : List (List Nat)) : List Nat := composedAgain table (upperOnce table)

/-- Neither a composed character nor a second part is a letter of ASCII. -/
def rowFits : List Nat → Bool
  | composed :: _ :: rest =>
    !isUpper composed && rest.all fun n => !isUpper n && !inUpperRanges n
  | _ => false

def tableFits (table : List (List Nat)) : Bool :=
  table.all rowFits && (upperOnce table ++ upperTwice table).all inUpperRanges &&
    (composedAgain table (upperTwice table)).isEmpty

set_option maxRecDepth 100000 in
theorem tableFits_decompositions : tableFits decompositions := by
  unfold decompositions rows
  -- The literal as the list of its characters: decoding its bytes in the kernel is too slow.
  rw [String.toList_ofList]
  decide +kernel

theorem isBetween_iff {low high n : Nat} : isBetween low high n ↔ low ≤ n ∧ n ≤ high := by
  simp [isBetween]

theorem isUpper_eq_false {n : Nat} (h : n < 0x41 ∨ 0x5A < n) : isUpper n = false := by
  refine Bool.eq_false_iff.2 fun hupper => ?_
  have hbounds := isBetween_iff.1 hupper
  omega

theorem inUpperRanges_bounds {n : Nat} (h : inUpperRanges n) : 0xC0 ≤ n ∧ n ≤ 0x212B := by
  rw [inUpperRanges, Bool.and_eq_true] at h
  exact isBetween_iff.1 h.1

theorem inUpperRanges_of_between {n : Nat} (hlow : 0x232 < n) (hhigh : n < 0x1E00) :
    inUpperRanges n = false := by
  apply Bool.eq_false_iff.2
  intro h
  simp only [inUpperRanges, upperRanges, List.any_cons, List.any_nil, Bool.or_false,
    Bool.and_eq_true, Bool.or_eq_true, isBetween_iff] at h
  omega

theorem mem_composedFrom {table : List (List Nat)} {p : Nat → Bool} {n : Nat} :
    n ∈ composedFrom table p ↔ ∃ first rest, n :: first :: rest ∈ table ∧ p first := by
  rw [composedFrom, List.mem_filterMap]
  constructor
  · rintro ⟨row, hrow, hfirst⟩
    match row with
    | composed :: first :: rest =>
      obtain ⟨hp, hcomposed⟩ := Option.ite_none_right_eq_some.1 hfirst
      obtain rfl := Option.some.inj hcomposed
      exact ⟨first, rest, hrow, hp⟩
  · rintro ⟨first, rest, hrow, hp⟩
    exact ⟨_, hrow, if_pos hp⟩

/-- The composed upper-case letters. -/
def IsComposedUpper (n : Nat) : Prop := n ∈ upperOnce decompositions ∨ n ∈ upperTwice decompositions

/-- No letter of ASCII in upper case, and none in the decomposition. -/
def Caseless (n : Nat) : Prop := isUpper n = false ∧ ¬IsComposedUpper n

theorem decompositions_fit :
    (∀ row ∈ decompositions, rowFits row) ∧ (∀ n, IsComposedUpper n → inUpperRanges n) ∧
      composedAgain decompositions (upperTwice decompositions) = [] := by
  have hfits := tableFits_decompositions
  simp only [tableFits, Bool.and_eq_true, List.isEmpty_iff] at hfits
  obtain ⟨⟨hrows, hranges⟩, hthrice⟩ := hfits
  exact ⟨List.all_eq_true.1 hrows,
    fun n hn => List.all_eq_true.1 hranges n (List.mem_append.2 hn), hthrice⟩

theorem mem_composedAgain {n first : Nat} {rest firsts : List Nat}
    (hrow : n :: first :: rest ∈ decompositions) (hfirst : first ∈ firsts)
    (hrange : inUpperRanges first) : n ∈ composedAgain decompositions firsts := by
  have hmem : firsts.any (Nat.beq first) :=
    List.any_eq_true.2 ⟨first, hfirst, Nat.beq_refl first⟩
  exact mem_composedFrom.2 ⟨first, rest, hrow, by rw [hrange, hmem]; rfl⟩

theorem mem_upperTwice {n first : Nat} {rest : List Nat}
    (hrow : n :: first :: rest ∈ decompositions) (hfirst : first ∈ upperOnce decompositions) :
    n ∈ upperTwice decompositions :=
  mem_composedAgain hrow hfirst (decompositions_fit.2.1 first (.inl hfirst))

theorem not_mem_upperTwice {n first : Nat} {rest : List Nat}
    (hrow : n :: first :: rest ∈ decompositions) : first ∉ upperTwice decompositions := by
  intro hfirst
  have hthrice := mem_composedAgain hrow hfirst (decompositions_fit.2.1 first (.inr hfirst))
  rw [decompositions_fit.2.2] at hthrice
  cases hthrice

theorem caseless_of_not_inUpperRanges {n : Nat} (hupper : isUpper n = false)
    (h : inUpperRanges n = false) : Caseless n := by
  refine ⟨hupper, fun hcomposed => ?_⟩
  rw [decompositions_fit.2.1 n hcomposed] at h
  cases h

theorem caseless_of_lt {n : Nat} (hupper : isUpper n = false) (h : n < 0xC0) : Caseless n := by
  apply caseless_of_not_inUpperRanges hupper
  apply Bool.eq_false_iff.2
  intro hrange
  have hbounds := inUpperRanges_bounds hrange
  omega

theorem caseless_of_between {n : Nat} (hlow : 0x232 < n) (hhigh : n < 0x1E00) : Caseless n :=
  caseless_of_not_inUpperRanges (isUpper_eq_false (by omega))
    (inUpperRanges_of_between hlow hhigh)

/-! ### Decomposition -/

theorem exists_row_of_parts? {n : Nat} {parts : List Nat} (h : parts? n = some parts) :
    ∃ first rest, parts = first :: rest ∧ n :: first :: rest ∈ decompositions ∧
      ∀ m ∈ rest, Caseless m := by
  rw [parts?] at h
  obtain ⟨row, hfind, rfl⟩ := Option.map_eq_some_iff.1 h
  have hmem := List.mem_of_find?_eq_some hfind
  have hhead := List.find?_some hfind
  have hfits := decompositions_fit.1 _ hmem
  match row with
  | [] => cases hfits
  | [_] => cases hfits
  | composed :: first :: rest =>
    obtain rfl : composed = n := by simpa using hhead
    rw [rowFits, Bool.and_eq_true] at hfits
    refine ⟨first, rest, rfl, hmem, fun m hm => ?_⟩
    have hm := List.all_eq_true.1 hfits.2 m hm
    simp only [Bool.and_eq_true, Bool.not_eq_true'] at hm
    exact caseless_of_not_inUpperRanges hm.1 hm.2

theorem parts?_ne_none {n : Nat} (h : IsComposedUpper n) : parts? n ≠ none := by
  have hrow : ∃ first rest, n :: first :: rest ∈ decompositions := by
    rcases h with h | h
    all_goals
      obtain ⟨first, rest, hmem, -⟩ := mem_composedFrom.1 h
      exact ⟨first, rest, hmem⟩
  obtain ⟨first, rest, hmem⟩ := hrow
  intro hnone
  rw [parts?, Option.map_eq_none_iff, List.find?_eq_none] at hnone
  exact hnone _ hmem (by simp)

theorem isUpper_decomposeTo (depth : Nat) {n : Nat} (h : Caseless n) :
    ∀ m ∈ decomposeTo depth n, isUpper m = false := by
  induction depth generalizing n with
  | zero =>
    intro m hm
    obtain rfl := List.mem_singleton.1 hm
    exact h.1
  | succ depth ih =>
    intro m hm
    rw [decomposeTo] at hm
    cases hparts : parts? n with
    | none =>
      rw [hparts] at hm
      obtain rfl := List.mem_singleton.1 hm
      exact h.1
    | some parts =>
      obtain ⟨first, rest, rfl, hrow, hrest⟩ := exists_row_of_parts? hparts
      rw [hparts] at hm
      rcases List.mem_append.1 hm with hm | hm
      · refine ih ⟨?_, ?_⟩ m hm
        · apply Bool.eq_false_iff.2
          intro hupper
          exact h.2 (.inl (mem_composedFrom.2 ⟨first, rest, hrow, hupper⟩))
        · rintro (honce | htwice)
          · exact h.2 (.inr (mem_upperTwice hrow honce))
          · exact not_mem_upperTwice hrow htwice
      · exact (hrest m hm).1

/-- A composed upper-case letter is left only where the depth does not suffice for it. What is
composed of a letter of the first class is of the second, and of the second class nothing is
composed, so two steps are enough. -/
theorem depth_of_mem_decomposeTo {depth n m : Nat} (hm : m ∈ decomposeTo depth n)
    (h : IsComposedUpper m) :
    depth = 0 ∧ m = n ∨ depth = 1 ∧ n ∈ upperTwice decompositions := by
  induction depth generalizing n with
  | zero => exact .inl ⟨rfl, List.mem_singleton.1 hm⟩
  | succ depth ih =>
    rw [decomposeTo] at hm
    cases hparts : parts? n with
    | none =>
      rw [hparts] at hm
      obtain rfl := List.mem_singleton.1 hm
      exact absurd hparts (parts?_ne_none h)
    | some parts =>
      obtain ⟨first, rest, rfl, hrow, hrest⟩ := exists_row_of_parts? hparts
      rw [hparts] at hm
      rcases List.mem_append.1 hm with hm | hm
      · rcases ih hm with ⟨rfl, rfl⟩ | ⟨-, htwice⟩
        · rcases h with honce | htwice
          · exact .inr ⟨rfl, mem_upperTwice hrow honce⟩
          · exact absurd htwice (not_mem_upperTwice hrow)
        · exact absurd htwice (not_mem_upperTwice hrow)
      · exact absurd h (hrest m hm).2

/-- A number that is no code point stands for the null character. -/
theorem toNat_ofNat_cases (n : Nat) :
    (Char.ofNat n).toNat = n ∨ 0xD800 ≤ n ∧ (Char.ofNat n).toNat = 0 := by
  by_cases hvalid : n.isValidChar
  · rw [Char.ofNat, dif_pos hvalid]
    exact .inl rfl
  · rw [Char.ofNat, dif_neg hvalid]
    refine .inr ⟨?_, rfl⟩
    simp only [Nat.isValidChar, not_or] at hvalid
    omega

theorem isUpper_toNat_ofNat (n : Nat) : isUpper (Char.ofNat n).toNat = isUpper n := by
  rcases toNat_ofNat_cases n with h | ⟨hlow, h⟩
  · rw [h]
  · rw [h, isUpper_eq_false (show 0x41 > n ∨ 0x5A < n by omega)]
    rfl

theorem caseless_toNat_ofNat {n : Nat} (h : Caseless n) : Caseless (Char.ofNat n).toNat := by
  rcases toNat_ofNat_cases n with hn | ⟨-, hn⟩
  · rwa [hn]
  · rw [hn]
    exact caseless_of_lt rfl (by decide)

theorem caseless_of_mem_hangulParts {index : Nat} (h : index < hangulCount) :
    ∀ n ∈ hangulParts index, Caseless n := by
  have hbounds : ∀ n ∈ hangulParts index, 0x232 < n ∧ n < 0x1E00 := by
    intro n hn
    rw [hangulCount] at h
    simp only [hangulParts] at hn
    split at hn <;> simp only [List.mem_cons, List.not_mem_nil, or_false] at hn <;> omega
  intro n hn
  exact caseless_of_between (hbounds n hn).1 (hbounds n hn).2

theorem decompose_cases {c d : Char} (hd : d ∈ decompose c) :
    d = c ∧ c.toNat < 0xC0 ∨ Caseless d.toNat ∨ ∃ n ∈ decomposeTo 3 c.toNat, d = Char.ofNat n := by
  rw [decompose] at hd
  split at hd
  · rename_i hlow
    exact .inl ⟨List.mem_singleton.1 hd, hlow⟩
  split at hd
  · rename_i hhangul
    obtain ⟨n, hn, rfl⟩ := List.mem_map.1 hd
    simp only [Bool.and_eq_true, decide_eq_true_eq] at hhangul
    exact .inr (.inl (caseless_toNat_ofNat (caseless_of_mem_hangulParts (by omega) n hn)))
  · obtain ⟨n, hn, rfl⟩ := List.mem_map.1 hd
    exact .inr (.inr ⟨n, hn, rfl⟩)

theorem caseless_of_mem_decompose {c d : Char} (hd : d ∈ decompose c)
    (hupper : isUpper d.toNat = false) : Caseless d.toNat := by
  rcases decompose_cases hd with ⟨rfl, hlow⟩ | hcaseless | ⟨n, hn, rfl⟩
  · exact caseless_of_lt hupper hlow
  · exact hcaseless
  · rw [isUpper_toNat_ofNat] at hupper
    refine caseless_toNat_ofNat ⟨hupper, fun hcomposed => ?_⟩
    rcases depth_of_mem_decomposeTo hn hcomposed with ⟨hdepth, -⟩ | ⟨hdepth, -⟩ <;> omega

theorem isUpper_of_mem_decompose {c d : Char} (h : Caseless c.toNat) (hd : d ∈ decompose c) :
    isUpper d.toNat = false := by
  rcases decompose_cases hd with ⟨rfl, -⟩ | hcaseless | ⟨n, hn, rfl⟩
  · exact h.1
  · exact hcaseless.1
  · rw [isUpper_toNat_ofNat]
    exact isUpper_decomposeTo 3 h n hn

/-! ### Normal form -/

theorem mem_sortMarks {text : List Char} {c : Char} : c ∈ sortMarks text ↔ c ∈ text := by
  have hinsert : ∀ (d : Char) (text : List Char), c ∈ insertMark d text ↔ c = d ∨ c ∈ text := by
    intro d text
    induction text with
    | nil => simp [insertMark]
    | cons e rest ih =>
      rw [insertMark]
      split
      · rw [List.mem_cons, ih, List.mem_cons]
        exact or_left_comm
      · rw [List.mem_cons]
  induction text with
  | nil => exact Iff.rfl
  | cons d rest ih =>
    have hstep : sortMarks (d :: rest) = insertMark d (sortMarks rest) := rfl
    rw [hstep, hinsert, List.mem_cons]
    exact or_congr_right ih

theorem isUpper_of_hangulPair? {first second n : Nat} (h : hangulPair? first second = some n) :
    isUpper n = false := by
  rw [hangulPair?] at h
  apply isUpper_eq_false
  split at h
  · have hn := Option.some.inj h
    rw [hangulFirst] at hn
    omega
  split at h
  · rename_i hfirst
    have hn := Option.some.inj h
    simp only [Bool.and_eq_true, decide_eq_true_eq] at hfirst
    have hlow : 0xAC00 ≤ first := hfirst.1.1.1.1
    omega
  · cases h

theorem isUpper_of_pair? {first second c : Char} (h : pair? first second = some c) :
    isUpper c.toNat = false := by
  rw [pair?] at h
  split at h
  · cases h
  split at h
  · rename_i hpair
    obtain rfl := Option.some.inj h
    rw [isUpper_toNat_ofNat]
    exact isUpper_of_hangulPair? hpair
  · obtain ⟨row, hrow, hjoined⟩ := List.exists_of_findSome?_eq_some h
    have hfits := decompositions_fit.1 _ hrow
    split at hjoined
    · rename_i composed a b
      obtain ⟨-, hc⟩ := Option.ite_none_right_eq_some.1 hjoined
      obtain rfl := Option.some.inj hc
      rw [rowFits, Bool.and_eq_true, Bool.not_eq_true'] at hfits
      rw [isUpper_toNat_ofNat]
      exact hfits.1
    · cases hjoined

theorem isUpper_composeOnto {base : Char} {between rest : List Char}
    (hbase : isUpper base.toNat = false) (hbetween : ∀ c ∈ between, isUpper c.toNat = false)
    (hrest : ∀ c ∈ rest, isUpper c.toNat = false) :
    ∀ c ∈ composeOnto base between rest, isUpper c.toNat = false := by
  induction rest generalizing base between with
  | nil =>
    rw [composeOnto]
    simpa using ⟨hbase, hbetween⟩
  | cons d rest ih =>
    obtain ⟨hd, hrest⟩ := List.forall_mem_cons.1 hrest
    rw [composeOnto]
    split
    · rename_i joined hjoined
      obtain ⟨-, hpair⟩ := Option.ite_none_left_eq_some.1 hjoined
      exact ih (isUpper_of_pair? hpair) hbetween hrest
    · split
      · intro c hc
        rcases List.mem_append.1 hc with hc | hc
        · rcases List.mem_cons.1 hc with rfl | hc
          · exact hbase
          · exact hbetween c (List.mem_reverse.1 hc)
        · exact ih hd (List.forall_mem_nil _) hrest c hc
      · exact ih hbase (List.forall_mem_cons.2 ⟨hd, hbetween⟩) hrest

theorem isUpper_compose {text : List Char} (h : ∀ c ∈ text, isUpper c.toNat = false) :
    ∀ c ∈ compose text, isUpper c.toNat = false := by
  induction text with
  | nil => exact List.forall_mem_nil _
  | cons d rest ih =>
    obtain ⟨hd, hrest⟩ := List.forall_mem_cons.1 h
    rw [compose]
    split
    · exact isUpper_composeOnto hd (List.forall_mem_nil _) hrest
    · exact List.forall_mem_cons.2 ⟨hd, ih hrest⟩

theorem isUpper_normalForm {text : List Char} (h : ∀ c ∈ text, Caseless c.toNat) :
    ∀ c ∈ normalForm text, isUpper c.toNat = false := by
  apply isUpper_compose
  intro c hc
  obtain ⟨d, hd, hparts⟩ := List.mem_flatMap.1 (mem_sortMarks.1 hc)
  exact isUpper_of_mem_decompose (h d hd) hparts

/-! ### Texts in ASCII -/

theorem flatMap_decompose_ascii {text : List Char} (h : ∀ c ∈ text, c.toNat < 0x80) :
    text.flatMap decompose = text := by
  induction text with
  | nil => rfl
  | cons c rest ih =>
    obtain ⟨hc, hrest⟩ := List.forall_mem_cons.1 h
    rw [List.flatMap_cons, ih hrest, decompose, if_pos (by omega)]
    rfl

theorem combiningClass_ascii {c : Char} (h : c.toNat < 0x80) : combiningClass c = 0 := by
  rw [combiningClass, if_pos (by omega)]

theorem sortMarks_ascii {text : List Char} (h : ∀ c ∈ text, c.toNat < 0x80) :
    sortMarks text = text := by
  induction text with
  | nil => rfl
  | cons c rest ih =>
    obtain ⟨hc, hrest⟩ := List.forall_mem_cons.1 h
    have hstep : sortMarks (c :: rest) = insertMark c (sortMarks rest) := rfl
    rw [hstep, ih hrest]
    cases rest with
    | nil => rfl
    | cons d rest => simp [insertMark, combiningClass_ascii hc]

theorem composeOnto_ascii (base : Char) {text : List Char} (h : ∀ c ∈ text, c.toNat < 0x80) :
    composeOnto base [] text = base :: text := by
  induction text generalizing base with
  | nil => rfl
  | cons c rest ih =>
    obtain ⟨hc, hrest⟩ := List.forall_mem_cons.1 h
    have hpair : pair? base c = none := if_pos (by omega)
    simp [composeOnto, isBlocked, hpair, combiningClass_ascii hc, ih c hrest]

theorem normalForm_ascii {text : List Char} (h : ∀ c ∈ text, c.toNat < 0x80) :
    normalForm text = text := by
  rw [normalForm, decomposed, flatMap_decompose_ascii h, sortMarks_ascii h]
  cases text with
  | nil => rfl
  | cons c rest =>
    obtain ⟨hc, hrest⟩ := List.forall_mem_cons.1 h
    rw [compose, if_pos (combiningClass_ascii hc), composeOnto_ascii c hrest]

end SeriesQuery.Unicode
