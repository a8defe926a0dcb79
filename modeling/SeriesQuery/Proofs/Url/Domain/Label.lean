import SeriesQuery.Proofs.Text.Split
import SeriesQuery.Proofs.Url.Domain.Mapping

/-!
# Domain names read back

A label is written in lower-case ASCII without a dot, in Punycode or as it is shown, and it is read
as the same label. So is a name of labels, with one exception: more digits of Punycode can be
written than are read.
-/

namespace SeriesQuery

/-! ### Punycode -/

namespace Punycode

/-- A character of a written label. -/
def IsWritten (c : Char) : Prop := c.toNat < 0x80 ∧ c.toLower = c ∧ c ≠ '.'

instance (c : Char) : Decidable (IsWritten c) :=
  inferInstanceAs (Decidable (c.toNat < 0x80 ∧ c.toLower = c ∧ c ≠ '.'))

theorem isWritten_digitOf {n : Nat} (h : n < 36) : IsWritten (digitOf n) := by
  have hall : ∀ n < 36, IsWritten (digitOf n) := by decide
  exact hall n h

theorem threshold_le (bias place : Nat) : threshold bias place ≤ 26 := by
  unfold threshold
  omega

theorem isWritten_digits (bias place n : Nat) : ∀ c ∈ digits bias place n, IsWritten c := by
  have hlow := one_le_threshold bias place
  have hhigh := threshold_le bias place
  induction n using Nat.strongRecOn generalizing place with
  | ind n ih =>
    rw [digits]
    split
    · rename_i hlast
      simpa using isWritten_digitOf (by omega)
    · rename_i hmore
      have hrange : 0 < 36 - threshold bias place := by omega
      have hmod := Nat.mod_lt (n - threshold bias place) hrange
      refine List.forall_mem_cons.2 ⟨isWritten_digitOf (by omega), ?_⟩
      refine ih _ ?_ _ (one_le_threshold bias _) (threshold_le bias _)
      have hdiv := Nat.div_le_self (n - threshold bias place) (36 - threshold bias place)
      omega

theorem isWritten_pass (basics n : Nat) {p : Progress} (h : ∀ c ∈ p.written, IsWritten c)
    (c : Char) : ∀ d ∈ (pass basics n p c).written, IsWritten d := by
  rw [pass]
  split
  · exact h
  split
  · exact List.forall_mem_append.2 ⟨h, isWritten_digits p.bias 36 p.distance⟩
  · exact h

theorem isWritten_foldl_pass (basics n : Nat) (label : List Char) {p : Progress}
    (h : ∀ c ∈ p.written, IsWritten c) :
    ∀ d ∈ (label.foldl (pass basics n) p).written, IsWritten d := by
  induction label generalizing p with
  | nil => exact h
  | cons c rest ih => exact ih (isWritten_pass basics n h c)

theorem isWritten_writeFrom (label : List Char) (basics last : Nat) {p : Progress}
    (h : ∀ c ∈ p.written, IsWritten c) (codes : List Nat) :
    ∀ d ∈ (writeFrom label basics last p codes).written, IsWritten d := by
  induction codes generalizing last p with
  | nil => exact h
  | cons n rest ih => exact ih (n + 1) (isWritten_foldl_pass basics n label h)

theorem isWritten_encode {label : List Char} (h : ∀ c ∈ label, c.toLower = c ∧ c ≠ '.') :
    ∀ c ∈ encode label, IsWritten c := by
  intro c hc
  rw [encode] at hc
  rcases List.mem_append.1 hc with hc | hc
  · rcases List.mem_append.1 hc with hc | hc
    · obtain ⟨hmem, hbasic⟩ := List.mem_filter.1 hc
      exact ⟨by simpa [isBasic] using hbasic, h c hmem⟩
    · split at hc
      · cases hc
      · obtain rfl := List.mem_singleton.1 hc
        decide
  · exact isWritten_writeFrom label _ _ (List.forall_mem_nil _) _ c hc

end Punycode

namespace Domain

open Punycode

/-! ### Labels -/

theorem eq_of_ofPunycode? {label : List Char} {l : Label} (h : ofPunycode? label = some l) :
    label.all isBasic ∧ l.ascii = label := by
  rw [ofPunycode?] at h
  split at h
  · cases h
  · rename_i hwritten
    simp only [Bool.or_eq_true, Bool.not_eq_true', not_or, Bool.not_eq_false] at hwritten
    obtain ⟨shown, -, hl⟩ := Option.bind_eq_some_iff.1 h
    split at hl
    · cases hl
    · obtain rfl := Option.some.inj hl
      exact ⟨hwritten.1, rfl⟩

theorem ofPunycode?_of_decode? {label shown : List Char} (hbasic : label.all isBasic)
    (hlimit : label.length ≤ punycodeMark.length + writtenLimit)
    (hread : decode? (label.drop punycodeMark.length) = some shown)
    (hshown : shown.all isBasic = false) (hstable : isStable shown) :
    ofPunycode? label = some { shown, ascii := label } := by
  have hdigits : ¬writtenLimit < (label.drop punycodeMark.length).length := by
    rw [List.length_drop]
    omega
  simp only [ofPunycode?, hbasic, hdigits, hread, hshown, hstable, Bool.not_true, decide_false,
    Bool.or_self, Bool.false_eq_true, if_false, Option.bind_eq_bind, Option.bind_some,
    Option.pure_def]

/-- A label in normal form is written as it is, or in Punycode that reads back. -/
theorem ofShown?_eq_some {shown : List Char} {l : Label} (h : ofShown? shown = some l) :
    isStable shown ∧ l.shown = shown ∧
      (shown.all isBasic ∧ l.ascii = shown ∨
        shown.all isBasic = false ∧ decode? (encode shown) = some shown ∧
          l.ascii = punycodeMark ++ encode shown) := by
  rw [ofShown?] at h
  split at h
  · cases h
  rename_i hstable
  split at h
  · rename_i hbasic
    obtain rfl := Option.some.inj h
    exact ⟨by simpa using hstable, rfl, .inl ⟨hbasic, rfl⟩⟩
  · rename_i hbasic
    obtain ⟨hread, hl⟩ := Option.ite_none_right_eq_some.1 h
    obtain rfl := Option.some.inj hl
    simp only [Bool.and_eq_true, beq_iff_eq] at hread
    exact ⟨by simpa using hstable, rfl, .inr ⟨by simpa using hbasic, hread.2, rfl⟩⟩

/-- Punycode that is not longer than what is read. -/
def FitsLimit (label : List Char) : Prop :=
  isPunycode label → label.length ≤ punycodeMark.length + writtenLimit

instance (label : List Char) : Decidable (FitsLimit label) :=
  inferInstanceAs
    (Decidable (isPunycode label → label.length ≤ punycodeMark.length + writtenLimit))

theorem isPunycode_append (digits : List Char) : isPunycode (punycodeMark ++ digits) :=
  List.isPrefixOf_iff_prefix.2 (List.prefix_append punycodeMark digits)

theorem isBasic_of_isWritten {label : List Char} (h : ∀ c ∈ label, IsWritten c) :
    label.all isBasic := by
  apply List.all_eq_true.2
  intro c hc
  exact decide_eq_true (h c hc).1

theorem isWritten_punycodeMark : ∀ c ∈ punycodeMark, IsWritten c := by
  simp only [punycodeMark, List.forall_mem_cons]
  exact ⟨by decide, by decide, by decide, by decide, List.forall_mem_nil _⟩

/-- Punycode that was given is kept, and what was shown is written as it is or in Punycode. -/
theorem isWritten_ascii {label : List Char} {l : Label} (h : label? label = some l)
    (hlabel : ∀ c ∈ label, c.toLower = c ∧ c ≠ '.') : ∀ c ∈ l.ascii, IsWritten c := by
  have hplain : label.all isBasic → ∀ c ∈ label, IsWritten c := by
    intro hbasic c hc
    have hascii := List.all_eq_true.1 hbasic c hc
    exact ⟨by simpa [isBasic] using hascii, hlabel c hc⟩
  rw [label?] at h
  split at h
  · obtain ⟨hbasic, hl⟩ := eq_of_ofPunycode? h
    rw [hl]
    exact hplain hbasic
  · obtain ⟨-, -, hl⟩ := ofShown?_eq_some h
    rcases hl with ⟨hbasic, hl⟩ | ⟨-, -, hl⟩
    · rw [hl]
      exact hplain hbasic
    · rw [hl]
      exact List.forall_mem_append.2 ⟨isWritten_punycodeMark, isWritten_encode hlabel⟩

theorem label?_ascii {label : List Char} {l : Label} (h : label? label = some l)
    (hlabel : ∀ c ∈ label, c.toLower = c ∧ c ≠ '.') (hlimit : FitsLimit l.ascii) :
    label? l.ascii = some l := by
  have hwritten := isWritten_ascii h hlabel
  have hread := h
  rw [label?] at hread
  split at hread
  · obtain ⟨-, hl⟩ := eq_of_ofPunycode? hread
    rw [hl, h]
  · obtain ⟨hstable, hshown, hl⟩ := ofShown?_eq_some hread
    rcases hl with ⟨-, hl⟩ | ⟨hbasic, hdecode, hl⟩
    · rw [hl, h]
    · have hmark : isPunycode l.ascii := by
        rw [hl]
        exact isPunycode_append (encode label)
      have hdigits : decode? (l.ascii.drop punycodeMark.length) = some l.shown := by
        rw [hl, List.drop_left, hdecode, hshown]
      rw [label?, if_pos hmark, ofPunycode?_of_decode? (isBasic_of_isWritten hwritten)
        (hlimit hmark) hdigits (by rwa [hshown]) (by rwa [hshown])]

/-! ### Names -/

theorem labels?_eq_some_iff {name : List Char} {labels : List Label} :
    labels? name = some labels ↔
      ∃ normal, normalise? name = some normal ∧
        List.Forall₂ (fun label l => label? label = some l) (splitAll (· == '.') normal) labels ∧
        ((labels.any fun label => label.shown.any fun c => isRightToLeft (Unicode.direction c)) &&
          !labels.all fun label => directionsFit label.shown) = false := by
  simp only [labels?, Option.bind_eq_bind, Option.bind_eq_some_iff, mapM_eq_some_iff]
  constructor
  · rintro ⟨normal, hnormal, found, hfound, hdirected⟩
    split at hdirected
    · cases hdirected
    · rename_i hfits
      obtain rfl := Option.some.inj hdirected
      exact ⟨normal, hnormal, hfound, Bool.eq_false_iff.2 hfits⟩
  · rintro ⟨normal, hnormal, hlabels, hfits⟩
    refine ⟨normal, hnormal, labels, hlabels, ?_⟩
    rw [if_neg (Bool.eq_false_iff.1 hfits)]
    rfl

theorem isWritten_of_labels? {name : List Char} {labels : List Label}
    (h : labels? name = some labels) : ∀ l ∈ labels, ∀ c ∈ l.ascii, IsWritten c := by
  obtain ⟨normal, hnormal, hlabels, -⟩ := labels?_eq_some_iff.1 h
  intro l hl
  obtain ⟨label, hlabel, hread⟩ := exists_left_of_forall₂ hlabels hl
  refine isWritten_ascii hread fun c hc => ?_
  obtain ⟨hdot, hmem⟩ := of_mem_splitAll hlabel hc
  exact ⟨toLower_of_normalise? hnormal c hmem, by simpa using hdot⟩

theorem splitAll_labels {name : List Char} {labels : List Label} (h : labels? name = some labels) :
    splitAll (· == '.') (['.'].intercalate (labels.map Label.ascii)) = labels.map Label.ascii := by
  obtain ⟨normal, -, hlabels, -⟩ := labels?_eq_some_iff.1 h
  apply splitAll_intercalate rfl
  · intro hnil
    rw [List.map_eq_nil_iff.1 hnil, List.forall₂_nil_right_iff] at hlabels
    exact splitAll_ne_nil normal hlabels
  · intro piece hpiece c hc
    obtain ⟨l, hl, rfl⟩ := List.mem_map.1 hpiece
    simpa using (isWritten_of_labels? h l hl c hc).2.2

theorem ascii_of_labels? {name : List Char} {labels : List Label} (h : labels? name = some labels) :
    ∀ c ∈ ['.'].intercalate (labels.map Label.ascii), c.toNat < 0x80 ∧ c.toLower = c := by
  refine @forall_mem_intercalate (fun c => c.toNat < 0x80 ∧ c.toLower = c) '.' (by decide) _ ?_
  intro piece hpiece c hc
  obtain ⟨l, hl, rfl⟩ := List.mem_map.1 hpiece
  have hwritten := isWritten_of_labels? h l hl c hc
  exact ⟨hwritten.1, hwritten.2.1⟩

/-- The labels of a name are read from the text that they are written as. -/
theorem labels?_intercalate {name : List Char} {labels : List Label}
    (h : labels? name = some labels) (hlimit : ∀ l ∈ labels, FitsLimit l.ascii) :
    labels? (['.'].intercalate (labels.map Label.ascii)) = some labels := by
  have hascii := ascii_of_labels? h
  have hnormal := normalise?_ascii (fun c hc => (hascii c hc).1) fun c hc => (hascii c hc).2
  obtain ⟨normal, hname, hlabels, hfits⟩ := labels?_eq_some_iff.1 h
  refine labels?_eq_some_iff.2 ⟨_, hnormal, ?_, hfits⟩
  rw [splitAll_labels h, List.forall₂_map_left_iff, List.forall₂_same]
  intro l hl
  obtain ⟨label, hlabel, hread⟩ := exists_left_of_forall₂ hlabels hl
  refine label?_ascii hread (fun c hc => ?_) (hlimit l hl)
  obtain ⟨hdot, hmem⟩ := of_mem_splitAll hlabel hc
  exact ⟨toLower_of_normalise? hname c hmem, by simpa using hdot⟩

theorem toAscii?_eq_some_iff {name ascii : List Char} :
    toAscii? name = some ascii ↔
      (isPlain (name.map Char.toLower) ∧ name.map Char.toLower = ascii ∨
        isPlain (name.map Char.toLower) = false ∧
          ∃ labels, labels? name = some labels ∧
            ['.'].intercalate (labels.map Label.ascii) = ascii) ∧
        ∀ c ∈ ascii, isForbidden c = false := by
  have hallowed : (!ascii.any isForbidden) = true ↔ ∀ c ∈ ascii, isForbidden c = false := by
    simp
  rw [toAscii?, Option.filter_eq_some_iff, hallowed]
  refine and_congr_left fun _ => ?_
  cases hplain : isPlain (name.map Char.toLower)
  · simp
  · simp

/-- A name as it is written is written again as itself. -/
theorem toAscii?_ascii {name ascii : List Char} (h : toAscii? name = some ascii)
    (hlimit : ∀ label ∈ splitAll (· == '.') ascii, FitsLimit label) :
    toAscii? ascii = some ascii := by
  obtain ⟨hcases, hallowed⟩ := toAscii?_eq_some_iff.1 h
  refine toAscii?_eq_some_iff.2 ⟨?_, hallowed⟩
  rcases hcases with ⟨hplain, rfl⟩ | ⟨-, labels, hlabels, rfl⟩
  · have hlower : (name.map Char.toLower).map Char.toLower = name.map Char.toLower := by
      rw [List.map_map]
      exact List.map_congr_left fun c _ => toLower_toLower c
    exact .inl ⟨by rwa [hlower], hlower⟩
  · have hlower := map_toLower_eq_self fun c hc => (ascii_of_labels? hlabels c hc).2
    rw [hlower]
    rw [splitAll_labels hlabels] at hlimit
    have hread := labels?_intercalate hlabels fun l hl => hlimit _ (List.mem_map_of_mem hl)
    cases hplain : isPlain (['.'].intercalate (labels.map Label.ascii)) with
    | true => exact .inl ⟨rfl, rfl⟩
    | false => exact .inr ⟨rfl, labels, hread, rfl⟩

end Domain

end SeriesQuery
