import SeriesQuery.Proofs.Judgements
import SeriesQuery.Proofs.Text.Utf8
import SeriesQuery.Proofs.Unicode.Upper
import SeriesQuery.Url.Domain

/-!
# The case of normalised names

Mapping takes ASCII to lower case and puts nothing in the place of another character that is an
upper-case letter of ASCII or composed of one. So a name in normal form has no upper case in ASCII,
and a name of ASCII in lower case is in normal form.
-/

namespace SeriesQuery.Domain

open Unicode

/-! ### The tables -/

def overlapsUpper (low high : Nat) : Bool :=
  ((0x41, 0x5A) :: upperRanges).any fun range => Nat.ble low range.2 && Nat.ble range.1 high

def shiftFits : List Nat → Bool
  | [first, last, _, target] => !overlapsUpper target (target + (last - first))
  | _ => false

def replacementFits (row : List Nat) : Bool :=
  row.tail.all fun n => !isUpper n && !inUpperRanges n

theorem shiftFits_shiftedRanges : shiftedRanges.all shiftFits := by
  unfold shiftedRanges rows
  rw [String.toList_ofList]
  decide +kernel

set_option maxRecDepth 100000 in
theorem replacementFits_replacements : replacements.all replacementFits := by
  unfold replacements rows
  rw [String.toList_ofList]
  decide +kernel

theorem caseless_of_not_overlapsUpper {low high n : Nat} (h : overlapsUpper low high = false)
    (hlow : low ≤ n) (hhigh : n ≤ high) : Caseless n := by
  have hapart : ∀ range ∈ (0x41, 0x5A) :: upperRanges, isBetween range.1 range.2 n = false := by
    intro range hrange
    refine Bool.eq_false_iff.2 fun hbetween => ?_
    obtain ⟨hfirst, hlast⟩ := isBetween_iff.1 hbetween
    have hfalse := List.any_eq_false.1 h range hrange
    simp only [Bool.and_eq_true, Nat.ble_eq] at hfalse
    omega
  obtain ⟨hupper, hranges⟩ := List.forall_mem_cons.1 hapart
  refine caseless_of_not_inUpperRanges hupper ?_
  rw [inUpperRanges, List.any_eq_false.2 (by simpa using hranges), Bool.and_false]

theorem caseless_of_shifted? {n m : Nat} (h : shifted? n = some m) : Caseless m := by
  obtain ⟨row, hrow, hshift⟩ := List.exists_of_findSome?_eq_some h
  have hfits := List.all_eq_true.1 shiftFits_shiftedRanges row hrow
  split at hshift
  · obtain ⟨hbounds, hm⟩ := Option.ite_none_right_eq_some.1 hshift
    simp only [Bool.and_eq_true, decide_eq_true_eq] at hbounds
    obtain rfl := Option.some.inj hm
    rw [shiftFits, Bool.not_eq_true'] at hfits
    exact caseless_of_not_overlapsUpper hfits (by omega) (by omega)
  · cases hshift

theorem caseless_of_replacement? {n m : Nat} {text : List Nat} (h : replacement? n = some text)
    (hm : m ∈ text) : Caseless m := by
  rw [replacement?] at h
  obtain ⟨row, hfind, rfl⟩ := Option.map_eq_some_iff.1 h
  have hrow := List.mem_of_find?_eq_some hfind
  have hfits := List.all_eq_true.1 replacementFits_replacements row hrow
  have hcode := List.all_eq_true.1 hfits m hm
  simp only [Bool.and_eq_true, Bool.not_eq_true'] at hcode
  exact caseless_of_not_inUpperRanges hcode.1 hcode.2

/-! ### Characters -/

theorem toLower_of_isUpper {c : Char} (h : isUpper c.toNat = false) : c.toLower = c := by
  refine dif_neg ?_
  rintro ⟨hlow, hhigh⟩
  have hbetween : isUpper c.toNat := isBetween_iff.2 ⟨hlow, hhigh⟩
  rw [hbetween] at h
  cases h

theorem caseless_toLower {c : Char} (h : c.toNat < 0x80) : Caseless c.toLower.toNat := by
  have hc : isUpper c.toLower.toNat = false ∧ c.toLower.toNat < 0x80 :=
    Utf8.forall_ascii h (by decide +kernel)
  exact caseless_of_lt hc.1 (by omega)

theorem toLower_toLower (c : Char) : c.toLower.toLower = c.toLower := by
  cases hupper : isUpper c.toNat with
  | false => rw [toLower_of_isUpper hupper, toLower_of_isUpper hupper]
  | true =>
    have hbounds := isBetween_iff.1 hupper
    exact toLower_of_isUpper (caseless_toLower (by omega)).1

theorem map_toLower_eq_self {text : List Char} (h : ∀ c ∈ text, c.toLower = c) :
    text.map Char.toLower = text :=
  (List.map_congr_left h).trans (List.map_id text)

/-- What stands for a character that a decomposition leaves. -/
theorem caseless_of_mapChar? {c : Char} {text : List Char} (h : mapChar? c = some text)
    (hc : isUpper c.toNat = false → Caseless c.toNat) : ∀ d ∈ text, Caseless d.toNat := by
  rw [mapChar?] at h
  split at h
  · rename_i hascii
    obtain rfl := Option.some.inj h
    simpa using caseless_toLower hascii
  rename_i hhigh
  split at h
  · cases h
  split at h
  · obtain rfl := Option.some.inj h
    exact List.forall_mem_nil _
  split at h
  · rename_i n _ hshift
    obtain rfl := Option.some.inj h
    simpa using caseless_toNat_ofNat (caseless_of_shifted? hshift)
  · rename_i codes _ hreplaced
    obtain rfl := Option.some.inj h
    intro d hd
    obtain ⟨n, hn, rfl⟩ := List.mem_map.1 hd
    exact caseless_toNat_ofNat (caseless_of_replacement? hreplaced hn)
  · obtain rfl := Option.some.inj h
    simpa using hc (isUpper_eq_false (by omega))

/-! ### Names -/

theorem normalise?_eq_some_iff {text name : List Char} :
    normalise? text = some name ↔
      ∃ mapped, List.Forall₂ (fun c piece => mapChar? c = some piece) (text.flatMap decompose)
        mapped ∧ normalForm mapped.flatten = name := by
  simp only [normalise?, Option.map_eq_some_iff, mapM_eq_some_iff]

/-- A name in normal form is in lower case. -/
theorem toLower_of_normalise? {text name : List Char} (h : normalise? text = some name) :
    ∀ c ∈ name, c.toLower = c := by
  obtain ⟨mapped, hmapped, rfl⟩ := normalise?_eq_some_iff.1 h
  intro c hc
  apply toLower_of_isUpper
  refine isUpper_normalForm (fun d hd => ?_) c hc
  obtain ⟨piece, hpiece, hd⟩ := List.mem_flatten.1 hd
  obtain ⟨e, he, hmap⟩ := exists_left_of_forall₂ hmapped hpiece
  obtain ⟨f, -, hparts⟩ := List.mem_flatMap.1 he
  exact caseless_of_mapChar? hmap (caseless_of_mem_decompose hparts) d hd

theorem normalise?_ascii {text : List Char} (h : ∀ c ∈ text, c.toNat < 0x80)
    (hlower : ∀ c ∈ text, c.toLower = c) : normalise? text = some text := by
  refine normalise?_eq_some_iff.2 ⟨text.map fun c => [c], ?_, ?_⟩
  · rw [flatMap_decompose_ascii h, List.forall₂_map_right_iff, List.forall₂_same]
    intro c hc
    rw [mapChar?, if_pos (h c hc), hlower c hc]
  · rw [← List.flatMap_def, List.flatMap_singleton', normalForm_ascii h]

end SeriesQuery.Domain
