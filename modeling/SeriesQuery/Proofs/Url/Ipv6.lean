import SeriesQuery.Proofs.Text.Split
import SeriesQuery.Url.Ipv6

/-!
# IPv6 addresses read back

A group is written with at most four digits, which denote it. What is left out of a text is a run of
zero groups, and the two colons there are the only ones in a row, so the text is cut where it was
put together and the run is filled up to eight groups.
-/

namespace SeriesQuery.Ipv6

/-! ### Groups -/

theorem exists_of_mem_toDigits (n : Nat) {c : Char} (h : c ∈ Nat.toDigits 16 n) :
    ∃ d < 16, c = d.digitChar := by
  induction n using Nat.strongRecOn with
  | ind n ih =>
    rcases Nat.lt_or_ge n 16 with hlt | hge
    · rw [Nat.toDigits_of_lt_base hlt, List.mem_singleton] at h
      exact ⟨n, hlt, h⟩
    · rw [Nat.toDigits_of_base_le (by decide) hge] at h
      rcases List.mem_append.1 h with hfront | hlast
      · exact ih (n / 16) (by omega) hfront
      · exact ⟨n % 16, by omega, List.mem_singleton.1 hlast⟩

theorem exists_values_of_toDigits (n : Nat) :
    ∃ values, (Nat.toDigits 16 n).mapM hexValue? = some values ∧
      values.foldl (fun n d => n * 16 + d) 0 = n := by
  have hvalue : ∀ d < 16, hexValue? d.digitChar = some d := by decide
  induction n using Nat.strongRecOn with
  | ind n ih =>
    rcases Nat.lt_or_ge n 16 with hlt | hge
    · refine ⟨[n], ?_, by simp⟩
      simp [Nat.toDigits_of_lt_base hlt, hvalue n hlt]
    · obtain ⟨values, hvalues, hfold⟩ := ih (n / 16) (by omega)
      refine ⟨values ++ [n % 16], ?_, ?_⟩
      · simp [Nat.toDigits_of_base_le (by decide) hge, hvalues, hvalue (n % 16) (by omega)]
      · rw [List.foldl_append, hfold, List.foldl_cons, List.foldl_nil]
        omega

theorem groupText_ne_nil (group : UInt16) : groupText group ≠ [] := Nat.toDigits_ne_nil

theorem hexGroup?_groupText (group : UInt16) : hexGroup? (groupText group) = some group := by
  obtain ⟨values, hvalues, hfold⟩ := exists_values_of_toDigits group.toNat
  have hgroup : group.toNat < 16 ^ 4 := group.toNat_lt
  have hlength : (groupText group).length ≤ 4 :=
    (Nat.length_toDigits_le_iff (by decide) (by decide)).2 hgroup
  have hne : (groupText group).isEmpty = false := by simpa using groupText_ne_nil group
  have hread : (groupText group).mapM hexValue? = some values := hvalues
  have hfits : ¬4 < (groupText group).length := by omega
  simp only [hexGroup?, hne, hfits, hread, decide_false, Bool.or_self, Bool.false_eq_true,
    if_false, Option.map_some, hfold, UInt16.ofNat_toNat]

/-- A character of a group: a hexadecimal digit in lower case. -/
def IsGroupChar (c : Char) : Prop := ∃ d < 16, c = Nat.digitChar d

theorem isGroupChar_of_mem {group : UInt16} {c : Char} (h : c ∈ groupText group) :
    IsGroupChar c :=
  exists_of_mem_toDigits group.toNat h

theorem IsGroupChar.ne {c mark : Char} (h : IsGroupChar c)
    (hmark : ∀ d < 16, Nat.digitChar d ≠ mark) : c ≠ mark := by
  obtain ⟨d, hd, rfl⟩ := h
  exact hmark d hd

theorem IsGroupChar.ne_colon {c : Char} (h : IsGroupChar c) : c ≠ ':' := h.ne (by decide)

theorem not_contains_dot (group : UInt16) : (groupText group).contains '.' = false := by
  rw [List.contains_eq_any_beq, List.any_eq_false]
  intro c hc
  have hne : c ≠ '.' := (isGroupChar_of_mem hc).ne (by decide)
  simpa using hne.symm

theorem groupsOf?_map (decimals : Bool) (groups : List UInt16) :
    groupsOf? decimals (groups.map groupText) = some groups := by
  induction groups with
  | nil => rfl
  | cons group rest ih =>
    cases rest with
    | nil =>
      rw [List.map_singleton, groupsOf?, not_contains_dot, hexGroup?_groupText]
      simp
    | cons next rest =>
      simp only [List.map_cons] at ih ⊢
      simp [groupsOf?, hexGroup?_groupText, ih]

theorem splitAll_groupsText {groups : List UInt16} (hne : groups ≠ []) :
    splitAll (· == ':') (groupsText groups) = groups.map groupText := by
  apply splitAll_intercalate rfl (by simpa using hne)
  intro piece hpiece c hc
  obtain ⟨group, -, rfl⟩ := List.mem_map.1 hpiece
  simpa using (isGroupChar_of_mem hc).ne_colon

theorem groupsText_cons_cons (group next : UInt16) (rest : List UInt16) :
    groupsText (group :: next :: rest) =
      groupText group ++ ':' :: groupsText (next :: rest) := by
  simp [groupsText]

theorem groupsText_singleton (group : UInt16) : groupsText [group] = groupText group := by
  simp [groupsText]

/-- The first group of a text is never empty. -/
theorem exists_groupsText_cons (group : UInt16) (rest : List UInt16) :
    ∃ c text, groupsText (group :: rest) = c :: text ∧ IsGroupChar c := by
  obtain ⟨c, digits, hdigits⟩ := List.exists_cons_of_ne_nil (groupText_ne_nil group)
  have hc : IsGroupChar c := isGroupChar_of_mem (by rw [hdigits]; exact List.mem_cons_self)
  cases rest with
  | nil => exact ⟨c, digits, by rw [groupsText_singleton, hdigits], hc⟩
  | cons next rest => exact ⟨c, _, by rw [groupsText_cons_cons, hdigits, List.cons_append], hc⟩

theorem side?_groupsText (decimals : Bool) (groups : List UInt16) :
    side? decimals (groupsText groups) = some groups := by
  cases groups with
  | nil => rfl
  | cons group rest =>
    obtain ⟨c, text, htext, -⟩ := exists_groupsText_cons group rest
    have hne : (groupsText (group :: rest)).isEmpty = false := by rw [htext]; rfl
    rw [side?, if_neg (by simp [hne]), splitAll_groupsText (by simp), groupsOf?_map]

/-! ### The gap -/

theorem splitGap?_cons_of_ne {c : Char} (h : c ≠ ':') (rest : List Char) :
    splitGap? (c :: rest) = (splitGap? rest).map fun sides => (c :: sides.1, sides.2) := by
  rw [splitGap?]
  intro r hc
  exact absurd hc h

theorem splitGap?_colon_of_ne {c : Char} (h : c ≠ ':') (rest : List Char) :
    splitGap? (':' :: c :: rest) =
      (splitGap? (c :: rest)).map fun sides => (':' :: sides.1, sides.2) := by
  rw [splitGap?]
  intro r _ hcons
  exact absurd (List.cons.inj hcons).1 h

theorem splitGap?_append {piece : List Char} (h : ∀ c ∈ piece, c ≠ ':') (rest : List Char) :
    splitGap? (piece ++ rest) = (splitGap? rest).map fun sides => (piece ++ sides.1, sides.2) := by
  induction piece with
  | nil => simp
  | cons c piece ih =>
    obtain ⟨hc, hpiece⟩ := List.forall_mem_cons.1 h
    rw [List.cons_append, splitGap?_cons_of_ne hc, ih hpiece, Option.map_map]
    rfl

/-- A gap is not within groups, only behind them. -/
theorem splitGap?_groupsText (groups : List UInt16) (rest : List Char) :
    splitGap? (groupsText groups ++ rest) =
      (splitGap? rest).map fun sides => (groupsText groups ++ sides.1, sides.2) := by
  induction groups with
  | nil => simp [groupsText]
  | cons group groups ih =>
    have hgroup : ∀ c ∈ groupText group, c ≠ ':' := fun c hc => (isGroupChar_of_mem hc).ne_colon
    cases groups with
    | nil => rw [groupsText_singleton, splitGap?_append hgroup]
    | cons next groups =>
      obtain ⟨c, text, htext, hc⟩ := exists_groupsText_cons next groups
      rw [groupsText_cons_cons, List.append_assoc, splitGap?_append hgroup]
      rw [htext] at ih ⊢
      rw [List.cons_append, List.cons_append, splitGap?_colon_of_ne hc.ne_colon]
      rw [List.cons_append] at ih
      rw [ih, Option.map_map, Option.map_map]
      simp [Function.comp_def]

/-! ### The longest run -/

theorem append_zeros (groups : List UInt16) :
    List.replicate (zeros groups) 0 ++ groups.drop (zeros groups) = groups := by
  have hzero : groups.takeWhile (· == 0) = List.replicate (zeros groups) 0 := by
    apply List.eq_replicate_iff.2 ⟨rfl, ?_⟩
    intro group hgroup
    simpa using List.all_eq_true.1 List.all_takeWhile group hgroup
  have hdrop : groups.drop (zeros groups) = groups.dropWhile (· == 0) := by
    have hcut : groups.takeWhile (· == 0) ++ groups.dropWhile (· == 0) = groups :=
      List.takeWhile_append_dropWhile
    calc groups.drop (zeros groups)
        = (groups.takeWhile (· == 0) ++ groups.dropWhile (· == 0)).drop (zeros groups) := by
          rw [hcut]
      _ = groups.dropWhile (· == 0) := List.drop_left
  rw [← hzero, hdrop, List.takeWhile_append_dropWhile]

theorem append_longestRun (groups : List UInt16) :
    groups.take (longestRun groups).1 ++ List.replicate (longestRun groups).2 0 ++
      groups.drop ((longestRun groups).1 + (longestRun groups).2) = groups := by
  induction groups with
  | nil => rfl
  | cons group rest ih =>
    rw [longestRun]
    split
    · simpa using append_zeros (group :: rest)
    · rw [List.take_succ_cons, Nat.add_right_comm, List.drop_succ_cons, List.cons_append,
        List.cons_append, ih]

/-! ### Addresses -/

theorem ofGroups?_groups (a : Ipv6) : ofGroups? a.groups = some a := dif_pos a.length_eq

theorem parse?_text (a : Ipv6) : parse? a.text = some a := by
  have hrun := append_longestRun a.groups
  have hlength := congrArg List.length hrun
  rw [List.length_append, List.length_append, List.length_replicate, a.length_eq] at hlength
  simp only [text]
  split
  · have hgap : splitGap? (groupsText a.groups) = none := by
      have happend := splitGap?_groupsText a.groups []
      rwa [List.append_nil] at happend
    simp [parse?, hgap, side?_groupsText, ofGroups?_groups]
  · rename_i hlong
    have hgap := splitGap?_groupsText (a.groups.take (longestRun a.groups).1)
      (':' :: ':' :: groupsText (a.groups.drop ((longestRun a.groups).1 + (longestRun a.groups).2)))
    rw [splitGap?, Option.map_some, List.append_nil] at hgap
    simp only [parse?, hgap, side?_groupsText, Option.bind_eq_bind, Option.bind_some]
    rw [if_pos (by omega)]
    have hfill : 8 - ((a.groups.take (longestRun a.groups).1).length +
        (a.groups.drop ((longestRun a.groups).1 + (longestRun a.groups).2)).length) =
        (longestRun a.groups).2 := by omega
    rw [hfill, hrun, ofGroups?_groups]

theorem isGroupChar_of_mem_groupsText (groups : List UInt16) :
    ∀ c ∈ groupsText groups, IsGroupChar c ∨ c = ':' := by
  apply @forall_mem_intercalate (fun c => IsGroupChar c ∨ c = ':') ':' (.inr rfl)
  intro piece hpiece c hc
  obtain ⟨group, -, rfl⟩ := List.mem_map.1 hpiece
  exact .inl (isGroupChar_of_mem hc)

theorem isGroupChar_of_mem_text {a : Ipv6} {c : Char} (h : c ∈ a.text) :
    IsGroupChar c ∨ c = ':' := by
  simp only [text] at h
  split at h
  · exact isGroupChar_of_mem_groupsText _ c h
  · simp only [List.mem_append, List.mem_cons] at h
    rcases h with h | rfl | rfl | h
    · exact isGroupChar_of_mem_groupsText _ c h
    · exact .inr rfl
    · exact .inr rfl
    · exact isGroupChar_of_mem_groupsText _ c h

end SeriesQuery.Ipv6
