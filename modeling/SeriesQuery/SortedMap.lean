/-!
# Sorted maps

A map with its entries in strictly ascending order of their keys. What an insertion does is said
through the look-up (`get?_insert`). Because the order is strict, two maps with the same look-ups
are the same list of entries (`ext_get?`), so the order of insertions of different keys leaves no
trace.

Names are compared by code points and byte strings byte by byte.
-/

namespace SeriesQuery

namespace SortedMap

section Entries

variable {κ α : Type} [DecidableEq κ]

theorem lookup_entry (key : κ) (entry : κ × α) (rest : List (κ × α)) :
    (entry :: rest).lookup key = if key = entry.1 then some entry.2 else rest.lookup key := by
  by_cases h : key = entry.1
  · rw [if_pos h, List.lookup_cons, beq_iff_eq.2 h]
  · rw [if_neg h, List.lookup_cons, beq_eq_false_iff_ne.2 h]

variable [LT κ]

def Ascending (entries : List (κ × α)) : Prop :=
  entries.Pairwise fun a b => a.1 < b.1

/-- A key that comes before all entries is not among them. -/
theorem lookup_eq_none_of_lt [Std.Irrefl (· < · : κ → κ → Prop)] {key : κ}
    {entries : List (κ × α)} (h : ∀ entry ∈ entries, key < entry.1) :
    entries.lookup key = none := by
  rw [List.lookup_eq_none_iff]
  intro entry hentry
  have hlt := h entry hentry
  simpa using fun heq : key = entry.1 => Std.lt_irrefl (heq ▸ hlt)

variable [DecidableLT κ]

/-- Puts an entry at its place; an entry of the same key gives way. -/
def insertEntry (key : κ) (value : α) : List (κ × α) → List (κ × α)
  | [] => [(key, value)]
  | entry :: rest =>
    if key < entry.1 then (key, value) :: entry :: rest
    else if key = entry.1 then (key, value) :: rest
    else entry :: insertEntry key value rest

theorem mem_insertEntry {key : κ} {value : α} {entries : List (κ × α)} {x : κ × α}
    (h : x ∈ insertEntry key value entries) : x = (key, value) ∨ x ∈ entries := by
  induction entries with
  | nil => simpa [insertEntry] using h
  | cons entry rest ih =>
    simp only [insertEntry] at h
    split at h
    · simpa using h
    · split at h
      · rcases List.mem_cons.1 h with h | h
        · exact .inl h
        · exact .inr (List.mem_cons_of_mem _ h)
      · rcases List.mem_cons.1 h with rfl | h
        · simp
        · exact (ih h).imp_right (List.mem_cons_of_mem _)

theorem lookup_insertEntry (key other : κ) (value : α) (entries : List (κ × α)) :
    (insertEntry key value entries).lookup other =
      if other = key then some value else entries.lookup other := by
  induction entries with
  | nil => simp [insertEntry, lookup_entry]
  | cons entry rest ih =>
    rw [insertEntry]
    split
    · rw [lookup_entry]
    · split
      · rename_i hkey
        simp only [lookup_entry, hkey]
        split <;> rfl
      · rename_i hkey
        rw [lookup_entry, lookup_entry, ih]
        by_cases h : other = entry.1
        · have hother : other ≠ key := fun hother => hkey (hother.symm.trans h)
          simp only [h, if_true] at hother ⊢
          rw [if_neg hother]
        · rw [if_neg h, if_neg h]

end Entries

section Order

variable {κ α : Type} [DecidableEq κ] [LT κ] [LE κ] [Std.IsLinearOrder κ] [Std.LawfulOrderLT κ]

/-- Of two lists with the same look-ups, the first key of one is not before that of the other. -/
theorem not_lt_of_lookup_eq {a b : κ × α} {left right : List (κ × α)}
    (hright : Ascending (b :: right))
    (h : (a :: left).lookup a.1 = (b :: right).lookup a.1) : ¬a.1 < b.1 := by
  intro hlt
  have hnone : (b :: right).lookup a.1 = none := lookup_eq_none_of_lt fun entry hentry => by
    rcases List.mem_cons.1 hentry with rfl | hentry
    · exact hlt
    · exact Std.lt_trans hlt ((List.pairwise_cons.1 hright).1 entry hentry)
  rw [hnone, lookup_entry, if_pos rfl] at h
  exact Option.some_ne_none _ h

theorem eq_of_lookup_eq {left right : List (κ × α)} (hleft : Ascending left)
    (hright : Ascending right) (h : ∀ key, left.lookup key = right.lookup key) :
    left = right := by
  induction left generalizing right with
  | nil =>
    cases right with
    | nil => rfl
    | cons b right => simpa [lookup_entry] using h b.1
  | cons a left ih =>
    cases right with
    | nil => simpa [lookup_entry] using h a.1
    | cons b right =>
      have hkey : a.1 = b.1 := by
        by_cases heq : a.1 = b.1
        · exact heq
        · have hle := Std.not_lt.1 (not_lt_of_lookup_eq hleft (h b.1).symm)
          exact absurd (Std.lt_of_le_of_ne hle heq) (not_lt_of_lookup_eq hright (h a.1))
      have hvalue : a.2 = b.2 := by
        have hfirst := h a.1
        rw [lookup_entry, lookup_entry, if_pos rfl, if_pos hkey] at hfirst
        exact Option.some.inj hfirst
      obtain rfl : a = b := Prod.ext hkey hvalue
      obtain ⟨hfirst, hleft⟩ := List.pairwise_cons.1 hleft
      obtain ⟨hother, hright⟩ := List.pairwise_cons.1 hright
      have hrest : ∀ key, left.lookup key = right.lookup key := by
        intro key
        by_cases heq : key = a.1
        · rw [heq, lookup_eq_none_of_lt hfirst, lookup_eq_none_of_lt hother]
        · have hkey := h key
          rw [lookup_entry, lookup_entry, if_neg heq, if_neg heq] at hkey
          exact hkey
      rw [ih hleft hright hrest]

variable [DecidableLT κ]

theorem ascending_insertEntry (key : κ) (value : α) {entries : List (κ × α)}
    (h : Ascending entries) : Ascending (insertEntry key value entries) := by
  induction entries with
  | nil => simp [insertEntry, Ascending]
  | cons entry rest ih =>
    obtain ⟨hfirst, hrest⟩ := List.pairwise_cons.1 h
    simp only [insertEntry]
    split
    · rename_i hlt
      refine List.pairwise_cons.2 ⟨fun x hx => ?_, h⟩
      rcases List.mem_cons.1 hx with rfl | hx
      · exact hlt
      · exact Std.lt_trans hlt (hfirst x hx)
    · split
      · rename_i heq
        exact List.pairwise_cons.2 ⟨fun x hx => heq ▸ hfirst x hx, hrest⟩
      · rename_i hnlt hne
        refine List.pairwise_cons.2 ⟨fun x hx => ?_, ih hrest⟩
        rcases mem_insertEntry hx with rfl | hx
        · exact Std.lt_of_le_of_ne (Std.not_lt.1 hnlt) (Ne.symm hne)
        · exact hfirst x hx

/-- A key behind all others goes to the end. -/
theorem insertEntry_of_forall_lt {key : κ} {entries : List (κ × α)}
    (h : ∀ entry ∈ entries, entry.1 < key) (value : α) :
    insertEntry key value entries = entries ++ [(key, value)] := by
  induction entries with
  | nil => rfl
  | cons entry rest ih =>
    have hlt : entry.1 < key := h entry List.mem_cons_self
    have hnlt : ¬key < entry.1 := fun hgt => Std.lt_irrefl (Std.lt_trans hgt hlt)
    have hne : key ≠ entry.1 := fun heq => hnlt (heq ▸ hlt)
    rw [insertEntry, if_neg hnlt, if_neg hne,
      ih fun other hother => h other (List.mem_cons_of_mem _ hother), List.cons_append]

end Order

end SortedMap

structure SortedMap (κ α : Type) [LT κ] where
  entries : List (κ × α)
  ascending : SortedMap.Ascending entries
  deriving DecidableEq

namespace SortedMap

section LookUp

variable {κ α : Type} [LT κ]

def empty : SortedMap κ α := ⟨[], List.Pairwise.nil⟩

def keys (m : SortedMap κ α) : List κ :=
  m.entries.map Prod.fst

def size (m : SortedMap κ α) : Nat :=
  m.entries.length

theorem keys_ascending (m : SortedMap κ α) : m.keys.Pairwise (· < ·) :=
  List.pairwise_map.2 m.ascending

@[simp] theorem length_keys (m : SortedMap κ α) : m.keys.length = m.size :=
  List.length_map Prod.fst

variable [DecidableEq κ]

def get? (m : SortedMap κ α) (key : κ) : Option α :=
  m.entries.lookup key

def contains (m : SortedMap κ α) (key : κ) : Bool :=
  (m.get? key).isSome

theorem mem_keys_iff (m : SortedMap κ α) (key : κ) : key ∈ m.keys ↔ m.contains key := by
  simp only [keys, contains, get?]
  induction m.entries with
  | nil => simp
  | cons entry rest ih =>
    rw [lookup_entry, List.map_cons, List.mem_cons, ih]
    by_cases h : key = entry.1 <;> simp [h]

/-- An entry of the map is what its key leads to. -/
theorem get?_eq_some_iff [Std.Irrefl (· < · : κ → κ → Prop)] {m : SortedMap κ α}
    {key : κ} {value : α} :
    m.get? key = some value ↔ (key, value) ∈ m.entries := by
  rw [get?, List.lookup_eq_some_iff]
  constructor
  · rintro ⟨before, after, hentries, _⟩
    rw [hentries]
    exact List.mem_append_right _ List.mem_cons_self
  · intro hmem
    obtain ⟨before, after, hentries⟩ := List.append_of_mem hmem
    have hordered := m.ascending
    rw [hentries] at hordered
    refine ⟨before, after, hentries, fun entry hentry => bne_iff_ne.2 fun heq => ?_⟩
    have hlt : entry.1 < key :=
      (List.pairwise_append.1 hordered).2.2 entry hentry _ List.mem_cons_self
    exact Std.lt_irrefl (heq ▸ hlt)

end LookUp

section Insertion

variable {κ α : Type} [DecidableEq κ] [LT κ] [LE κ] [Std.IsLinearOrder κ] [Std.LawfulOrderLT κ]

/-- The look-ups determine the map. -/
theorem ext_get? {m n : SortedMap κ α} (h : ∀ key, m.get? key = n.get? key) : m = n := by
  obtain ⟨left, hleft⟩ := m
  obtain ⟨right, hright⟩ := n
  obtain rfl : left = right := eq_of_lookup_eq hleft hright h
  rfl

variable [DecidableLT κ]

def insert (m : SortedMap κ α) (key : κ) (value : α) : SortedMap κ α :=
  ⟨insertEntry key value m.entries, ascending_insertEntry key value m.ascending⟩

def ofList (entries : List (κ × α)) : SortedMap κ α :=
  entries.foldl (fun m entry => m.insert entry.1 entry.2) empty

theorem get?_insert (m : SortedMap κ α) (key other : κ) (value : α) :
    (m.insert key value).get? other = if other = key then some value else m.get? other :=
  lookup_insertEntry key other value m.entries

theorem contains_insert (m : SortedMap κ α) (key other : κ) (value : α) :
    (m.insert key value).contains other ↔ other = key ∨ m.contains other := by
  rw [contains, get?_insert, contains]
  by_cases h : other = key
  · rw [if_pos h]
    exact iff_of_true rfl (.inl h)
  · rw [if_neg h]
    exact (or_iff_right h).symm

theorem get?_foldl_insert (entries : List (κ × α)) (m : SortedMap κ α) (key : κ) :
    (entries.foldl (fun m entry => m.insert entry.1 entry.2) m).get? key =
      (entries.reverse.lookup key).or (m.get? key) := by
  induction entries generalizing m with
  | nil => rfl
  | cons entry rest ih =>
    rw [List.foldl_cons, ih, get?_insert, List.reverse_cons, List.lookup_append, Option.or_assoc,
      lookup_entry, List.lookup_nil]
    split
    · rw [Option.some_or]
    · rw [Option.none_or]

/-- Of the entries of one key the last counts. -/
theorem get?_ofList (entries : List (κ × α)) (key : κ) :
    (ofList entries).get? key = entries.reverse.lookup key :=
  (get?_foldl_insert entries empty key).trans Option.or_none

theorem contains_foldl_insert (entries : List (κ × α)) (m : SortedMap κ α) (key : κ) :
    (entries.foldl (fun m entry => m.insert entry.1 entry.2) m).contains key ↔
      (∃ entry ∈ entries, entry.1 = key) ∨ m.contains key := by
  induction entries generalizing m with
  | nil => simp
  | cons entry rest ih =>
    rw [List.foldl_cons, ih, contains_insert]
    simp only [List.mem_cons, exists_eq_or_imp, eq_comm (a := key)]
    exact or_left_comm.trans or_assoc.symm

theorem contains_ofList (entries : List (κ × α)) (key : κ) :
    (ofList entries).contains key ↔ ∃ entry ∈ entries, entry.1 = key := by
  rw [ofList, contains_foldl_insert]
  exact or_iff_left (by simp [contains, get?, empty])

end Insertion

end SortedMap

/-- A map from names, in the order of their code points. -/
abbrev NameMap (α : Type) := SortedMap String α

end SeriesQuery
