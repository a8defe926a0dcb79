import Mathlib.Data.List.TakeWhile
import SeriesQuery.Proofs.Number.Integer
import SeriesQuery.Settings

/-!
# Settings in layers

The settings of the environment are the lowest layer, and others are put on top of it. Putting one
on top of another is associative and the empty settings change nothing, so it does not matter which
layers are put together first. Each part of the outcome comes from the last layer that sets it, or
else from its variable, and only a timeout of the environment can be refused.
-/

namespace SeriesQuery.Settings

/-! ### The environment -/

section Environment

variable {lookup : String → Option String} {name text : String} {millis : UInt64}

/-- The variable is set to the text, which is not blank. -/
def IsSet (lookup : String → Option String) (name text : String) : Prop :=
  lookup name = some text ∧ ∃ c ∈ text.toList, isBlank c = false

/-- The environment sets a timeout, with white space around it or not. -/
def SetsTimeout (lookup : String → Option String) (millis : UInt64) : Prop :=
  ∃ text, IsSet lookup timeoutVariable text ∧ WritesNatural (trim text.toList) millis.toNat

/-- The timeout of the environment, which may be unset. -/
def timeoutOf (lookup : String → Option String) : Except Error (Option UInt64) :=
  match setting? lookup timeoutVariable with
  | some text => some <$> timeoutOfText text
  | none => .ok none

theorem ofEnvironment_eq (lookup : String → Option String) :
    ofEnvironment lookup = (timeoutOf lookup).map fun timeout =>
      { url := setting? lookup urlVariable, token := setting? lookup tokenVariable, timeout } := by
  rw [ofEnvironment, timeoutOf]
  cases setting? lookup timeoutVariable with
  | none => rfl
  | some text => cases timeoutOfText text <;> rfl

/-- Nothing is left of white space, and of nothing else. -/
theorem trim_eq_nil_iff {text : List Char} : trim text = [] ↔ ∀ c ∈ text, isBlank c := by
  rw [trim, trimEnd, List.reverse_eq_nil_iff, List.dropWhile_eq_nil_iff]
  constructor
  · intro h
    cases hrest : text.dropWhile isBlank with
    | nil => exact List.dropWhile_eq_nil_iff.1 hrest
    | cons c rest =>
      have hblank : isBlank c := h c (by simp [hrest])
      have hstop := stopsAt_dropWhile isBlank text c (by rw [hrest]; rfl)
      rw [hblank] at hstop
      cases hstop
  · intro h c hc
    exact h c ((List.dropWhile_sublist isBlank).mem (List.mem_reverse.1 hc))

theorem setting?_eq_some_iff : setting? lookup name = some text ↔ IsSet lookup name text := by
  have hblank : (!(trim text.toList).isEmpty) = true ↔ ∃ c ∈ text.toList, isBlank c = false := by
    rw [Bool.not_eq_true', ← Bool.not_eq_true, List.isEmpty_iff, trim_eq_nil_iff]
    simp
  rw [setting?, Option.filter_eq_some_iff, IsSet, hblank]

theorem timeoutOfText_eq_ok_iff :
    timeoutOfText text = .ok millis ↔ WritesNatural (trim text.toList) millis.toNat := by
  have hparse (n : Int) : IntegerRange.word64.parse (trim text.toList) = .ok n ↔ _ :=
    IntegerRange.parse_eq_ok_iff_of_low_eq_zero rfl
  rw [timeoutOfText]
  constructor
  · intro h
    split at h
    · rename_i n hn
      obtain ⟨value, rfl, hwritten, hle⟩ := (hparse n).1 hn
      have hle : (value : Int) ≤ 2 ^ 64 - 1 := hle
      obtain rfl := Except.ok.inj h
      rwa [Int.toNat_natCast, UInt64.toNat_ofNat_of_lt' (show value < 2 ^ 64 by omega)]
    · cases h
  · intro hwritten
    have hlt : millis.toNat < 2 ^ 64 := millis.toNat_lt
    have hle : (millis.toNat : Int) ≤ 2 ^ 64 - 1 := by omega
    rw [(hparse millis.toNat).2 ⟨_, rfl, hwritten, hle⟩]
    simp

theorem kind_of_timeoutOfText {e : Error} (h : timeoutOfText text = .error e) :
    e.kind = .usage := by
  rw [timeoutOfText] at h
  split at h
  · cases h
  · obtain rfl := Except.error.inj h
    rfl

/-- The environment has a timeout that is no number of milliseconds, or too large for one. -/
def HasUnreadableTimeout (lookup : String → Option String) : Prop :=
  ∃ text, IsSet lookup timeoutVariable text ∧
    ¬∃ n, WritesNatural (trim text.toList) n ∧ n < 2 ^ 64

theorem exists_timeoutOfText_error :
    (∃ e, timeoutOfText text = .error e) ↔ ¬∃ n, WritesNatural (trim text.toList) n ∧ n < 2 ^ 64 := by
  constructor
  · rintro ⟨e, he⟩ ⟨n, hwritten, hlt⟩
    have hn : (UInt64.ofNat n).toNat = n := UInt64.toNat_ofNat_of_lt' hlt
    have hok : timeoutOfText text = .ok (UInt64.ofNat n) :=
      timeoutOfText_eq_ok_iff.2 (by rwa [hn])
    rw [hok] at he
    cases he
  · intro hnone
    cases htext : timeoutOfText text with
    | error e => exact ⟨e, rfl⟩
    | ok millis =>
      exact absurd ⟨_, timeoutOfText_eq_ok_iff.1 htext, millis.toNat_lt⟩ hnone

theorem timeoutOf_of_isSet (h : IsSet lookup timeoutVariable text) :
    timeoutOf lookup = some <$> timeoutOfText text := by
  rw [timeoutOf, setting?_eq_some_iff.2 h]

theorem timeoutOf_of_not_isSet (h : ∀ text, ¬IsSet lookup timeoutVariable text) :
    timeoutOf lookup = .ok none := by
  have hunset : setting? lookup timeoutVariable = none :=
    Option.eq_none_iff_forall_ne_some.2 fun text htext => h text (setting?_eq_some_iff.1 htext)
  rw [timeoutOf, hunset]

theorem IsSet.unique {other : String} (h : IsSet lookup name text) (h' : IsSet lookup name other) :
    text = other :=
  Option.some.inj (h.1.symm.trans h'.1)

theorem timeoutOf_eq_ok {timeout : Option UInt64} (h : timeoutOf lookup = .ok timeout)
    (millis : UInt64) : timeout = some millis ↔ SetsTimeout lookup millis := by
  by_cases hset : ∃ text, IsSet lookup timeoutVariable text
  · obtain ⟨text, hset⟩ := hset
    rw [timeoutOf_of_isSet hset] at h
    obtain ⟨found, hfound, rfl⟩ := exists_of_map_eq_ok h
    rw [Option.some.injEq]
    constructor
    · rintro rfl
      exact ⟨text, hset, timeoutOfText_eq_ok_iff.1 hfound⟩
    · rintro ⟨other, hother, hwritten⟩
      rw [← hset.unique hother] at hwritten
      exact Except.ok.inj (hfound.symm.trans (timeoutOfText_eq_ok_iff.2 hwritten))
  · rw [not_exists] at hset
    rw [timeoutOf_of_not_isSet hset] at h
    obtain rfl := Except.ok.inj h
    refine iff_of_false (Option.some_ne_none millis).symm ?_
    rintro ⟨text, htext, -⟩
    exact hset text htext

theorem timeoutOf_eq_error_iff {e : Error} :
    timeoutOf lookup = .error e ↔
      ∃ text, IsSet lookup timeoutVariable text ∧ timeoutOfText text = .error e := by
  constructor
  · intro h
    by_cases hset : ∃ text, IsSet lookup timeoutVariable text
    · obtain ⟨text, hset⟩ := hset
      rw [timeoutOf_of_isSet hset] at h
      refine ⟨text, hset, ?_⟩
      cases htext : timeoutOfText text with
      | ok millis =>
        rw [htext] at h
        cases h
      | error e' =>
        rw [htext] at h
        exact congrArg Except.error (Except.error.inj h)
    · rw [not_exists] at hset
      rw [timeoutOf_of_not_isSet hset] at h
      cases h
  · rintro ⟨text, hset, he⟩
    rw [timeoutOf_of_isSet hset, he]
    rfl

theorem ofEnvironment_eq_error_iff {e : Error} :
    ofEnvironment lookup = .error e ↔ timeoutOf lookup = .error e := by
  rw [ofEnvironment_eq]
  cases timeoutOf lookup <;> simp [Except.map]

theorem exists_ofEnvironment_error :
    (∃ e, ofEnvironment lookup = .error e) ↔ HasUnreadableTimeout lookup := by
  simp only [ofEnvironment_eq_error_iff, timeoutOf_eq_error_iff]
  rw [exists_comm]
  simp only [exists_and_left, exists_timeoutOfText_error]
  rfl

end Environment

/-! ### Layers -/

theorem merge_assoc (a b c : Settings) : merge (merge a b) c = merge a (merge b c) := by
  simp only [merge, Option.or_assoc]

theorem empty_merge (s : Settings) : merge empty s = s := by
  simp only [merge, empty, Option.or_none]

theorem merge_empty (s : Settings) : merge s empty = s := by
  simp only [merge, empty, Option.none_or]

/-- A way to put layers together, two at a time. -/
inductive Grouping where
  | layer (s : Settings)
  | merge (lower upper : Grouping)

namespace Grouping

/-- The layers from the lowest to the highest. -/
def layers : Grouping → List Settings
  | layer s => [s]
  | merge lower upper => lower.layers ++ upper.layers

def merged : Grouping → Settings
  | layer s => s
  | merge lower upper => Settings.merge lower.merged upper.merged

end Grouping

theorem foldl_merge (base : Settings) (layers : List Settings) :
    layers.foldl merge base = merge base (layers.foldl merge empty) := by
  induction layers generalizing base with
  | nil => exact (merge_empty base).symm
  | cons s rest ih =>
    rw [List.foldl_cons, ih, List.foldl_cons, ih (merge empty s), empty_merge, merge_assoc]

/-- However they are grouped, layers come to the same as one put on top after the other. -/
theorem Grouping.merged_eq (g : Grouping) : g.merged = g.layers.foldl Settings.merge empty := by
  induction g with
  | layer s => exact (empty_merge s).symm
  | merge lower upper ihl ihu =>
    rw [merged, ihl, ihu, layers, List.foldl_append, ← foldl_merge]

/-- The last of the layers that sets a part decides it, and if none does, then what is below them. -/
def DecidedBy {α : Type} (part : Settings → Option α) (layers : List Settings) (below : α → Prop)
    (value : Option α) : Prop :=
  ∀ a, value = some a ↔
    (∃ before top after, layers = before ++ top :: after ∧ part top = some a ∧
      ∀ s ∈ after, part s = none) ∨
    (∀ s ∈ layers, part s = none) ∧ below a

theorem exists_split_cons_iff {α : Type} {first : α} {rest : List α} {P : α → List α → Prop} :
    (∃ before top after, first :: rest = before ++ top :: after ∧ P top after) ↔
      P first rest ∨ ∃ before top after, rest = before ++ top :: after ∧ P top after := by
  constructor
  · rintro ⟨before, top, after, hsplit, h⟩
    cases before with
    | nil =>
      obtain ⟨rfl, rfl⟩ := List.cons.inj hsplit
      exact .inl h
    | cons other before => exact .inr ⟨before, top, after, (List.cons.inj hsplit).2, h⟩
  · rintro (h | ⟨before, top, after, rfl, h⟩)
    · exact ⟨[], first, rest, rfl, h⟩
    · exact ⟨first :: before, top, after, rfl, h⟩

/-- A layer that is put on top of what is below becomes part of it. -/
theorem decidedBy_foldl {α : Type} {part : Settings → Option α} {below : α → Prop}
    (hpart : ∀ lower upper, part (merge lower upper) = (part upper).or (part lower))
    {base : Settings} (hbase : ∀ a, part base = some a ↔ below a) (layers : List Settings) :
    DecidedBy part layers below (part (layers.foldl merge base)) := by
  induction layers generalizing base below with
  | nil =>
    intro a
    simp [hbase]
  | cons s rest ih =>
    intro a
    have hnext (a : α) : part (merge base s) = some a ↔
        part s = some a ∨ part s = none ∧ below a := by
      rw [hpart, Option.or_eq_some_iff, hbase]
    rw [List.foldl_cons, ih hnext, exists_split_cons_iff, List.forall_mem_cons]
    constructor
    · rintro (hlast | ⟨hrest, hs | ⟨hs, hbelow⟩⟩)
      · exact .inl (.inr hlast)
      · exact .inl (.inl ⟨hs, hrest⟩)
      · exact .inr ⟨⟨hs, hrest⟩, hbelow⟩
    · rintro ((⟨hs, hrest⟩ | hlast) | ⟨⟨hs, hrest⟩, hbelow⟩)
      · exact .inr ⟨hrest, .inl hs⟩
      · exact .inl hlast
      · exact .inr ⟨hrest, .inr ⟨hs, hbelow⟩⟩

/-- The settings are those of the layers on top of the environment. -/
structure Effective (lookup : String → Option String) (layers : List Settings) (s : Settings) :
    Prop where
  url : DecidedBy Settings.url layers (IsSet lookup urlVariable) s.url
  token : DecidedBy Settings.token layers (IsSet lookup tokenVariable) s.token
  timeout : DecidedBy Settings.timeout layers (SetsTimeout lookup) s.timeout

theorem effective_foldl {lookup : String → Option String} {lower : Settings}
    (h : ofEnvironment lookup = .ok lower) (layers : List Settings) :
    Effective lookup layers (layers.foldl merge lower) := by
  rw [ofEnvironment_eq] at h
  obtain ⟨timeout, htimeout, rfl⟩ := exists_of_map_eq_ok h
  constructor
  · exact decidedBy_foldl (fun _ _ => rfl) (fun _ => setting?_eq_some_iff) layers
  · exact decidedBy_foldl (fun _ _ => rfl) (fun _ => setting?_eq_some_iff) layers
  · exact decidedBy_foldl (fun _ _ => rfl) (timeoutOf_eq_ok htimeout) layers

/-- The environment is refused, as a usage error, only for a timeout that is no number of 64 bits. Else
each part of the settings comes from the last layer that sets it or from its variable, however the
layers are grouped. -/
theorem layers_decide_settings (lookup : String → Option String) :
    ((∃ e, ofEnvironment lookup = .error e) ↔ HasUnreadableTimeout lookup) ∧
    (∀ e, ofEnvironment lookup = .error e → e.kind = .usage) ∧
    (∀ lower, ofEnvironment lookup = .ok lower → ∀ layers : List Settings,
      Effective lookup layers (layers.foldl merge lower) ∧
      ∀ g : Grouping, g.layers = lower :: layers → g.merged = layers.foldl merge lower) ∧
    (∀ a b c, merge (merge a b) c = merge a (merge b c)) ∧
    ∀ s, merge empty s = s ∧ merge s empty = s := by
  refine ⟨exists_ofEnvironment_error, ?_, ?_, merge_assoc, fun s => ⟨empty_merge s, merge_empty s⟩⟩
  · intro e he
    obtain ⟨text, -, htext⟩ := timeoutOf_eq_error_iff.1 (ofEnvironment_eq_error_iff.1 he)
    exact kind_of_timeoutOfText htext
  · intro lower hlower layers
    refine ⟨effective_foldl hlower layers, fun g hg => ?_⟩
    rw [g.merged_eq, hg, List.foldl_cons, empty_merge]

/-- A token of white space alone is not set, and an upper layer overrides a timeout that has a sign. The
two layers are put together before they are put on the environment. -/
theorem layers_decide_settings_of_three :
    ∃ (lookup : String → Option String) (lower : Settings) (g : Grouping),
      ofEnvironment lookup = .ok lower ∧ lookup tokenVariable = some "\u3000" ∧
      lower = { url := some " h ", timeout := some 7 } ∧
      g.layers = [lower, { token := some "t" }, { timeout := some 9 }] ∧
      Effective lookup [{ token := some "t" }, { timeout := some 9 }] g.merged ∧
      g.merged = { url := some " h ", token := some "t", timeout := some 9 } ∧
      HasUnreadableTimeout fun _ => some "-0" := by
  let lookup (name : String) : Option String :=
    if name = urlVariable then some " h "
    else if name = tokenVariable then some "\u3000"
    else some " +7 "
  let lower : Settings := { url := some " h ", timeout := some 7 }
  let g : Grouping :=
    .merge (.layer lower) (.merge (.layer { token := some "t" }) (.layer { timeout := some 9 }))
  have hlower : ofEnvironment lookup = .ok lower := rfl
  obtain ⟨-, -, hall, -⟩ := layers_decide_settings lookup
  obtain ⟨heffective, hgrouped⟩ := hall lower hlower [{ token := some "t" }, { timeout := some 9 }]
  refine ⟨lookup, lower, g, hlower, rfl, rfl, rfl, hgrouped g rfl ▸ heffective, rfl, ?_⟩
  exact (layers_decide_settings fun _ => some "-0").1.1 ⟨_, rfl⟩

end SeriesQuery.Settings
