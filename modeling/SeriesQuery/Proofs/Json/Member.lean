import SeriesQuery.Proofs.Json.Agreement
import SeriesQuery.Proofs.Json.Nesting
import SeriesQuery.Proofs.Json.Typed

/-!
# Members of an object

What a reader of some fields makes of an object is told by the members that stand in its text. The
reader goes along the members one by one. A field may come once, and a member that is no field is
skipped whatever its value is.
-/

namespace SeriesQuery.Json

variable {text rest : List Char}

/-! ### Strings and null -/

/-- A spelling of the text, from behind the opening quote to behind the closing one. -/
def Spelled (text : List Char) (s : String) (rest : List Char) : Prop :=
  ∃ spelling, text = spelling ++ '"' :: rest ∧ Spells spelling s.toList

def Quoted (text : List Char) (s : String) (rest : List Char) : Prop :=
  ∃ quoted, Gap text ('"' :: quoted) ∧ Spelled quoted s rest

def IsNull (text rest : List Char) : Prop :=
  Gap text ('n' :: 'u' :: 'l' :: 'l' :: rest)

theorem readText_eq_ok_iff {s : List Char} :
    readText text = .ok (s, rest) ↔ Spelled text (String.ofList s) rest := by
  rw [Spelled, String.toList_ofList]
  constructor
  · exact spells_of_readText
  · rintro ⟨spelling, rfl, hspells⟩
    exact readText_of_spells hspells rest

theorem Spelled.literal {s : String} (h : Spelled text s rest) : Literal text rest := by
  obtain ⟨spelling, rfl, hspells⟩ := h
  exact skipText_eq_ok_iff.1 (skipText_of_spells hspells rest)

/-- A text spells one string. -/
theorem Spelled.unique {s t : String} {left : List Char} (h : Spelled text s rest)
    (hleft : Spelled text t left) : s = t := by
  rw [← String.ofList_toList (s := s)] at h
  rw [← String.ofList_toList (s := t)] at hleft
  have hsame := (readText_eq_ok_iff.2 h).symm.trans (readText_eq_ok_iff.2 hleft)
  exact String.toList_injective (Prod.mk.inj (Except.ok.inj hsame)).1

theorem Quoted.value {s : String} (h : Quoted text s rest) : Value text rest := by
  obtain ⟨quoted, hgap, hspelled⟩ := h
  exact .string hgap hspelled.literal

theorem IsNull.value (h : IsNull text rest) : Value text rest :=
  .null h

theorem readString_eq_ok_iff {wanted s : String} :
    readString wanted text = .ok (s, rest) ↔ Quoted text s rest := by
  constructor
  · intro h
    obtain ⟨quoted, characters, heq, htext, rfl⟩ := exists_quote_of_readString h
    exact ⟨quoted, (gap_cons_iff (by decide)).2 heq, readText_eq_ok_iff.1 htext⟩
  · rintro ⟨quoted, hgap, hspelled⟩
    rw [← String.ofList_toList (s := s)] at hspelled
    rw [readString, (gap_cons_iff (by decide)).1 hgap]
    simp only [readText_eq_ok_iff.2 hspelled, mapValue, String.ofList_toList]

theorem readStringOrNull_eq_ok_iff {wanted : String} {o : Option String} :
    readStringOrNull wanted text = .ok (o, rest) ↔
      (o = none ∧ IsNull text rest) ∨ ∃ s, o = some s ∧ Quoted text s rest := by
  rw [readStringOrNull]
  constructor
  · intro h
    split at h
    · rename_i heq
      obtain ⟨rfl, hword⟩ := readWord_of_bind h
      rw [readWord_eq_ok_iff.1 hword] at heq
      exact .inl ⟨rfl, (gap_cons_iff (by decide)).2 heq⟩
    · obtain ⟨s, hs, rfl⟩ := exists_of_mapValue_eq_ok h
      rw [(skipsSpace_readString wanted).skipSpace_eq] at hs
      exact .inr ⟨s, rfl, readString_eq_ok_iff.1 hs⟩
  · rintro (⟨rfl, hnull⟩ | ⟨s, rfl, hquoted⟩)
    · rw [(gap_cons_iff (by decide)).1 hnull]
      rfl
    · have hstring : readString wanted text = .ok (s, rest) := readString_eq_ok_iff.2 hquoted
      obtain ⟨quoted, hgap, _⟩ := hquoted
      have hquote := (gap_cons_iff (by decide)).1 hgap
      rw [← (skipsSpace_readString wanted).skipSpace_eq, hquote] at hstring
      rw [hquote]
      change mapValue some (readString wanted ('"' :: quoted)) = _
      rw [hstring]
      rfl

/-! ### Keys and commas -/

def Member.IsNamed (m : Member) (name : String) : Prop :=
  ∃ rest, Spelled m.key name rest

theorem Member.IsNamed.unique {m : Member} {name other : String} (h : m.IsNamed name)
    (hother : m.IsNamed other) : name = other := by
  obtain ⟨_, hspelled⟩ := h
  obtain ⟨_, hother⟩ := hother
  exact hspelled.unique hother

theorem nextKey_of_close (first : Bool) (h : Gap text ('}' :: rest)) :
    nextKey first text = .ok (.finished rest) := by
  rw [nextKey, (gap_cons_iff (by decide)).1 h]
  rfl

theorem nextKey_of_opens {first : Bool} {key quoted : List Char} (hopens : Opens first text key)
    (hkey : Gap key ('"' :: quoted)) : nextKey first text = .ok (.more quoted) := by
  have hquote := (gap_cons_iff (by decide)).1 hkey
  cases first with
  | true =>
    obtain rfl : text = key := hopens
    rw [nextKey, hquote]
    rfl
  | false =>
    have hcomma : Gap text (',' :: key) := hopens
    rw [nextKey, (gap_cons_iff (by decide)).1 hcomma]
    simp [hquote]

theorem exists_opens_of_nextKey {first : Bool} {quoted : List Char}
    (h : nextKey first text = .ok (.more quoted)) :
    ∃ key, Opens first text key ∧ Gap key ('"' :: quoted) := by
  rcases nextKey_eq_more h with ⟨rfl, hquote⟩ | ⟨rfl, key, hcomma, hquote⟩
  · exact ⟨text, rfl, (gap_cons_iff (by decide)).2 hquote⟩
  · exact ⟨key, (gap_cons_iff (by decide)).2 hcomma, (gap_cons_iff (by decide)).2 hquote⟩

/-- An object has fewer members than its text has characters. -/
theorem length_lt_of_derives {first : Bool} {listed : List Member}
    (h : Derives (.members first listed) text rest) : listed.length < text.length := by
  induction listed generalizing first text with
  | nil => exact Nat.lt_of_le_of_lt (Nat.zero_le _) h.length_lt
  | cons m listed ih =>
    cases h with
    | member hopens hkey hliteral hcolon hvalue hlisted =>
      have hrest := ih hlisted
      have hopensless := hopens.length_le
      have hkeyless := hkey.length_le
      have hliteralless := hliteral.length_lt
      have hcolonless := hcolon.length_le
      have hvalueless := hvalue.length_lt
      rw [List.length_cons] at hkeyless hcolonless ⊢
      omega

section Walk

variable {σ : Type} {member : σ → String → List Char → Read (σ × List Char)}

/-- A reader of members that takes no more and no less than the colon and a value. -/
def TakesValue (member : σ → String → List Char → Read (σ × List Char)) : Prop :=
  ∀ ⦃state next : σ⦄ ⦃name : String⦄ ⦃text rest : List Char⦄,
    member state name text = .ok (next, rest) → ∃ value, Gap text (':' :: value) ∧ Value value rest

/-- What is read as members is written as members. -/
theorem derives_of_readMembersFrom (h : TakesValue member) {bound : Nat} {first : Bool}
    {state final : σ} (hread : readMembersFrom member bound first state text = .ok (final, rest)) :
    ∃ listed, Derives (.members first listed) text rest := by
  induction bound generalizing first state text with
  | zero => cases hread
  | succ bound ih =>
    rcases readMembersFrom_cases hread with ⟨hnext, _⟩ |
      ⟨_, quoted, name, colon, next, behind, hnext, hname, hmember, hmembers, hbound⟩
    · exact ⟨[], .noMember ((gap_cons_iff (by decide)).2 (nextKey_eq_finished hnext))⟩
    · obtain rfl := Nat.succ.inj hbound
      obtain ⟨key, hopens, hkey⟩ := exists_opens_of_nextKey hnext
      obtain ⟨value, hcolon, hvalue⟩ := h hmember
      obtain ⟨listed, hlisted⟩ := ih hmembers
      have hliteral := (readText_eq_ok_iff.1 hname).literal
      exact ⟨⟨quoted, value, behind⟩ :: listed, .member hopens hkey hliteral hcolon hvalue hlisted⟩

/-- The states along the members, from the first to the last. -/
inductive Along (step : σ → String → Member → σ → Prop) : σ → List Member → σ → Prop where
  | nil {state : σ} : Along step state [] state
  | cons {state next final : σ} {name : String} {m : Member} {listed : List Member} :
      m.IsNamed name → step state name m next → Along step next listed final →
      Along step state (m :: listed) final

theorem along_nil_iff {step : σ → String → Member → σ → Prop} {state final : σ} :
    Along step state [] final ↔ final = state := by
  constructor
  · intro h
    cases h
    rfl
  · rintro rfl
    exact .nil

theorem Along.exists_isNamed {step : σ → String → Member → σ → Prop} {m : Member}
    {state final : σ} {listed : List Member} (h : Along step state (m :: listed) final) :
    ∃ key, m.IsNamed key := by
  cases h with
  | cons hname _ _ => exact ⟨_, hname⟩

theorem along_cons_iff {step : σ → String → Member → σ → Prop} {m : Member} {key : String}
    (hkey : m.IsNamed key) {state final : σ} {listed : List Member} :
    Along step state (m :: listed) final ↔
      ∃ next, step state key m next ∧ Along step next listed final := by
  constructor
  · intro h
    cases h with
    | cons hname hstep hrest =>
      obtain rfl := hkey.unique hname
      exact ⟨_, hstep, hrest⟩
  · rintro ⟨next, hstep, hrest⟩
    exact .cons hkey hstep hrest

/-- On the value of each member, the reader does what the step says. -/
def Follows (member : σ → String → List Char → Read (σ × List Char))
    (step : σ → String → Member → σ → Prop) : Prop :=
  ∀ ⦃m : Member⦄ ⦃colon : List Char⦄, Gap colon (':' :: m.value) → Value m.value m.rest →
    ∀ state name next left,
      member state name colon = .ok (next, left) ↔ left = m.rest ∧ step state name m next

/-- A reader that follows a step goes along the members of an object, and fails only where the step
cannot be taken. -/
theorem readMembersFrom_eq_ok_iff {step : σ → String → Member → σ → Prop}
    (hfollows : Follows member step) {bound : Nat} {first : Bool} {listed : List Member}
    (h : Derives (.members first listed) text rest) (hbound : listed.length < bound)
    {state final : σ} {left : List Char} :
    readMembersFrom member bound first state text = .ok (final, left) ↔
      left = rest ∧ Along step state listed final := by
  induction listed generalizing bound first text state with
  | nil =>
    obtain ⟨bound, rfl⟩ := Nat.exists_eq_succ_of_ne_zero (Nat.ne_zero_of_lt hbound)
    cases h with
    | noMember hgap =>
      rw [readMembersFrom, nextKey_of_close first hgap, ok_bind]
      constructor
      · intro hread
        obtain ⟨rfl, rfl⟩ := Prod.mk.inj (Except.ok.inj hread)
        exact ⟨rfl, .nil⟩
      · rintro ⟨rfl, halong⟩
        cases halong
        rfl
  | cons m listed ih =>
    obtain ⟨bound, rfl⟩ := Nat.exists_eq_succ_of_ne_zero (Nat.ne_zero_of_lt hbound)
    have hfewer : listed.length < bound := Nat.lt_of_succ_lt_succ hbound
    cases h with
    | member hopens hkey hliteral hcolon hvalue hlisted =>
      have hnext := nextKey_of_opens hopens hkey
      constructor
      · intro hread
        rcases readMembersFrom_cases hread with ⟨hfinished, _⟩ |
          ⟨_, _, name, after, next, behind, hmore, hname, hmember, hmembers, hsucc⟩
        · cases hnext.symm.trans hfinished
        obtain rfl := Next.more.inj (Except.ok.inj (hnext.symm.trans hmore))
        obtain rfl := Nat.succ.inj hsucc
        have hspelled := readText_eq_ok_iff.1 hname
        obtain rfl := hliteral.rest_eq hspelled.literal
        obtain ⟨rfl, hstep⟩ := (hfollows hcolon hvalue _ _ _ _).1 hmember
        obtain ⟨rfl, halong⟩ := (ih hlisted hfewer).1 hmembers
        exact ⟨rfl, .cons ⟨_, hspelled⟩ hstep halong⟩
      · rintro ⟨rfl, halong⟩
        cases halong with
        | @cons _ next _ name _ _ hnamed hstep halong =>
          obtain ⟨after, hspelled⟩ := hnamed
          obtain rfl := hliteral.rest_eq hspelled.literal
          have hname : readText m.key = .ok (name.toList, after) := by
            rw [readText_eq_ok_iff, String.ofList_toList]
            exact hspelled
          have hmember := (hfollows hcolon hvalue state name next _).2 ⟨rfl, hstep⟩
          have hmembers := (ih hlisted hfewer).2 ⟨rfl, halong⟩
          rw [readMembersFrom, hnext, ok_bind]
          simp only [hname, ok_bind, String.ofList_toList, hmember, hmembers]

end Walk

/-! ### Typed values -/

/-- What the reader takes for a value of its type is a value. -/
def ReadsValues {α : Type} (reader : List Char → Read (α × List Char)) : Prop :=
  ∀ ⦃text rest : List Char⦄ ⦃a : α⦄, reader text = .ok (a, rest) → Value text rest

theorem readsValues_readString (wanted : String) : ReadsValues (readString wanted) :=
  fun _ _ _ h => (readString_eq_ok_iff.1 h).value

theorem readsValues_readStringOrNull (wanted : String) :
    ReadsValues (readStringOrNull wanted) := by
  intro text rest o h
  rcases readStringOrNull_eq_ok_iff.1 h with ⟨_, hnull⟩ | ⟨s, _, hquoted⟩
  · exact hnull.value
  · exact hquoted.value

theorem ReadsValues.exists_of_readOnce {α : Type} {reader : List Char → Read (α × List Char)}
    (h : ReadsValues reader) {name : String} {earlier next : Option α}
    (hread : readOnce name earlier reader text = .ok (next, rest)) :
    ∃ value, Gap text (':' :: value) ∧ Value value rest := by
  cases earlier with
  | some _ => cases hread
  | none =>
    obtain ⟨value, hcolon, hread⟩ := exists_of_bind_eq_ok hread
    obtain ⟨_, hvalue, _⟩ := exists_of_mapValue_eq_ok hread
    exact ⟨value, readColon_eq_ok_iff.1 hcolon, h hvalue⟩

theorem exists_of_skipMemberValue {σ : Type} {state next : σ}
    (h : (do return (state, ← skipValue (← readColon text)) : Read (σ × List Char)) =
      .ok (next, rest)) : ∃ value, Gap text (':' :: value) ∧ Value value rest := by
  obtain ⟨value, hcolon, h⟩ := exists_of_bind_eq_ok h
  obtain ⟨behind, hskip, h⟩ := exists_of_bind_eq_ok h
  obtain ⟨_, rfl⟩ := Prod.mk.inj (Except.ok.inj h)
  exact ⟨value, readColon_eq_ok_iff.1 hcolon, skipValue_eq_ok_iff.1 hskip⟩

theorem derives_of_nextItem {first : Bool} {body behind : List Char}
    (hnext : nextItem first text = .ok (.more body)) (hvalue : Value body behind)
    (hitems : Derives (.items false) behind rest) : Derives (.items first) text rest := by
  rcases nextItem_eq_more hnext with ⟨rfl, rfl, _⟩ | ⟨rfl, value, hcomma, rfl⟩
  · exact .item rfl (value_skipSpace_iff.1 hvalue) hitems
  · exact .item ((gap_cons_iff (by decide)).2 hcomma) (value_skipSpace_iff.1 hvalue) hitems

theorem derives_of_endArray (h : endArray text = .ok rest) : Derives (.items false) text rest :=
  .noItem ((gap_cons_iff (by decide)).2 (skipSpace_of_endArray h))

/-- Fields are read from an object or from an array. -/
theorem value_of_readFields {σ : Type} {wanted : String}
    {member : Nat → σ → String → List Char → Read (σ × List Char)}
    {items : Nat → List Char → Read (σ × List Char)} {start final : σ} {depth : Nat}
    (hmember : ∀ depth, TakesValue (member depth))
    (hitems : ∀ {depth text rest final}, items depth text = .ok (final, rest) →
      Derives (.items true) text rest)
    (h : readFields wanted member items start depth text = .ok (final, rest)) :
    Value text rest := by
  rw [readFields] at h
  split at h
  · cases h
  · rename_i heq
    cases depth with
    | zero => cases h
    | succ depth => exact .array ((gap_cons_iff (by decide)).2 heq) (hitems h)
  · rename_i heq
    cases depth with
    | zero => cases h
    | succ depth =>
      obtain ⟨listed, hlisted⟩ := derives_of_readMembersFrom (hmember depth) h
      exact .object ((gap_cons_iff (by decide)).2 heq) hlisted
  · cases h

/-- Fields are read along the members of an object. -/
theorem readFields_object_iff {σ : Type} {wanted : String}
    {member : Nat → σ → String → List Char → Read (σ × List Char)}
    {items : Nat → List Char → Read (σ × List Char)} {start final : σ} {depth : Nat}
    {step : σ → String → Member → σ → Prop} (hfollows : Follows (member depth) step)
    {members : List Member} (h : Object text members rest) {left : List Char} :
    readFields wanted member items start (depth + 1) text = .ok (final, left) ↔
      left = rest ∧ Along step start members final := by
  obtain ⟨body, hgap, hmembers⟩ := h
  have hfewer : members.length < body.length + 1 :=
    Nat.lt_succ_of_lt (length_lt_of_derives hmembers)
  rw [readFields, (gap_cons_iff (by decide)).1 hgap]
  exact readMembersFrom_eq_ok_iff hfollows hmembers hfewer

/-! ### Fields -/

section Fields

variable {α : Type} {name : String} {holds : Member → α → Prop}

/-- One member has the name. -/
def Sole (members : List Member) (name : String) (m : Member) : Prop :=
  ∃ before after, members = before ++ m :: after ∧ m.IsNamed name ∧
    ∀ other ∈ before ++ after, ¬other.IsNamed name

theorem Sole.mem {members : List Member} {m : Member} (h : Sole members name m) :
    m ∈ members := by
  obtain ⟨before, after, rfl, _⟩ := h
  exact List.mem_append_right _ List.mem_cons_self

theorem Sole.isNamed {members : List Member} {m : Member} (h : Sole members name m) :
    m.IsNamed name := by
  obtain ⟨_, _, _, hname, _⟩ := h
  exact hname

theorem Sole.eq_of_mem {members : List Member} {m other : Member} (h : Sole members name m)
    (hmem : other ∈ members) (hname : other.IsNamed name) : other = m := by
  obtain ⟨before, after, rfl, _, hnone⟩ := h
  rcases List.mem_append.1 hmem with hmem | hmem
  · exact absurd hname (hnone other (List.mem_append_left _ hmem))
  rcases List.mem_cons.1 hmem with rfl | hmem
  · rfl
  · exact absurd hname (hnone other (List.mem_append_right _ hmem))

/-- The members give the field a value, or none of them has its name. -/
def Gives (name : String) (holds : Member → α → Prop) (members : List Member) : Option α → Prop
  | none => ∀ m ∈ members, ¬m.IsNamed name
  | some a => ∃ m, Sole members name m ∧ holds m a

/-- What becomes of a field along the members: it may be given once. -/
inductive Fills (name : String) (holds : Member → α → Prop) :
    Option α → List Member → Option α → Prop where
  | nil {earlier : Option α} : Fills name holds earlier [] earlier
  | other {m : Member} {key : String} {earlier final : Option α} {members : List Member} :
      m.IsNamed key → key ≠ name → Fills name holds earlier members final →
      Fills name holds earlier (m :: members) final
  | once {m : Member} {a : α} {final : Option α} {members : List Member} :
      m.IsNamed name → holds m a → Fills name holds (some a) members final →
      Fills name holds none (m :: members) final

theorem fills_nil_iff {earlier final : Option α} :
    Fills name holds earlier [] final ↔ final = earlier := by
  constructor
  · intro h
    cases h
    rfl
  · rintro rfl
    exact .nil

theorem Fills.exists_isNamed {m : Member} {earlier final : Option α} {members : List Member}
    (h : Fills name holds earlier (m :: members) final) : ∃ key, m.IsNamed key := by
  cases h with
  | other hkey _ _ | once hkey _ _ => exact ⟨_, hkey⟩

theorem fills_cons_iff {m : Member} {key : String} (hkey : m.IsNamed key)
    {earlier final : Option α} {members : List Member} :
    Fills name holds earlier (m :: members) final ↔
      if key = name then earlier = none ∧ ∃ a, holds m a ∧ Fills name holds (some a) members final
      else Fills name holds earlier members final := by
  constructor
  · intro h
    cases h with
    | other hother hne hrest =>
      obtain rfl := hkey.unique hother
      rwa [if_neg hne]
    | once hname ha hrest =>
      obtain rfl := hkey.unique hname
      rw [if_pos rfl]
      exact ⟨rfl, _, ha, hrest⟩
  · intro h
    split at h
    · rename_i heq
      obtain ⟨rfl, a, ha, hrest⟩ := h
      exact .once (heq ▸ hkey) ha hrest
    · rename_i hne
      exact .other hkey hne h

/-- A field that has been given is not given again. -/
theorem fills_some_iff {a : α} {final : Option α} {members : List Member} :
    Fills name holds (some a) members final ↔
      (∀ m ∈ members, ∃ key, m.IsNamed key) ∧ (∀ m ∈ members, ¬m.IsNamed name) ∧
        final = some a := by
  induction members with
  | nil =>
    constructor
    · intro h
      cases h
      exact ⟨List.forall_mem_nil _, List.forall_mem_nil _, rfl⟩
    · rintro ⟨_, _, rfl⟩
      exact .nil
  | cons m members ih =>
    simp only [List.forall_mem_cons]
    constructor
    · intro h
      cases h with
      | other hkey hne hrest =>
        obtain ⟨hkeys, hnone, rfl⟩ := ih.1 hrest
        exact ⟨⟨⟨_, hkey⟩, hkeys⟩, ⟨fun hname => hne (hkey.unique hname), hnone⟩, rfl⟩
    · rintro ⟨⟨⟨key, hkey⟩, hkeys⟩, ⟨hfirst, hnone⟩, rfl⟩
      have hne : key ≠ name := fun heq => hfirst (heq ▸ hkey)
      exact .other hkey hne (ih.2 ⟨hkeys, hnone, rfl⟩)

theorem sole_cons_iff {m other : Member} {members : List Member} :
    Sole (m :: members) name other ↔
      (m = other ∧ m.IsNamed name ∧ ∀ x ∈ members, ¬x.IsNamed name) ∨
        ¬m.IsNamed name ∧ Sole members name other := by
  constructor
  · rintro ⟨before, after, hmembers, hname, hnone⟩
    cases before with
    | nil =>
      obtain ⟨rfl, rfl⟩ := List.cons.inj hmembers
      exact .inl ⟨rfl, hname, hnone⟩
    | cons first before =>
      obtain ⟨rfl, rfl⟩ := List.cons.inj hmembers
      obtain ⟨hfirst, hnone⟩ := List.forall_mem_cons.1 hnone
      exact .inr ⟨hfirst, before, after, rfl, hname, hnone⟩
  · rintro (⟨rfl, hname, hnone⟩ | ⟨hfirst, before, after, rfl, hname, hnone⟩)
    · exact ⟨[], members, rfl, hname, hnone⟩
    · exact ⟨m :: before, after, rfl, hname, List.forall_mem_cons.2 ⟨hfirst, hnone⟩⟩

/-- A field is filled by the members that give it. -/
theorem fills_none_iff {final : Option α} {members : List Member} :
    Fills name holds none members final ↔
      (∀ m ∈ members, ∃ key, m.IsNamed key) ∧ Gives name holds members final := by
  induction members with
  | nil =>
    constructor
    · intro h
      cases h
      exact ⟨List.forall_mem_nil _, List.forall_mem_nil _⟩
    · rintro ⟨_, h⟩
      cases final with
      | none => exact .nil
      | some a =>
        obtain ⟨_, ⟨before, after, hmembers, _⟩, _⟩ := h
        simp at hmembers
  | cons m members ih =>
    constructor
    · intro h
      cases h with
      | other hkey hne hrest =>
        obtain ⟨hkeys, hgives⟩ := ih.1 hrest
        have hfirst : ¬m.IsNamed name := fun hname => hne (hkey.unique hname)
        refine ⟨List.forall_mem_cons.2 ⟨⟨_, hkey⟩, hkeys⟩, ?_⟩
        cases final with
        | none => exact List.forall_mem_cons.2 ⟨hfirst, hgives⟩
        | some a =>
          obtain ⟨found, hsole, ha⟩ := hgives
          exact ⟨found, sole_cons_iff.2 (.inr ⟨hfirst, hsole⟩), ha⟩
      | once hname ha hrest =>
        obtain ⟨hkeys, hnone, rfl⟩ := fills_some_iff.1 hrest
        exact ⟨List.forall_mem_cons.2 ⟨⟨_, hname⟩, hkeys⟩,
          m, sole_cons_iff.2 (.inl ⟨rfl, hname, hnone⟩), ha⟩
    · rintro ⟨hkeys, hgives⟩
      obtain ⟨⟨key, hkey⟩, hkeys⟩ := List.forall_mem_cons.1 hkeys
      cases final with
      | none =>
        obtain ⟨hfirst, hnone⟩ := List.forall_mem_cons.1 hgives
        exact .other hkey (fun heq => hfirst (heq ▸ hkey)) (ih.2 ⟨hkeys, hnone⟩)
      | some a =>
        obtain ⟨found, hsole, ha⟩ := hgives
        rcases sole_cons_iff.1 hsole with ⟨rfl, hname, hnone⟩ | ⟨hfirst, hsole⟩
        · exact .once hname ha (fills_some_iff.2 ⟨hkeys, hnone, rfl⟩)
        · exact .other hkey (fun heq => hfirst (heq ▸ hkey)) (ih.2 ⟨hkeys, found, hsole, ha⟩)

/-- A member with the name of the field holds a value of it. -/
theorem Fills.exists_holds {final : Option α} {members : List Member}
    (h : Fills name holds none members final) {m : Member} (hmem : m ∈ members)
    (hname : m.IsNamed name) : ∃ a, holds m a := by
  have hgives := (fills_none_iff.1 h).2
  cases final with
  | none => exact absurd hname (hgives m hmem)
  | some a =>
    obtain ⟨found, hsole, ha⟩ := hgives
    exact ⟨a, hsole.eq_of_mem hmem hname ▸ ha⟩

end Fields

/-! ### Members with a value of a type -/

section Typed

variable {α β σ : Type}

theorem mapValue_eq_ok_iff {f : α → β} {outcome : Read (α × List Char)} {b : β} :
    mapValue f outcome = .ok (b, rest) ↔ ∃ a, outcome = .ok (a, rest) ∧ f a = b := by
  constructor
  · exact exists_of_mapValue_eq_ok
  · rintro ⟨a, rfl, rfl⟩
    rfl

def Member.IsText (m : Member) (s : String) : Prop :=
  Quoted m.value s m.rest

def Member.IsTextOrNull (m : Member) (o : Option String) : Prop :=
  (o = none ∧ IsNull m.value m.rest) ∨ ∃ s, o = some s ∧ Quoted m.value s m.rest

/-- The reader takes the value of the member for what the member holds. -/
def ReadsMember (reader : List Char → Read (α × List Char)) (holds : Member → α → Prop)
    (m : Member) : Prop :=
  ∀ a left, reader m.value = .ok (a, left) ↔ left = m.rest ∧ holds m a

theorem readsMember_readString {m : Member} (h : Value m.value m.rest) (wanted : String) :
    ReadsMember (readString wanted) Member.IsText m := by
  intro s left
  rw [readString_eq_ok_iff]
  constructor
  · intro hquoted
    obtain rfl := h.rest_eq hquoted.value
    exact ⟨rfl, hquoted⟩
  · rintro ⟨rfl, hquoted⟩
    exact hquoted

theorem readsMember_readStringOrNull {m : Member} (h : Value m.value m.rest) (wanted : String) :
    ReadsMember (readStringOrNull wanted) Member.IsTextOrNull m := by
  intro o left
  rw [readStringOrNull_eq_ok_iff]
  constructor
  · rintro (⟨rfl, hnull⟩ | ⟨s, rfl, hquoted⟩)
    · obtain rfl := h.rest_eq hnull.value
      exact ⟨rfl, .inl ⟨rfl, hnull⟩⟩
    · obtain rfl := h.rest_eq hquoted.value
      exact ⟨rfl, .inr ⟨s, rfl, hquoted⟩⟩
  · rintro ⟨rfl, h⟩
    exact h

/-- A field that may be given once takes the value behind the colon. -/
theorem readOnce_eq_ok_iff {reader : List Char → Read (α × List Char)}
    {holds : Member → α → Prop} {m : Member} (hreader : ReadsMember reader holds m)
    {colon : List Char} (hcolon : Gap colon (':' :: m.value)) {name : String}
    {earlier o : Option α} {left : List Char} :
    readOnce name earlier reader colon = .ok (o, left) ↔
      left = m.rest ∧ earlier = none ∧ ∃ a, holds m a ∧ o = some a := by
  cases earlier with
  | some a => simp [readOnce]
  | none =>
    simp only [readOnce, readColon_eq_ok_iff.2 hcolon, ok_bind, mapValue_eq_ok_iff, hreader _ _]
    constructor
    · rintro ⟨a, ⟨rfl, ha⟩, rfl⟩
      exact ⟨rfl, trivial, a, ha, rfl⟩
    · rintro ⟨rfl, _, a, ha, rfl⟩
      exact ⟨a, ⟨rfl, ha⟩, rfl⟩

theorem mapValue_readOnce_eq_ok_iff {reader : List Char → Read (α × List Char)}
    {holds : Member → α → Prop} {m : Member} (hreader : ReadsMember reader holds m)
    {colon : List Char} (hcolon : Gap colon (':' :: m.value)) {name : String}
    {earlier : Option α} {store : Option α → σ} {next : σ} {left : List Char} :
    mapValue store (readOnce name earlier reader colon) = .ok (next, left) ↔
      left = m.rest ∧ earlier = none ∧ ∃ a, holds m a ∧ next = store (some a) := by
  simp only [mapValue_eq_ok_iff, readOnce_eq_ok_iff hreader hcolon]
  constructor
  · rintro ⟨o, ⟨hleft, hearlier, a, ha, rfl⟩, rfl⟩
    exact ⟨hleft, hearlier, a, ha, rfl⟩
  · rintro ⟨hleft, hearlier, a, ha, rfl⟩
    exact ⟨some a, ⟨hleft, hearlier, a, ha, rfl⟩, rfl⟩

/-- A member that is no field is skipped. -/
theorem skipMemberValue_eq_ok_iff {m : Member} {colon : List Char}
    (hcolon : Gap colon (':' :: m.value)) (hvalue : Value m.value m.rest) {state next : σ}
    {left : List Char} :
    (do return (state, ← skipValue (← readColon colon)) : Read (σ × List Char)) =
        .ok (next, left) ↔ left = m.rest ∧ next = state := by
  simp only [readColon_eq_ok_iff.2 hcolon, ok_bind, skipValue_eq_ok_iff.2 hvalue, pure,
    Except.pure, Except.ok.injEq, Prod.mk.injEq]
  constructor
  · rintro ⟨rfl, rfl⟩
    exact ⟨rfl, rfl⟩
  · rintro ⟨rfl, rfl⟩
    exact ⟨rfl, rfl⟩

end Typed

end SeriesQuery.Json
