import SeriesQuery.Json.Typed
import SeriesQuery.Proofs.Json.Extent

/-!
# Reading directly and through a tree

A value of some type is read from a text directly, or is made of the tree of the text. A reader and
a maker agree when the two ways never give different values and end at the same place. Numbers,
strings, names of variants, arrays and objects agree if their parts do.
-/

namespace SeriesQuery.Json

variable {α σ τ : Type} {depth : Nat}

/-- What is read directly from a text is what is made of the tree of the same text, and both end at
the same place. -/
def Agrees (reader : List Char → Read (α × List Char)) (make : Json → Except Mismatch α)
    (depth : Nat) : Prop :=
  ∀ ⦃text rest left : List Char⦄ ⦃a : α⦄ ⦃j : Json⦄, reader text = .ok (a, rest) →
    readTree depth text = .ok (j, left) → make j = .ok a ∧ left = rest

/-- Changing the value that is read and the one that is made keeps them the same. -/
theorem Agrees.map {β : Type} {reader : List Char → Read (α × List Char)}
    {make : Json → Except Mismatch α} (h : Agrees reader make depth) (f : α → β) :
    Agrees (fun text => mapValue f (reader text)) (fun j => f <$> make j) depth := by
  intro text rest left b j hread htree
  obtain ⟨a, ha, rfl⟩ := exists_of_mapValue_eq_ok hread
  obtain ⟨hmake, hrest⟩ := h ha htree
  exact ⟨congrArg (f <$> ·) hmake, hrest⟩

/-! ### Strings, words and numbers -/

theorem eq_ok_of_lift {result : Except Mismatch α} {a : α} {text rest : List Char}
    (h : lift result text = .ok (a, rest)) : result = .ok a ∧ text = rest := by
  cases result with
  | error reason => cases h
  | ok found =>
    obtain ⟨rfl, rfl⟩ := Prod.mk.inj (Except.ok.inj h)
    exact ⟨rfl, rfl⟩

theorem exists_of_readVariantName {all : List α} {name : α → String} {a : α}
    {text rest : List Char} (h : readVariantName all name text = .ok (a, rest)) :
    ∃ s, readString variantWanted text = .ok (s, rest) ∧ variant all name s = .ok a := by
  obtain ⟨⟨s, behind⟩, hstring, h⟩ := exists_of_bind_eq_ok h
  obtain ⟨hvariant, rfl⟩ := eq_ok_of_lift h
  exact ⟨s, hstring, hvariant⟩

theorem exists_quote_of_readString {wanted s : String} {text rest : List Char}
    (h : readString wanted text = .ok (s, rest)) : ∃ quoted characters,
      skipSpace text = '"' :: quoted ∧ readText quoted = .ok (characters, rest) ∧
        String.ofList characters = s := by
  rw [readString] at h
  split at h
  · cases h
  · rename_i quoted heq
    obtain ⟨characters, htext, hs⟩ := exists_of_mapValue_eq_ok h
    exact ⟨quoted, characters, heq, htext, hs⟩
  · cases h

/-- What is read as a string is read as the tree of that string. -/
theorem readTree_of_readString {wanted s : String} {text rest : List Char}
    (h : readString wanted text = .ok (s, rest)) (depth : Nat) :
    readTree depth text = .ok (.string s, rest) := by
  obtain ⟨quoted, characters, heq, htext, rfl⟩ := exists_quote_of_readString h
  rw [← (skipsSpace_readTree depth).skipSpace_eq, heq, readTree_quote, htext]
  rfl

theorem readTree_of_readNull {text rest : List Char} (h : readNull text = .ok rest) (depth : Nat) :
    readTree depth text = .ok (.null, rest) := by
  rw [readNull] at h
  rw [← (skipsSpace_readTree depth).skipSpace_eq]
  split at h
  · cases h
  · rename_i heq
    rw [heq, readTree_null, h]
    rfl
  · cases h

theorem agrees_readNumberAs {accept : Number → Except Mismatch α} {make : Json → Except Mismatch α}
    (hmake : ∀ n, make (.number n) = accept n) (wanted : String) (depth : Nat) :
    Agrees (readNumberAs accept wanted) make depth := by
  -- The number is read in the same way, and it is judged in the same way.
  have hsame {outcome : Read (Number × List Char)} {rest left : List Char} {a : α} {j : Json}
      (hread : (outcome >>= fun found => lift (accept found.1) found.2) = .ok (a, rest))
      (htree : mapValue Json.number outcome = .ok (j, left)) : make j = .ok a ∧ left = rest := by
    obtain ⟨⟨n, behind⟩, rfl, hjudged⟩ := exists_of_bind_eq_ok hread
    obtain ⟨_, hn, rfl⟩ := exists_of_mapValue_eq_ok htree
    obtain ⟨rfl, rfl⟩ := Prod.mk.inj (Except.ok.inj hn)
    rw [hmake]
    exact eq_ok_of_lift hjudged
  intro text rest left a j hread htree
  rw [← (skipsSpace_readTree depth).skipSpace_eq] at htree
  rw [readNumberAs] at hread
  split at hread
  · cases hread
  · rename_i heq
    rw [heq, readTree_minus] at htree
    exact hsame hread htree
  · rename_i heq
    split at hread
    · rename_i hc
      rw [heq, readTree_digit hc] at htree
      exact hsame hread htree
    · cases hread

/-! ### Arrays -/

theorem readItemsFrom_agrees {item : List Char → Read (α × List Char)}
    {make : Json → Except Mismatch α} (h : Agrees item make depth) {bound : Nat} {first : Bool}
    {text rest left : List Char} {values : List α} {items : List Json}
    (hread : readItemsFrom item bound first text = .ok (values, rest))
    (htree : readItemsFrom (readTree depth) bound first text = .ok (items, left)) :
    items.mapM make = .ok values ∧ left = rest := by
  induction bound generalizing first text values items with
  | zero => cases hread
  | succ bound ih =>
    rcases readItemsFrom_cases hread with ⟨hnext, rfl⟩ |
        ⟨_, body, a, behind, others, hnext, ha, hothers, hbound, rfl⟩ <;>
      rcases readItemsFrom_cases htree with ⟨hnext', rfl⟩ |
        ⟨_, body', j, behind', trees, hnext', hj, htrees, hbound', rfl⟩
    case inl.inl =>
      exact ⟨rfl, Next.finished.inj (Except.ok.inj (hnext'.symm.trans hnext))⟩
    case inr.inr =>
      obtain rfl := Next.more.inj (Except.ok.inj (hnext.symm.trans hnext'))
      obtain rfl := Nat.succ.inj hbound
      obtain rfl := Nat.succ.inj hbound'
      obtain ⟨hmake, rfl⟩ := h ha hj
      obtain ⟨hrest, rfl⟩ := ih hothers htrees
      rw [List.mapM_cons, hmake, hrest]
      exact ⟨rfl, rfl⟩
    -- Both see the same text, so one does not go on where the other ends.
    all_goals cases hnext.symm.trans hnext'

/-- An array is read item by item. -/
theorem readArray_agrees {item : Nat → List Char → Read (α × List Char)}
    {make : Json → Except Mismatch α} (h : ∀ depth, Agrees (item depth) make depth)
    {wanted : String} {text rest left : List Char} {values : List α} {j : Json}
    (hread : readArray item wanted depth text = .ok (values, rest))
    (htree : readTree depth text = .ok (j, left)) :
    ∃ items, j = .array items ∧ items.mapM make = .ok values ∧ left = rest := by
  rw [← (skipsSpace_readTree depth).skipSpace_eq] at htree
  rw [readArray] at hread
  split at hread
  · cases hread
  · rename_i heq
    rw [heq] at htree
    obtain ⟨inner, items, rfl, rfl, hitems⟩ := exists_items_of_readTree htree
    exact ⟨items, rfl, readItemsFrom_agrees (h inner) hread hitems⟩
  · cases hread

/-! ### Names of variants -/

/-- An object of one member. -/
theorem readMembers_single {value : List Char → Read (Json × List Char)}
    {text quoted name after body behind rest : List Char} {j : Json}
    (hkey : skipSpace text = '"' :: quoted) (hname : readText quoted = .ok (name, after))
    (hcolon : readColon after = .ok body) (hvalue : value body = .ok (j, behind))
    (hclose : skipSpace behind = '}' :: rest) :
    readMembers (readTreeMember value) [] text = .ok ([(String.ofList name, j)], rest) := by
  have hfirst : nextKey true text = .ok (.more quoted) := by rw [nextKey, hkey]; rfl
  have hmember : readTreeMember value [] (String.ofList name) after =
      .ok ([(String.ofList name, j)], behind) := by
    rw [readTreeMember, hcolon]
    simp only [bind, Except.bind, hvalue]
    rfl
  have hlast : nextKey false behind = .ok (.finished rest) := by rw [nextKey, hclose]; rfl
  -- The text is not empty, so its length allows the member and the bracket.
  obtain ⟨c, more, rfl⟩ : ∃ c more, text = c :: more := by
    cases text with
    | nil => cases hkey
    | cons c more => exact ⟨c, more, rfl⟩
  rw [readMembers, List.length_cons, readMembersFrom, hfirst]
  simp only [bind, Except.bind, hname, hmember]
  rw [readMembersFrom, hlast]
  rfl

/-- A variant is its name, or an object with the name as its only key. -/
theorem agrees_readVariant {all : List α} {name : α → String} {make : Json → Except Mismatch α}
    (hstring : ∀ s, make (.string s) = variant all name s)
    (hobject : ∀ s, make (.object [(s, .null)]) = variant all name s) (depth : Nat) :
    Agrees (readVariant all name depth) make depth := by
  intro text rest left a j hread htree
  rw [← (skipsSpace_readTree depth).skipSpace_eq] at htree
  rw [readVariant] at hread
  split at hread
  · cases hread
  · rename_i heq
    rw [heq] at htree
    obtain ⟨s, hname, hvariant⟩ := exists_of_readVariantName hread
    obtain ⟨rfl, rfl⟩ :=
      Prod.mk.inj (Except.ok.inj ((readTree_of_readString hname depth).symm.trans htree))
    exact ⟨(hstring s).trans hvariant, rfl⟩
  · rename_i heq
    rw [heq] at htree
    obtain ⟨inner, members, rfl, rfl, hmembers⟩ := exists_members_of_readTree htree
    rw [if_neg (Nat.succ_ne_zero inner)] at hread
    obtain ⟨⟨a, after⟩, hname, hread⟩ := exists_of_bind_eq_ok hread
    obtain ⟨s, hname, hvariant⟩ := exists_of_readVariantName hname
    obtain ⟨body, hcolon, hread⟩ := exists_of_bind_eq_ok hread
    obtain ⟨behind, hnull, hread⟩ := exists_of_bind_eq_ok hread
    split at hread
    · cases hread
    · rename_i hclose
      obtain ⟨rfl, rfl⟩ := Prod.mk.inj (Except.ok.inj hread)
      obtain ⟨quoted, characters, hkey, htext, rfl⟩ := exists_quote_of_readString hname
      have hsingle := readMembers_single hkey htext hcolon (readTree_of_readNull hnull inner) hclose
      obtain ⟨rfl, rfl⟩ := Prod.mk.inj (Except.ok.inj (hsingle.symm.trans hmembers))
      exact ⟨(hobject _).trans hvariant, rfl⟩
    · cases hread
  · cases hread

/-! ### Objects and whole texts -/

/-- Two readers of one object whose states match before a member leave states that match. -/
def MembersAgree (Matches : σ → τ → Prop) (member : σ → String → List Char → Read (σ × List Char))
    (other : τ → String → List Char → Read (τ × List Char)) : Prop :=
  ∀ ⦃state next : σ⦄ ⦃state' next' : τ⦄ ⦃name : String⦄ ⦃text rest left : List Char⦄,
    Matches state state' → member state name text = .ok (next, rest) →
    other state' name text = .ok (next', left) → Matches next next' ∧ left = rest

theorem readMembersFrom_agrees {Matches : σ → τ → Prop}
    {member : σ → String → List Char → Read (σ × List Char)}
    {other : τ → String → List Char → Read (τ × List Char)} (h : MembersAgree Matches member other)
    {bound : Nat} {first : Bool} {text rest left : List Char} {state final : σ} {state' final' : τ}
    (hstate : Matches state state')
    (hread : readMembersFrom member bound first state text = .ok (final, rest))
    (hother : readMembersFrom other bound first state' text = .ok (final', left)) :
    Matches final final' ∧ left = rest := by
  induction bound generalizing first text state state' with
  | zero => cases hread
  | succ bound ih =>
    rcases readMembersFrom_cases hread with ⟨hnext, rfl⟩ |
        ⟨_, key, name, after, next, behind, hnext, hname, hmember, hmembers, hbound⟩ <;>
      rcases readMembersFrom_cases hother with ⟨hnext', rfl⟩ |
        ⟨_, key', name', after', next', behind', hnext', hname', hmember', hmembers', hbound'⟩
    case inl.inl =>
      exact ⟨hstate, Next.finished.inj (Except.ok.inj (hnext'.symm.trans hnext))⟩
    case inr.inr =>
      obtain rfl := Next.more.inj (Except.ok.inj (hnext.symm.trans hnext'))
      obtain ⟨rfl, rfl⟩ := Prod.mk.inj (Except.ok.inj (hname.symm.trans hname'))
      obtain rfl := Nat.succ.inj hbound
      obtain rfl := Nat.succ.inj hbound'
      obtain ⟨hmatch, rfl⟩ := h hstate hmember hmember'
      exact ih hmatch hmembers hmembers'
    all_goals cases hnext.symm.trans hnext'

/-- A whole text that is read directly is read as the same value through its tree. -/
theorem Agrees.readWhole {reader : List Char → Read (α × List Char)}
    {make : Json → Except Mismatch α} (h : Agrees reader make depth) {text : List Char} {a : α}
    {j : Json} (hread : readWhole reader text = .ok a)
    (htree : Json.readWhole (readTree depth) text = .ok j) : make j = .ok a := by
  obtain ⟨_, ha, -⟩ := readWhole_eq_ok_iff.1 hread
  obtain ⟨_, hj, -⟩ := readWhole_eq_ok_iff.1 htree
  exact (h ha hj).1

end SeriesQuery.Json
