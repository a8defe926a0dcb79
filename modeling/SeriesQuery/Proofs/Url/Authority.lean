import SeriesQuery.Proofs.Url.Host
import SeriesQuery.Proofs.Url.UserInfo
import SeriesQuery.Url.Authority

/-!
# Authorities read back

User info ends at the last at sign, a host at the first colon outside brackets, and an authority at
a slash. None of these marks stands within the parts as they are written, so the parts are found
again.
-/

namespace SeriesQuery

theorem Url.Authority.isEnd_of_ne {c : Char} (hslash : c ≠ '/') (hback : c ≠ '\\')
    (hquery : c ≠ '?') (hfragment : c ≠ '#') : isEnd true c = false := by
  simp [isEnd, isSlash, hslash, hback, hquery, hfragment]

/-- A character that may stand behind user info. -/
def IsPlaceChar (c : Char) : Prop :=
  0x20 < c.toNat ∧ c ≠ '@' ∧ Url.Authority.isEnd true c = false

instance (c : Char) : Decidable (IsPlaceChar c) :=
  inferInstanceAs (Decidable (0x20 < c.toNat ∧ c ≠ '@' ∧ Url.Authority.isEnd true c = false))

theorem isPlaceChar_of_not_isForbidden {c : Char} (h : Domain.isForbidden c = false) :
    IsPlaceChar c := by
  have hne (mark : Char) (hmark : Domain.isForbidden mark) : c ≠ mark :=
    ne_of_class h hmark
  refine ⟨?_, hne '@' rfl,
    Url.Authority.isEnd_of_ne (hne '/' rfl) (hne '\\' rfl) (hne '?' rfl) (hne '#' rfl)⟩
  by_contra hle
  have hforbidden : Domain.isForbidden c := by
    simp only [Domain.isForbidden, decide_eq_true (Nat.le_of_not_lt hle), Bool.true_or]
  exact hne c hforbidden rfl

theorem Ipv6.isPlaceChar_of_mem_text {a : Ipv6} {c : Char} (h : c ∈ a.text) : IsPlaceChar c := by
  rcases isGroupChar_of_mem_text h with ⟨d, hd, rfl⟩ | rfl
  · have hall : ∀ d < 16, IsPlaceChar d.digitChar := by decide
    exact hall d hd
  · decide

theorem Host.isPlaceChar_of_mem_text {host : Host} (h : host.IsAllowed) {c : Char}
    (hc : c ∈ host.text) : IsPlaceChar c := by
  rcases text_cases h with hallowed | ⟨address, rfl⟩
  · exact isPlaceChar_of_not_isForbidden (hallowed c hc)
  · simp only [text, List.mem_append, List.mem_cons, List.not_mem_nil, or_false] at hc
    rcases hc with (rfl | hc) | rfl
    · decide
    · exact Ipv6.isPlaceChar_of_mem_text hc
    · decide

theorem Url.Authority.isPlaceChar_of_mem_portText {port : Option UInt16} {c : Char}
    (h : c ∈ portText port) : IsPlaceChar c := by
  cases port with
  | none => cases h
  | some port =>
    rcases List.mem_cons.1 h with rfl | hdigit
    · decide
    · exact isPlaceChar_of_not_isForbidden
        (Host.plain_of_isDigit_or_dot (.inl (isDigit_of_mem_toDigits hdigit))).2.2.1

namespace Url.Authority

/-! ### The parts -/

theorem splitHost_append {inBrackets : Bool} {front : List Char}
    (h : ∀ c ∈ front, c ≠ '[' ∧ c ≠ ']' ∧ (inBrackets = false → c ≠ ':')) (rest : List Char) :
    splitHost inBrackets (front ++ rest) =
      (front ++ (splitHost inBrackets rest).1, (splitHost inBrackets rest).2) := by
  induction front with
  | nil => rfl
  | cons c front ih =>
    obtain ⟨⟨hopen, hclose, hcolon⟩, hfront⟩ := List.forall_mem_cons.1 h
    have hinside : ¬(c = ':' && !inBrackets) = true := by
      cases inBrackets <;> simp_all
    rw [List.cons_append, splitHost, if_neg hinside]
    simp only [hopen, hclose, if_false, ih hfront, List.cons_append]

theorem splitHost_portText (port : Option UInt16) :
    splitHost false (portText port) = ([], portText port) := by
  cases port <;> rfl

theorem splitHost_text {host : Host} (h : host.IsAllowed) (port : Option UInt16) :
    splitHost false (host.text ++ portText port) =
      (host.text, portText port) := by
  rcases Host.text_cases h with hallowed | ⟨address, rfl⟩
  · have houtside : ∀ c ∈ host.text, c ≠ '[' ∧ c ≠ ']' ∧ (false = false → c ≠ ':') := by
      intro c hc
      have hne (mark : Char) (hmark : Domain.isForbidden mark) : c ≠ mark :=
        ne_of_class (hallowed c hc) hmark
      exact ⟨hne '[' rfl, hne ']' rfl, fun _ => hne ':' rfl⟩
    rw [splitHost_append houtside, splitHost_portText, List.append_nil]
  · have hinside : ∀ c ∈ address.text, c ≠ '[' ∧ c ≠ ']' ∧ (true = false → c ≠ ':') := by
      intro c hc
      rcases Ipv6.isGroupChar_of_mem_text hc with hgroup | rfl
      · exact ⟨hgroup.ne (by decide), hgroup.ne (by decide), fun h => absurd h (by decide)⟩
      · decide
    have hclose : splitHost true (']' :: portText port) =
        ([']'], portText port) := by
      simp [splitHost, splitHost_portText]
    have htext : (Host.ipv6 address).text ++ portText port =
        '[' :: (address.text ++ (']' :: portText port)) := by
      simp [Host.text]
    have hopen := splitHost_append hinside (']' :: portText port)
    rw [hclose] at hopen
    rw [htext, splitHost, if_neg (by decide)]
    simp [hopen, Host.text]

theorem portOf_portText (port : Option UInt16) : portOf (portText port) = .ok port := by
  cases port with
  | none => rfl
  | some port =>
    obtain ⟨c, rest, hdigits, -⟩ := exists_toDigits_cons port.toNat
    have hread : Radix.decimal.boundedDigits 65535 .tooLarge 0 (Nat.toDigits 10 port.toNat) =
        .ok port.toNat :=
      boundedDigits_toDigits .tooLarge (by have := port.toNat_lt; omega)
    rw [hdigits] at hread
    simp only [portText, portOf, hdigits, portOfDigits, hread, UInt16.ofNat_toNat]

theorem splitUserInfo_text {u : UserInfo} (h : u.Encoded) {place : List Char}
    (hplace : '@' ∉ place) (hne : place ≠ []) (rest : List Char) :
    splitUserInfo (u.text ++ place) rest = .ok (u, place) := by
  by_cases hnone : u = .none
  · rw [hnone, UserInfo.text_none, List.nil_append, splitUserInfo, splitLast?_eq_none hplace]
  · have htext : u.text ++ place = u.front ++ '@' :: place := by
      rw [UserInfo.text_of_ne_none hnone, List.append_assoc, List.singleton_append]
    rw [htext, splitUserInfo, splitLast?_append u.front hplace]
    split
    · rename_i hnil
      cases hnil
    · rename_i hparts
      obtain ⟨-, rfl⟩ := Prod.mk.inj (Option.some.inj hparts)
      contradiction
    · rename_i hparts
      obtain ⟨rfl, rfl⟩ := Prod.mk.inj (Option.some.inj hparts)
      rw [UserInfo.parse_front h]

/-! ### The whole -/

/-- What every authority of a special scheme that is read keeps. -/
structure IsWritten (a : Authority) : Prop where
  userInfo : a.userInfo.Encoded
  host : ∃ text, Host.parse text = .ok a.host

theorem encoded_of_splitUserInfo {text rest place : List Char} {u : UserInfo}
    (h : splitUserInfo text rest = .ok (u, place)) : u.Encoded := by
  rw [splitUserInfo] at h
  split at h
  · obtain ⟨rfl, -⟩ := Prod.mk.inj (Except.ok.inj h)
    exact UserInfo.encoded_none
  · split at h
    · obtain ⟨rfl, -⟩ := Prod.mk.inj (Except.ok.inj h)
      exact UserInfo.encoded_none
    · cases h
  · obtain ⟨rfl, -⟩ := Prod.mk.inj (Except.ok.inj h)
    exact UserInfo.encoded_parse _

theorem isWritten_of_parseSpecial {text rest : List Char} {a : Authority}
    (h : parseSpecial text = .ok (a, rest)) : a.IsWritten := by
  rw [parseSpecial] at h
  obtain ⟨⟨u, place⟩, hparts, h⟩ := exists_of_bind_eq_ok h
  simp only at h
  split at h
  · cases h
  obtain ⟨host, hhost, h⟩ := exists_of_bind_eq_ok h
  obtain ⟨port, -, h⟩ := exists_of_bind_eq_ok h
  obtain ⟨rfl, -⟩ := Prod.mk.inj (Except.ok.inj h)
  exact ⟨encoded_of_splitUserInfo hparts, _, hhost⟩

variable {a : Authority}

theorem IsWritten.isAllowed (h : a.IsWritten) : a.host.IsAllowed := by
  obtain ⟨text, htext⟩ := h.host
  exact Host.isAllowed_of_parse htext

theorem isPlaceChar_of_mem_place (h : a.IsWritten) {c : Char}
    (hc : c ∈ a.host.text ++ portText a.port) : IsPlaceChar c := by
  rcases List.mem_append.1 hc with hc | hc
  · exact Host.isPlaceChar_of_mem_text h.isAllowed hc
  · exact isPlaceChar_of_mem_portText hc

theorem of_mem_text (h : a.IsWritten) {c : Char} (hc : c ∈ a.text) :
    0x20 < c.toNat ∧ isEnd true c = false := by
  rcases List.mem_append.1 hc with hc | hc
  · rcases UserInfo.isWritten_of_mem_text h.userInfo hc with hwritten | rfl | rfl
    · have hne (mark : Char) (hmark : UserInfo.isReserved mark) : c ≠ mark :=
        UserInfo.ne_of_isWritten hwritten hmark
      exact ⟨UserInfo.lt_of_isWritten hwritten,
        isEnd_of_ne (hne '/' rfl) (hne '\\' rfl) (hne '?' rfl) (hne '#' rfl)⟩
    · decide
    · decide
  · have hplace := isPlaceChar_of_mem_place h hc
    exact ⟨hplace.1, hplace.2.2⟩

theorem text_ne_nil (h : a.IsWritten) : a.text ≠ [] := by
  have hhost := Host.text_ne_nil h.isAllowed
  simp [text, hhost]

theorem parseSpecial_text (h : a.IsWritten) (hlimit : a.host.FitsLimit) {rest : List Char}
    (hrest : StopsAt (fun c => !isEnd true c) rest) :
    parseSpecial (a.text ++ rest) = .ok (a, rest) := by
  obtain ⟨text, hhost⟩ := h.host
  have hinside : ∀ c ∈ a.text, (!isEnd true c) = true := by
    intro c hc
    rw [(of_mem_text h hc).2]
    rfl
  obtain ⟨htake, hdrop⟩ := span_append hinside hrest
  have hat : '@' ∉ a.host.text ++ portText a.port :=
    fun hmem => (isPlaceChar_of_mem_place h hmem).2.1 rfl
  have hne : a.host.text ≠ [] := Host.text_ne_nil h.isAllowed
  have hplace : a.host.text ++ portText a.port ≠ [] := by simp [hne]
  have hempty : a.host.text.isEmpty = false := by simpa using hne
  rw [parseSpecial, htake, hdrop, Authority.text, splitUserInfo_text h.userInfo hat hplace]
  simp only [ok_bind, splitHost_text h.isAllowed, hempty, Bool.false_eq_true, if_false,
    Host.parse_text hhost hlimit, portOf_portText]
  rfl

end Url.Authority

end SeriesQuery
