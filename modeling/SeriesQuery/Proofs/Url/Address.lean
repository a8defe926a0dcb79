import SeriesQuery.Proofs.Url.Authority
import SeriesQuery.Url.Address

/-!
# Addresses read back

An address of the web that is put together from its parts is taken apart to the same parts. The
default port of its scheme is none of them, because it is dropped wherever an address is read.
-/

namespace SeriesQuery.Url

theorem WebScheme.ofName?_name (scheme : WebScheme) : ofName? scheme.name = some scheme := by
  cases scheme <;> rfl

namespace Address

/-- The scheme in lower case. -/
def schemeName : Address → List Char
  | .web address => address.scheme.name
  | .other scheme => scheme

theorem ofName?_of_parse_other {text scheme : List Char} (h : parse text = .ok (.other scheme)) :
    WebScheme.ofName? scheme = none := by
  rw [parse] at h
  split at h
  · cases h
  split at h
  · obtain ⟨address, -, hweb⟩ := exists_of_map_eq_ok h
    cases hweb
  · rename_i hnone
    obtain ⟨-, -, hother⟩ := exists_of_map_eq_ok h
    obtain rfl := Address.other.inj hother
    exact hnone

/-- What every address of the web that is read keeps. -/
structure IsWritten (address : WebAddress) : Prop where
  authority : address.authority.IsWritten
  port : address.authority.port ≠ some address.scheme.defaultPort

theorem isWritten_of_parseWeb {scheme : WebScheme} {text : List Char} {address : WebAddress}
    (h : parseWeb scheme text = .ok address) : IsWritten address := by
  rw [parseWeb] at h
  obtain ⟨⟨authority, rest⟩, hparts, h⟩ := exists_of_bind_eq_ok h
  have hwritten := Authority.isWritten_of_parseSpecial hparts
  obtain rfl := Except.ok.inj h
  refine ⟨⟨hwritten.userInfo, hwritten.host⟩, ?_⟩
  simp only
  split
  · simp
  · assumption

theorem isWritten_of_parse {text : List Char} {address : WebAddress}
    (h : parse text = .ok (.web address)) : IsWritten address := by
  rw [parse] at h
  split at h
  · cases h
  split at h
  · obtain ⟨found, hfound, hweb⟩ := exists_of_map_eq_ok h
    obtain rfl := Address.web.inj hweb
    exact isWritten_of_parseWeb hfound
  · obtain ⟨-, -, hother⟩ := exists_of_map_eq_ok h
    cases hother

/-! ### Reading back -/

theorem dropWhile_eq_self {inside : Char → Bool} {text : List Char}
    (h : ∀ c ∈ text, inside c = false) : text.dropWhile inside = text := by
  cases text with
  | nil => rfl
  | cons c rest => simp [h c List.mem_cons_self]

/-- Nothing is left out of a text without control characters and spaces. -/
theorem clean_eq_self {text : List Char} (h : ∀ c ∈ text, 0x20 < c.toNat) : clean text = text := by
  have hinner : ∀ c ∈ text, isMargin c = false := by
    intro c hc
    have hlow := h c hc
    simp [isMargin]
    omega
  have hreverse : ∀ c ∈ text.reverse, isMargin c = false :=
    fun c hc => hinner c (List.mem_reverse.1 hc)
  simp only [clean, dropWhile_eq_self hinner, dropWhile_eq_self hreverse, List.reverse_reverse]
  apply List.filter_eq_self.2
  intro c hc
  have hlow := h c hc
  have hne (mark : Char) (hmark : mark.toNat ≤ 0x20) : c ≠ mark := by
    rintro rfl
    omega
  simp [hne '\t' (by decide), hne '\n' (by decide), hne '\r' (by decide)]

theorem splitScheme?_name (scheme : WebScheme) (rest : List Char) :
    splitScheme? (scheme.name ++ ':' :: rest) = some (scheme.name, rest) := by
  have hcolon : ':' ∉ scheme.name := by cases scheme <;> decide
  rw [splitScheme?, splitFirst?_append hcolon]
  cases scheme <;> rfl

theorem skipSlashes_append {rest : List Char} (h : StopsAt (Authority.isSlash true) rest) :
    skipSlashes ('/' :: '/' :: rest) = rest := by
  have hslashes : ∀ c ∈ ['/', '/'], Authority.isSlash true c := List.all_eq_true.1 rfl
  exact (span_append hslashes h).2

theorem parseWeb_text {address : WebAddress} (h : IsWritten address)
    (hlimit : address.authority.host.FitsLimit) (path : List Char) :
    parseWeb address.scheme ('/' :: '/' :: (address.authority.text ++ '/' :: path)) =
      .ok { address with path := Path.parse ('/' :: path) } := by
  have hstop : StopsAt (Authority.isSlash true) (address.authority.text ++ '/' :: path) := by
    obtain ⟨c, rest, htext⟩ := List.exists_cons_of_ne_nil (Authority.text_ne_nil h.authority)
    have hc : c ∈ address.authority.text := by
      rw [htext]
      exact List.mem_cons_self
    have hend := (Authority.of_mem_text h.authority hc).2
    simp only [Authority.isEnd, Bool.or_eq_false_iff] at hend
    rw [htext]
    intro d hd
    obtain rfl := Option.some.inj hd
    exact hend.1.1
  have hend : StopsAt (fun c => !Authority.isEnd true c) ('/' :: path) := by
    intro c hc
    obtain rfl := Option.some.inj hc
    rfl
  rw [parseWeb, skipSlashes_append hstop, Authority.parseSpecial_text h.authority hlimit hend]
  simp only [ok_bind, h.port, if_false]
  rfl

theorem lt_of_all {text : List Char} (h : text.all fun c => 0x20 < c.toNat) :
    ∀ c ∈ text, 0x20 < c.toNat := by
  simpa using h

/-- An address with a path is read from its scheme, its authority and the text of the path. -/
theorem parse_text {address : WebAddress} (h : IsWritten address)
    (hlimit : address.authority.host.FitsLimit) {path : List Char}
    (hpath : ∀ c ∈ path, 0x20 < c.toNat) :
    parse (address.scheme.name ++ ':' :: '/' :: '/' :: (address.authority.text ++ '/' :: path)) =
      .ok (.web { address with path := Path.parse ('/' :: path) }) := by
  have hclean : ∀ c ∈ address.scheme.name ++
      ':' :: '/' :: '/' :: (address.authority.text ++ '/' :: path), 0x20 < c.toNat := by
    have hscheme : ∀ c ∈ address.scheme.name, 0x20 < c.toNat :=
      lt_of_all (by cases address.scheme <;> rfl)
    have hauthority : ∀ c ∈ address.authority.text, 0x20 < c.toNat :=
      fun c hc => (Authority.of_mem_text h.authority hc).1
    simp only [List.forall_mem_append, List.forall_mem_cons]
    exact ⟨hscheme, by decide, by decide, by decide, hauthority, by decide, hpath⟩
  rw [parse, clean_eq_self hclean, splitScheme?_name]
  simp only [WebScheme.ofName?_name, parseWeb_text h hlimit]
  rfl

end Address

end SeriesQuery.Url
