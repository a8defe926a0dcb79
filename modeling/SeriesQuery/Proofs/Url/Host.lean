import SeriesQuery.Proofs.Url.Domain.Label
import SeriesQuery.Proofs.Url.Ipv4
import SeriesQuery.Proofs.Url.Ipv6
import SeriesQuery.Url.Host

/-!
# Hosts read back

The text of a host holds no percent sign and no mark of an address, and it is read as the same host:
an address always, and a domain name unless one of its labels has more digits of Punycode than are
read.
-/

namespace SeriesQuery

theorem Percent.decode_of_not_mem {text : List Char} (h : '%' ∉ text) :
    Percent.decode text = Utf8.encode text := by
  induction text with
  | nil => rfl
  | cons c rest ih =>
    rw [List.mem_cons, not_or] at h
    rw [Percent.decode, ih h.2]
    · exact (Utf8.encode_append [c] rest).symm
    · intro high low after hc
      exact absurd hc.symm h.1

namespace Host

/-- What every host that is read keeps. -/
def IsAllowed : Host → Prop
  | domain name => name ≠ [] ∧ ∀ c ∈ name, Domain.isForbidden c = false
  | ipv4 _ | ipv6 _ => True

/-- No label in Punycode is longer than what is read. -/
def FitsLimit (host : Host) : Prop :=
  ∀ label ∈ splitAll (· == '.') host.text, Domain.FitsLimit label

instance (host : Host) : Decidable host.FitsLimit :=
  inferInstanceAs (Decidable (∀ label ∈ splitAll (· == '.') host.text, Domain.FitsLimit label))

variable {text : List Char} {host : Host}

theorem ofBrackets_eq_ok (h : ofBrackets text = .ok host) : ∃ address, host = ipv6 address := by
  rw [ofBrackets] at h
  split at h
  · split at h
    · exact ⟨_, (Except.ok.inj h).symm⟩
    · cases h
  · cases h

theorem ofDomain_eq_ok {name : List Char} (h : ofDomain name = .ok host) :
    (∃ address, host = ipv4 address) ∨
      host = domain name ∧ name ≠ [] ∧ Ipv4.isIntended name = false := by
  rw [ofDomain] at h
  split at h
  · cases h
  rename_i hne
  split at h
  · split at h
    · exact .inl ⟨_, (Except.ok.inj h).symm⟩
    · cases h
  · rename_i hintended
    exact .inr ⟨(Except.ok.inj h).symm, by simpa using hne, by simpa using hintended⟩

theorem parse_eq_ok (h : parse text = .ok host) :
    (∃ address, host = ipv6 address) ∨
      ∃ name ascii, Domain.toAscii? name = some ascii ∧ ofDomain ascii = .ok host := by
  unfold parse at h
  split at h
  · exact .inl (ofBrackets_eq_ok h)
  · split at h
    · cases h
    split at h
    · cases h
    · rename_i hascii
      exact .inr ⟨_, _, hascii, h⟩

theorem isAllowed_of_parse (h : parse text = .ok host) : host.IsAllowed := by
  rcases parse_eq_ok h with ⟨address, rfl⟩ | ⟨name, ascii, hascii, hdomain⟩
  · trivial
  · rcases ofDomain_eq_ok hdomain with ⟨address, rfl⟩ | ⟨rfl, hne, -⟩
    · trivial
    · exact ⟨hne, (Domain.toAscii?_eq_some_iff.1 hascii).2⟩

/-! ### Characters -/

theorem plain_of_isDigit_or_dot {c : Char} (h : isDigit c ∨ c = '.') :
    Punycode.isBasic c ∧ c.toLower = c ∧ Domain.isForbidden c = false ∧ c ≠ 'x' := by
  have hascii : c.toNat < 0x80 := by
    rcases h with h | rfl
    · have hbounds := isDigit_iff_toNat.1 h
      omega
    · decide
  have hplain : isDigit c ∨ c = '.' → Punycode.isBasic c ∧ c.toLower = c ∧
      Domain.isForbidden c = false ∧ c ≠ 'x' := Utf8.forall_ascii hascii (by decide +kernel)
  exact hplain h

/-- Only in brackets is there a character that a name cannot have. -/
theorem text_cases (h : host.IsAllowed) :
    (∀ c ∈ host.text, Domain.isForbidden c = false) ∨ ∃ address, host = ipv6 address := by
  cases host with
  | domain name => exact .inl h.2
  | ipv4 address =>
    exact .inl fun c hc => (plain_of_isDigit_or_dot (Ipv4.isDigit_of_mem_text c hc)).2.2.1
  | ipv6 address => exact .inr ⟨address, rfl⟩

theorem text_ne_nil (h : host.IsAllowed) : host.text ≠ [] := by
  cases host with
  | domain name => exact h.1
  | ipv4 address => exact address.text_ne_nil
  | ipv6 address => exact List.cons_ne_nil _ _

/-! ### Reading back -/

/-- A name that is written as itself is read as itself. -/
theorem parse_of_toAscii? {name : List Char} (h : Domain.toAscii? name = some name) :
    parse name = ofDomain name := by
  have hallowed := (Domain.toAscii?_eq_some_iff.1 h).2
  have hpercent : '%' ∉ name := fun hmem => absurd (hallowed '%' hmem) (by decide)
  have hbracket : '[' ∉ name := fun hmem => absurd (hallowed '[' hmem) (by decide)
  unfold parse
  split
  · exact absurd List.mem_cons_self hbracket
  · rw [Percent.decode_of_not_mem hpercent, Utf8.decode_encode]
    simp only [h]

theorem toAscii?_ipv4 (address : Ipv4) : Domain.toAscii? address.text = some address.text := by
  have hchar : ∀ c ∈ address.text, _ :=
    fun c hc => plain_of_isDigit_or_dot (Ipv4.isDigit_of_mem_text c hc)
  have hlower := Domain.map_toLower_eq_self fun c hc => (hchar c hc).2.1
  have hbasic : address.text.all Punycode.isBasic :=
    List.all_eq_true.2 fun c hc => (hchar c hc).1
  have hlabels : (splitAll (· == '.') address.text).any Domain.isPunycode = false := by
    apply List.any_eq_false.2
    intro label hlabel hmark
    obtain ⟨rest, rfl⟩ := List.isPrefixOf_iff_prefix.1 hmark
    obtain ⟨-, hmem⟩ := of_mem_splitAll hlabel (List.mem_append_left rest List.mem_cons_self)
    exact (hchar 'x' hmem).2.2.2 rfl
  refine Domain.toAscii?_eq_some_iff.2 ⟨.inl ⟨?_, hlower⟩, fun c hc => (hchar c hc).2.2.1⟩
  rw [hlower, Domain.isPlain, hbasic, hlabels]
  rfl

theorem ofDomain_ipv4 (address : Ipv4) : ofDomain address.text = .ok (ipv4 address) := by
  have hne : address.text.isEmpty = false := by simpa using address.text_ne_nil
  rw [ofDomain, hne, Ipv4.isIntended_text, Ipv4.parse?_text]
  rfl

theorem ofBrackets_ipv6 (address : Ipv6) :
    ofBrackets (address.text ++ [']']) = .ok (ipv6 address) := by
  rw [ofBrackets, List.getLast?_concat, List.dropLast_concat, Ipv6.parse?_text]
  rfl

/-- A host is read from its own text. -/
theorem parse_text (h : parse text = .ok host) (hlimit : host.FitsLimit) :
    parse host.text = .ok host := by
  rcases parse_eq_ok h with ⟨address, rfl⟩ | ⟨name, ascii, hascii, hdomain⟩
  · exact ofBrackets_ipv6 address
  · rcases ofDomain_eq_ok hdomain with ⟨address, rfl⟩ | ⟨rfl, -, -⟩
    · exact (parse_of_toAscii? (toAscii?_ipv4 address)).trans (ofDomain_ipv4 address)
    · exact (parse_of_toAscii? (Domain.toAscii?_ascii hascii hlimit)).trans hdomain

end Host

end SeriesQuery
