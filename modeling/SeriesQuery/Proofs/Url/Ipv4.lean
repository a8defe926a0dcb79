import SeriesQuery.Proofs.Number.Integer
import SeriesQuery.Proofs.Text.Split
import SeriesQuery.Url.Ipv4

/-!
# IPv4 addresses read back

An address is written as four decimal bytes. Its last part is a number, so the text can only be an
address, and it is read as the same word.
-/

namespace SeriesQuery.Ipv4

/-- The byte that has `k` bytes behind it. -/
def byte (a : Ipv4) (k : Nat) : Nat := a.word.toNat / 256 ^ k % 256

def bytes (a : Ipv4) : List Nat := [a.byte 3, a.byte 2, a.byte 1, a.byte 0]

theorem byte_lt (a : Ipv4) (k : Nat) : a.byte k < 256 := Nat.mod_lt _ (by decide)

theorem text_eq (a : Ipv4) : a.text = ['.'].intercalate (a.bytes.map decimal) := by
  simp [text, bytes, byte, List.intercalate]

theorem isDigit_of_mem_decimal {n : Nat} {c : Char} (h : c ∈ decimal n) : isDigit c :=
  isDigit_of_mem_toDigits h

theorem splitAll_text (a : Ipv4) : splitAll (· == '.') a.text = a.bytes.map decimal := by
  rw [text_eq]
  apply splitAll_intercalate rfl (by simp [bytes])
  intro piece hpiece c hc
  obtain ⟨n, -, rfl⟩ := List.mem_map.1 hpiece
  simpa using isDigit_ne (isDigit_of_mem_decimal hc) (rfl : isDigit '.' = false)

theorem isDigit_of_mem_text {a : Ipv4} : ∀ c ∈ a.text, isDigit c ∨ c = '.' := by
  rw [text_eq]
  apply @forall_mem_intercalate (fun c => isDigit c ∨ c = '.') '.' (.inr rfl)
  intro piece hpiece c hc
  obtain ⟨n, -, rfl⟩ := List.mem_map.1 hpiece
  exact .inl (isDigit_of_mem_decimal hc)

theorem decimal_ne_nil (n : Nat) : decimal n ≠ [] := Nat.toDigits_ne_nil

theorem parts_text (a : Ipv4) : parts a.text = a.bytes.map decimal := by
  have hlast : (a.bytes.map decimal).getLast? = some (decimal (a.byte 0)) := rfl
  rw [parts, splitAll_text, hlast]
  split
  · rename_i hnil
    exact absurd (Option.some.inj hnil) (decimal_ne_nil _)
  · rfl

theorem isIntended_text (a : Ipv4) : isIntended a.text := by
  have hlast : (a.bytes.map decimal).getLast? = some (decimal (a.byte 0)) := rfl
  have hdigits : (decimal (a.byte 0)).all fun c => (digitValue? c).isSome := by
    apply List.all_eq_true.2
    intro c hc
    rw [digitValue?_of_isDigit (isDigit_of_mem_decimal hc)]
    rfl
  have hne : (decimal (a.byte 0)).isEmpty = false := by
    simpa using decimal_ne_nil (a.byte 0)
  rw [isIntended, parts_text, hlast]
  simp only [hne, hdigits, Bool.not_false, Bool.and_self, Bool.true_or]

theorem text_ne_nil (a : Ipv4) : a.text ≠ [] := by
  intro hnil
  have hintended := isIntended_text a
  rw [hnil] at hintended
  exact absurd hintended (by decide)

theorem number?_decimal {n : Nat} (h : n < 256) : number? (decimal n) = some n := by
  have hall : ∀ n < 256, number? (decimal n) = some n := by decide +kernel
  exact hall n h

theorem mapM_number? (a : Ipv4) : (a.bytes.map decimal).mapM number? = some a.bytes := by
  simp [bytes, number?_decimal, byte_lt]

theorem wordOfNumbers?_bytes (a : Ipv4) : wordOfNumbers? a.bytes = some a.word.toNat := by
  have hword := a.word.toNat_lt
  have hlast := a.byte_lt 0
  simp only [bytes, wordOfNumbers?, List.dropLast, List.length_cons, List.length_nil,
    List.all_cons, List.all_nil, List.getLast?_cons_cons, List.getLast?_singleton,
    Option.getD_some, List.foldl_cons, List.foldl_nil, byte_lt, decide_true]
  simp only [byte] at hlast ⊢
  simp
  omega

theorem parse?_text (a : Ipv4) : parse? a.text = some a := by
  simp only [parse?, parts_text, mapM_number?, wordOfNumbers?_bytes, Option.bind_eq_bind,
    Option.bind_some, UInt32.ofNat_toNat]
  rfl

end SeriesQuery.Ipv4
