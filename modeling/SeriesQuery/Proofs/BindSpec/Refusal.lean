import SeriesQuery.Proofs.BindSpec.Reading
import SeriesQuery.Proofs.Instant.Grammar

/-!
# Refused bind specs

A spec that has no name, no type or no known type is refused as wrong usage. Every other spec is a
binding, which is refused only for a value that its type does not accept, and then with an error of
encoding. An error about the type or the value tells the name. A date is accepted with any byte between
the day and the time of day, so some values are bound that are no RFC 3339 texts.
-/

namespace SeriesQuery

namespace BindType

variable {type : BindType} {value : List Char} {e : Error}

/-- The values of a type. White space around a value does not count. A time is an integer, or an
RFC 3339 text in which any byte may stand in the place of the letter T. -/
def Accepts (type : BindType) (value : List Char) : Prop :=
  match type with
  | str | null => True
  | int => ∃ i : Int32, WritesInteger (trim value) i.toInt
  | long => ∃ v : Int64, WritesInteger (trim value) v.toInt
  | float | double => ∃ literal, WritesFloat (trim value) literal
  | bool => trim value = "true".toList ∨ trim value = "false".toList
  | ts => (∃ millis : Int64, WritesInteger (trim value) millis.toInt) ∨
      Rfc3339.IsDateTime (Utf8.encode (trim value))
  | raw => ∃ digits, (trim value = digits ∨ trim value = '0' :: 'x' :: digits) ∧
      digits.length % 2 = 0 ∧ ∀ c ∈ digits, IsHexDigit c

theorem Denotes.accepts {c : Cell} (h : Denotes type value c) : type.Accepts value := by
  cases h with
  | str | null => trivial
  | int hwritten | long hwritten => exact ⟨_, hwritten⟩
  | float hliteral | double hliteral => exact ⟨_, FloatLiteral.parse_eq_ok_iff.1 hliteral⟩
  | @bool _ b hb =>
    cases b
    · exact .inr hb
    · exact .inl hb
  | millis hwritten => exact .inl ⟨_, hwritten⟩
  | date ht => exact .inr (Rfc3339.exists_parse_eq_ok_iff.1 ⟨_, ht⟩)
  | raw hdigits htrim =>
    exact ⟨_, htrim, Bytes.exists_ofHexDigits?_iff.1 ⟨_, Bytes.ofHexDigits?_eq_some_iff.2 hdigits⟩⟩

theorem Accepts.exists_denotes (h : type.Accepts value) : ∃ c, Denotes type value c := by
  cases type with
  | str => exact ⟨_, .str value⟩
  | int =>
    obtain ⟨i, hwritten⟩ := h
    exact ⟨_, .int hwritten⟩
  | long =>
    obtain ⟨v, hwritten⟩ := h
    exact ⟨_, .long hwritten⟩
  | float =>
    obtain ⟨literal, hliteral⟩ := h
    exact ⟨_, .float (FloatLiteral.parse_eq_ok_iff.2 hliteral)⟩
  | double =>
    obtain ⟨literal, hliteral⟩ := h
    exact ⟨_, .double (FloatLiteral.parse_eq_ok_iff.2 hliteral)⟩
  | bool =>
    rcases h with htrue | hfalse
    · exact ⟨_, @Denotes.bool _ true htrue⟩
    · exact ⟨_, @Denotes.bool _ false hfalse⟩
  | ts =>
    rcases h with ⟨millis, hwritten⟩ | hdate
    · exact ⟨_, .millis hwritten⟩
    · obtain ⟨t, ht⟩ := Rfc3339.exists_parse_eq_ok_iff.2 hdate
      exact ⟨_, .date ht⟩
  | raw =>
    obtain ⟨digits, htrim, hdigits⟩ := h
    obtain ⟨bytes, hbytes⟩ := Bytes.exists_ofHexDigits?_iff.2 hdigits
    exact ⟨_, .raw (Bytes.ofHexDigits?_eq_some_iff.1 hbytes) htrim⟩
  | null => exact ⟨_, .null value⟩

theorem exists_cell_iff : (∃ c, type.cell value = .ok c) ↔ type.Accepts value := by
  simp only [cell_eq_ok_iff]
  exact ⟨fun ⟨_, h⟩ => h.accepts, Accepts.exists_denotes⟩

/-- Every error is the refusal of the value. -/
def Blames {α : Type} (value : List Char) (outcome : Except Error α) : Prop :=
  ∀ e, outcome = .error e → ∃ description causes, e = invalidValue description value causes

section Blames

variable {α β : Type}

theorem blames_ok (value : List Char) (a : α) : Blames value (.ok a) := by
  intro e h
  cases h

theorem blames_invalidValue (value : List Char) (description : String) (causes : List String) :
    Blames value (.error (invalidValue description value causes) : Except Error α) := by
  intro e h
  exact ⟨description, causes, (Except.error.inj h).symm⟩

theorem Blames.map {outcome : Except Error α} (h : Blames value outcome) (f : α → β) :
    Blames value (f <$> outcome) := by
  cases outcome with
  | ok a => exact blames_ok value (f a)
  | error e =>
    intro found hfound
    exact h found (congrArg Except.error (Except.error.inj hfound))

theorem blames_integerValue (range : IntegerRange) (description : String) (value : List Char) :
    Blames value (integerValue range description value) := by
  rw [integerValue]
  split
  · exact blames_ok _ _
  · exact blames_invalidValue _ _ _

theorem blames_floatValue (description : String) (value : List Char) :
    Blames value (floatValue description value) := by
  rw [floatValue]
  split
  · exact blames_ok _ _
  · exact blames_invalidValue _ _ _

theorem blames_boolValue (value : List Char) : Blames value (boolValue value) := by
  rw [boolValue]
  split
  · exact blames_ok _ _
  split
  · exact blames_ok _ _
  · exact blames_invalidValue _ _ _

theorem blames_timestampValue (value : List Char) : Blames value (timestampValue value) := by
  rw [timestampValue]
  split
  · exact blames_ok _ _
  split
  · exact blames_ok _ _
  · exact blames_invalidValue _ _ _

theorem blames_hexBytes (value : List Char) : Blames value (hexBytes value) := by
  simp only [hexBytes]
  split
  · split
    · exact blames_ok _ _
    · exact blames_invalidValue _ _ _
  · exact blames_invalidValue _ _ _

theorem blames_cell (type : BindType) (value : List Char) : Blames value (type.cell value) := by
  cases type with
  | str | null => exact blames_ok _ _
  | int | long => exact (blames_integerValue _ _ value).map _
  | float | double => exact (blames_floatValue _ value).map _
  | bool => exact (blames_boolValue value).map _
  | ts => exact blames_timestampValue value
  | raw => exact (blames_hexBytes value).map _

end Blames

theorem kind_of_cell (h : type.cell value = .error e) : e.kind = .encoding := by
  obtain ⟨description, causes, rfl⟩ := blames_cell type value e h
  rfl

theorem exists_cell_eq_error_iff : (∃ e, type.cell value = .error e) ↔ ¬type.Accepts value := by
  rw [← exists_cell_iff]
  cases type.cell value <;> simp

end BindType

namespace BindSpec

variable {spec : String} {e : Error}

/-- The specs that are no binding of a known type. -/
inductive Malformed (spec : String) : Prop where
  | noMark : '=' ∉ spec.toList → Malformed spec
  | noName {typed : String} : Names spec "" typed → Malformed spec
  | noType {name typed : String} : Names spec name typed → typed ≠ "null" → ':' ∉ typed.toList →
      Malformed spec
  | unknownType {name word value : String} : Assigns spec name word value →
      (∀ type : BindType, word ≠ type.name) → Malformed spec

/-- The specs that give a type a value that it does not accept. -/
inductive Unreadable (spec : String) : Prop where
  | mk {name value : String} {type : BindType} : Assigns spec name type.name value →
      ¬type.Accepts value.toList → Unreadable spec

theorem Assigns.parse_of_unknown {name word value : String} (h : Assigns spec name word value)
    (hne : name ≠ "") (hunknown : ∀ type : BindType, word ≠ type.name) :
    parse spec = .error ((unknownType word.toList).withParameter name) :=
  h.parse_of_error hne (typedCell_of_unknown hunknown value.toList)

theorem Assigns.parse_of_cell {name value : String} {type : BindType}
    (h : Assigns spec name type.name value) (hne : name ≠ "")
    (hcell : type.cell value.toList = .error e) :
    parse spec = .error (e.withParameter name) :=
  h.parse_of_error hne ((typedCell_name type value.toList).trans hcell)

theorem Malformed.exists_parse (h : Malformed spec) :
    ∃ e, parse spec = .error e ∧ e.kind = .usage := by
  cases h with
  | noMark hmark => exact ⟨_, parse_of_noMark hmark, rfl⟩
  | noName hnames => exact ⟨_, hnames.parse_of_empty, rfl⟩
  | @noType name _ hnames hnull hcolon =>
    by_cases hne : name = ""
    · subst hne
      exact ⟨_, hnames.parse_of_empty, rfl⟩
    · exact ⟨_, hnames.parse_of_noType hne hnull hcolon, rfl⟩
  | @unknownType name _ _ hassigns hunknown =>
    by_cases hne : name = ""
    · subst hne
      exact ⟨_, hassigns.names.parse_of_empty, rfl⟩
    · exact ⟨_, hassigns.parse_of_unknown hne hunknown, rfl⟩

theorem Unreadable.exists_parse (h : Unreadable spec) (hform : ¬Malformed spec) :
    ∃ e, parse spec = .error e ∧ e.kind = .encoding := by
  obtain ⟨hassigns, hvalue⟩ := h
  obtain ⟨e, hcell⟩ := BindType.exists_cell_eq_error_iff.2 hvalue
  have hkind : e.kind = .encoding := BindType.kind_of_cell hcell
  refine ⟨_, hassigns.parse_of_cell ?_ hcell, hkind⟩
  rintro rfl
  exact hform (.noName hassigns.names)

/-- A refused spec is no binding or has a value that cannot be read, and the error is of the kind for
that. -/
theorem cases_of_parse_eq_error (h : parse spec = .error e) :
    Malformed spec ∧ e.kind = .usage ∨
      Unreadable spec ∧ e.kind = .encoding ∧
        ∃ name typed, Names spec name typed ∧ e.parameter = some name := by
  cases form spec with
  | noMark hmark =>
    rw [parse_of_noMark hmark] at h
    obtain rfl := Except.error.inj h
    exact .inl ⟨.noMark hmark, rfl⟩
  | noName hnames =>
    rw [hnames.parse_of_empty] at h
    obtain rfl := Except.error.inj h
    exact .inl ⟨.noName hnames, rfl⟩
  | noType hne hnames hnull hcolon =>
    rw [hnames.parse_of_noType hne hnull hcolon] at h
    obtain rfl := Except.error.inj h
    exact .inl ⟨.noType hnames hnull hcolon, rfl⟩
  | null hne hnames =>
    rw [hnames.parse_of_null hne] at h
    cases h
  | @assigns name word value hne hassigns =>
    by_cases hknown : ∃ type : BindType, word = type.name
    · obtain ⟨type, rfl⟩ := hknown
      cases hcell : type.cell value.toList with
      | ok c =>
        rw [hassigns.parse_of_ok hne ((typedCell_name type value.toList).trans hcell)] at h
        cases h
      | error cause =>
        rw [hassigns.parse_of_cell hne hcell] at h
        obtain rfl := Except.error.inj h
        have hkind : cause.kind = .encoding := BindType.kind_of_cell hcell
        have hvalue := BindType.exists_cell_eq_error_iff.1 ⟨cause, hcell⟩
        exact .inr ⟨⟨hassigns, hvalue⟩, hkind, name, _, hassigns.names, rfl⟩
    · have hunknown := not_exists.1 hknown
      rw [hassigns.parse_of_unknown hne hunknown] at h
      obtain rfl := Except.error.inj h
      exact .inl ⟨.unknownType hassigns hunknown, rfl⟩

theorem exists_usage_iff :
    (∃ e, parse spec = .error e ∧ e.kind = .usage) ↔ Malformed spec := by
  refine ⟨?_, Malformed.exists_parse⟩
  rintro ⟨e, h, husage⟩
  rcases cases_of_parse_eq_error h with ⟨hform, -⟩ | ⟨-, hencoding, -⟩
  · exact hform
  · rw [husage] at hencoding
    cases hencoding

theorem exists_encoding_iff :
    (∃ e, parse spec = .error e ∧ e.kind = .encoding) ↔ ¬Malformed spec ∧ Unreadable spec := by
  refine ⟨?_, fun h => h.2.exists_parse h.1⟩
  rintro ⟨e, h, hencoding⟩
  have hform : ¬Malformed spec := by
    intro hform
    obtain ⟨found, hfound, husage⟩ := hform.exists_parse
    obtain rfl := Except.error.inj (h.symm.trans hfound)
    rw [husage] at hencoding
    cases hencoding
  rcases cases_of_parse_eq_error h with ⟨hmalformed, -⟩ | ⟨hvalue, -⟩
  · exact absurd hmalformed hform
  · exact ⟨hform, hvalue⟩

theorem names_of_parse {name : String} {c : Cell} (h : parse spec = .ok (name, c)) :
    ∃ typed, Names spec name typed := by
  obtain ⟨-, hname, ⟨rfl, -⟩ | ⟨type, value, rfl, -⟩⟩ := parse_cases h
  · refine ⟨"null", ?_, hname⟩
    rw [String.append_assoc]
    rfl
  · refine ⟨type.name ++ ":" ++ String.ofList value, ?_, hname⟩
    simp only [String.append_assoc]

/-- The form of a spec decides whether it is refused and with what kind of error: wrong usage where
there is no binding of a known type, encoding where the type does not accept the value. Such a value and
an unknown type are told with the name, and so is a cell. -/
theorem refusals_follow_form (spec : String) :
    (∀ e, parse spec = .error e → e.kind = .usage ∨ e.kind = .encoding) ∧
    ((∃ e, parse spec = .error e ∧ e.kind = .usage) ↔ Malformed spec) ∧
    ((∃ e, parse spec = .error e ∧ e.kind = .encoding) ↔ ¬Malformed spec ∧ Unreadable spec) ∧
    (∀ e, parse spec = .error e → e.kind = .encoding →
      ∃ name typed, Names spec name typed ∧ e.parameter = some name) ∧
    (∀ name word value, name ≠ "" → Assigns spec name word value →
      (∀ type : BindType, word ≠ type.name) →
        ∃ e, parse spec = .error e ∧ e.kind = .usage ∧ e.parameter = some name) ∧
    ∀ name c, parse spec = .ok (name, c) → ∃ typed, Names spec name typed := by
  refine ⟨?_, exists_usage_iff, exists_encoding_iff, ?_, ?_, fun _ _ => names_of_parse⟩
  · intro e h
    rcases cases_of_parse_eq_error h with ⟨-, husage⟩ | ⟨-, hencoding, -⟩
    · exact .inl husage
    · exact .inr hencoding
  · intro e h hencoding
    rcases cases_of_parse_eq_error h with ⟨-, husage⟩ | ⟨-, -, hnames⟩
    · rw [husage] at hencoding
      cases hencoding
    · exact hnames
  · intro name word value hne hassigns hunknown
    exact ⟨_, hassigns.parse_of_unknown hne hunknown, rfl, rfl⟩

/-- No name in front of a type, signs among the digits of bytes, a type that is none, and an equals sign
in a value. -/
theorem refusals_follow_form_of_signs :
    (∃ e, parse "=int:1" = .error e ∧ e.kind = .usage) ∧
    (¬Malformed ":r=raw:+f+f" ∧ Unreadable ":r=raw:+f+f") ∧
    (∃ e name typed, parse ":r=raw:+f+f" = .error e ∧ Names ":r=raw:+f+f" name typed ∧
      e.parameter = some name) ∧
    (∃ e, parse ":x=when:1" = .error e ∧ e.kind = .usage ∧ e.parameter = some ":x") ∧
    ∃ typed, Names ":a:b=str:=" ":a:b" typed := by
  obtain ⟨-, husage, -⟩ := refusals_follow_form "=int:1"
  obtain ⟨-, -, hencoding, hnamed, -⟩ := refusals_follow_form ":r=raw:+f+f"
  obtain ⟨-, -, -, -, hunknown, -⟩ := refusals_follow_form ":x=when:1"
  obtain ⟨-, -, -, -, -, hbound⟩ := refusals_follow_form ":a:b=str:="
  obtain ⟨name, typed, hnames, hparameter⟩ := hnamed _ rfl rfl
  refine ⟨?_, ?_, ?_, ?_, ?_⟩
  · exact husage.2 (@Malformed.noName _ "int:1" ⟨rfl, by decide⟩)
  · exact hencoding.1 ⟨_, rfl, rfl⟩
  · exact ⟨_, name, typed, rfl, hnames, hparameter⟩
  · apply hunknown ":x" "when" "1" (by decide) ⟨⟨rfl, by decide⟩, by decide⟩
    intro type
    cases type <;> decide
  · exact hbound ":a:b" (.ofText "=") rfl

/-- With another letter than T before the time of day a date is no RFC 3339 text, and is bound all the
same. -/
theorem any_separator_accepted :
    Assigns ":t=ts:2024-01-01x00:00:00Z" ":t" BindType.ts.name "2024-01-01x00:00:00Z" ∧
    (¬∃ millis : Int64, WritesInteger (trim "2024-01-01x00:00:00Z".toList) millis.toInt) ∧
    ¬Rfc3339.IsText (Utf8.encode (trim "2024-01-01x00:00:00Z".toList)) ∧
    ∃ c, parse ":t=ts:2024-01-01x00:00:00Z" = .ok (":t", c) := by
  refine ⟨⟨⟨rfl, by decide⟩, by decide⟩, ?_, ?_, ⟨_, rfl⟩⟩
  · rintro ⟨millis, hwritten⟩
    have hparse := IntegerRange.parse_int64_eq_ok_iff.2 ⟨millis, rfl, hwritten⟩
    cases hparse
  · intro htext
    have hseparator := @Rfc3339.IsText.isSeparator (Utf8.encode "2024-01-01".toList)
      (Utf8.encode "00:00:00Z".toList) 0x78 htext rfl
    rcases hseparator with h | h <;> cases h

end BindSpec

end SeriesQuery
