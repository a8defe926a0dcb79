import SeriesQuery.BindSpec
import SeriesQuery.Proofs.Text.Split

/-!
# Forms of bind specs

A spec is cut at its first equals sign, and what stands behind that at its first colon. Where a mark is
missing or the name is empty there is no binding. Each form of a spec has one outcome, and each spec has
one of the forms.
-/

namespace SeriesQuery

namespace BindType

theorem ofName?_name (type : BindType) : ofName? type.name.toList = some type := by
  cases type <;> rfl

theorem name_of_ofName? {name : List Char} {type : BindType} (h : ofName? name = some type) :
    name = type.name.toList := by
  have hfound := List.find?_some h
  rw [beq_iff_eq] at hfound
  exact hfound.symm

theorem colon_not_mem_name (type : BindType) : ':' ∉ type.name.toList := by
  cases type <;> decide

end BindType

namespace BindSpec

variable {spec name typed word value : String}

/-- The texts before and behind the first equals sign. -/
structure Names (spec name typed : String) : Prop where
  cut : spec = name ++ "=" ++ typed
  first : '=' ∉ name.toList

/-- Behind the first equals sign stand two texts around a first colon. -/
structure Assigns (spec name word value : String) : Prop where
  names : Names spec name (word ++ ":" ++ value)
  first : ':' ∉ word.toList

theorem Names.toList_eq (h : Names spec name typed) :
    spec.toList = name.toList ++ '=' :: typed.toList := by
  rw [h.cut]
  simp

theorem Assigns.ne_null (_ : Assigns spec name word value) : word ++ ":" ++ value ≠ "null" := by
  intro h
  have hmem : ':' ∈ "null".toList := by
    rw [← h]
    simp
  exact absurd hmem (by decide)

/-- Every text that has a mark is cut at the first one. -/
theorem exists_cut {mark : Char} {text : String} (h : mark ∈ text.toList) :
    ∃ front rest : String, text = front ++ String.singleton mark ++ rest ∧ mark ∉ front.toList := by
  obtain ⟨front, rest, htext, hfront⟩ := List.eq_append_cons_of_mem h
  refine ⟨String.ofList front, String.ofList rest, String.toList_injective ?_, ?_⟩
  · simp [htext]
  · rwa [String.toList_ofList]

/-- The forms of a spec, of which the last two are bindings. -/
inductive Form (spec : String) : Prop where
  | noMark : '=' ∉ spec.toList → Form spec
  | noName {typed : String} : Names spec "" typed → Form spec
  | noType {name typed : String} : name ≠ "" → Names spec name typed → typed ≠ "null" →
      ':' ∉ typed.toList → Form spec
  | null {name : String} : name ≠ "" → Names spec name "null" → Form spec
  | assigns {name word value : String} : name ≠ "" → Assigns spec name word value → Form spec

theorem form (spec : String) : Form spec := by
  by_cases hmark : '=' ∈ spec.toList
  · obtain ⟨name, typed, hspec, hname⟩ := exists_cut hmark
    have hnames : Names spec name typed := ⟨hspec, hname⟩
    by_cases hempty : name = ""
    · exact .noName (hempty ▸ hnames)
    by_cases hnull : typed = "null"
    · exact .null hempty (hnull ▸ hnames)
    by_cases hcolon : ':' ∈ typed.toList
    · obtain ⟨word, value, rfl, hword⟩ := exists_cut hcolon
      exact .assigns hempty ⟨hnames, hword⟩
    · exact .noType hempty hnames hnull hcolon
  · exact .noMark hmark

theorem parse_of_noMark (h : '=' ∉ spec.toList) :
    parse spec = .error (malformed spec.toList "missing `=`") := by
  simp only [parse, splitFirst?_eq_none h]

theorem Names.splitFirst?_eq (h : Names spec name typed) :
    splitFirst? '=' spec.toList = some (name.toList, typed.toList) := by
  rw [h.toList_eq]
  exact splitFirst?_append h.first _

theorem Assigns.splitFirst?_eq (h : Assigns spec name word value) :
    splitFirst? ':' (word ++ ":" ++ value).toList = some (word.toList, value.toList) := by
  have htyped : (word ++ ":" ++ value).toList = word.toList ++ ':' :: value.toList := by simp
  rw [htyped]
  exact splitFirst?_append h.first _

theorem isEmpty_toList (hne : name ≠ "") : name.toList.isEmpty = false := by
  simpa using hne

theorem Names.parse_of_empty (h : Names spec "" typed) :
    parse spec = .error (malformed spec.toList "empty name") := by
  simp only [parse, h.splitFirst?_eq, String.toList_empty, List.isEmpty_nil, if_true]

theorem Names.parse_of_null (h : Names spec name "null") (hne : name ≠ "") :
    parse spec = .ok (name, .null) := by
  simp only [parse, h.splitFirst?_eq, isEmpty_toList hne, Bool.false_eq_true, if_false, if_true,
    String.ofList_toList]

theorem Names.parse_of_noType (h : Names spec name typed) (hne : name ≠ "") (hnull : typed ≠ "null")
    (hcolon : ':' ∉ typed.toList) :
    parse spec = .error (malformed spec.toList "missing TYPE:") := by
  simp only [parse, h.splitFirst?_eq, isEmpty_toList hne, Bool.false_eq_true, if_false,
    String.toList_inj, if_neg hnull, splitFirst?_eq_none hcolon]

theorem Assigns.parse_of_ok (h : Assigns spec name word value) (hne : name ≠ "") {c : Cell}
    (hcell : typedCell word.toList value.toList = .ok c) : parse spec = .ok (name, c) := by
  simp only [parse, h.names.splitFirst?_eq, isEmpty_toList hne, Bool.false_eq_true, if_false,
    String.toList_inj, if_neg h.ne_null, h.splitFirst?_eq, hcell, String.ofList_toList]

theorem Assigns.parse_of_error (h : Assigns spec name word value) (hne : name ≠ "") {e : Error}
    (hcell : typedCell word.toList value.toList = .error e) :
    parse spec = .error (e.withParameter name) := by
  simp only [parse, h.names.splitFirst?_eq, isEmpty_toList hne, Bool.false_eq_true, if_false,
    String.toList_inj, if_neg h.ne_null, h.splitFirst?_eq, hcell, String.ofList_toList]

theorem typedCell_name (type : BindType) (value : List Char) :
    typedCell type.name.toList value = type.cell value := by
  rw [typedCell, BindType.ofName?_name]

theorem typedCell_of_unknown (h : ∀ type : BindType, word ≠ type.name) (value : List Char) :
    typedCell word.toList value = .error (unknownType word.toList) := by
  have hnone : BindType.ofName? word.toList = none := by
    rw [Option.eq_none_iff_forall_ne_some]
    intro type htype
    exact h type (String.toList_injective (BindType.name_of_ofName? htype))
  rw [typedCell, hnone]

theorem exists_of_typedCell {value : List Char} {c : Cell} (h : typedCell word.toList value = .ok c) :
    ∃ type : BindType, word = type.name := by
  by_contra hunknown
  rw [typedCell_of_unknown (not_exists.1 hunknown)] at h
  cases h

end BindSpec

end SeriesQuery
