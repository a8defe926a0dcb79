import SeriesQuery.Proofs.Json.Tree
import SeriesQuery.Proofs.Params.Order

/-!
# Params files with one entry

A file that binds one name is the same file however its name is spelled and wherever white space
stands. What the reader makes of the value decides the whole outcome: the entry of the name, the
error of the value at that name, or a text that is no JSON.
-/

namespace SeriesQuery.Params

/-- A file with one entry, apart from the value: the spelling of the name between its quotes, and
the white space before each mark, before the value, and at the end. -/
structure Frame (name : String) where
  key : List Char
  spells : Json.Spells key name.toList
  gap : Fin 6 → List Char
  blank : ∀ place, ∀ c ∈ gap place, Json.isSpace c

namespace Frame

variable {name : String} (frame : Frame name)

/-- What comes after the value. -/
def behind : List Char :=
  frame.gap 4 ++ '}' :: frame.gap 5

/-- The text of the file around a value. -/
def text (value : List Char) : List Char :=
  frame.gap 0 ++ '{' :: (frame.gap 1 ++ '"' :: (frame.key ++ '"' :: (frame.gap 2 ++
    ':' :: (frame.gap 3 ++ (value ++ frame.behind)))))

def file (value : List Char) : Bytes :=
  Utf8.encode (frame.text value)

theorem endsNumber_behind : Json.EndsNumber frame.behind :=
  Json.endsNumber_gap (frame.blank 4) (Json.endsNumber_cons _ (by decide))

/-- The reader of the member gets to the value, whatever it finds there. -/
theorem readTreeMember_text (reader : List Char → Json.Read (Json × List Char))
    (hspace : Json.SkipsSpace reader) (value : List Char) :
    Json.readTreeMember reader [] name (frame.gap 2 ++ ':' :: (frame.gap 3 ++ value)) =
      Json.mapValue (fun j => [(name, j)]) (reader value) := by
  rw [Json.readTreeMember]
  simp only [bind, Except.bind, Json.readColon_append (frame.blank 2), hspace _ (frame.blank 3)]
  cases reader value with
  | error fault => rfl
  | ok found => rfl

/-- The file denotes the object with the one member, or has the fault that its value has. -/
theorem parse_text {value : List Char} {result : Json.Read Json}
    (h : Json.readTree Json.memberDepth (value ++ frame.behind) = result.map (·, frame.behind)) :
    Json.parse (frame.text value) = result.map fun j => .object [(name, j)] := by
  -- The brace takes one of the brackets that may be nested.
  rw [Json.parse, Json.readWhole, text, Json.depthLimit_eq, Json.skipsSpace_readTree _ _ (frame.blank 0),
    Json.readTree_brace, Json.readMembers, Json.readMembersFrom,
    Json.nextKey_first (frame.blank 1)]
  simp only [bind, Except.bind, Json.readText_of_spells frame.spells, String.ofList_toList,
    frame.readTreeMember_text _ (Json.skipsSpace_readTree Json.memberDepth), h]
  cases result with
  | error fault => rfl
  | ok j =>
    have hclose := Json.nextKey_close false (frame.blank 4) (frame.gap 5)
    have hend := Json.skipSpace_append (frame.blank 5) []
    rw [List.append_nil] at hend
    simp only [Except.map, Json.mapValue, behind, List.length_append, List.length_cons,
      ← Nat.add_assoc, Json.readMembersFrom, bind, Except.bind, hclose, pure, Except.pure, hend]
    rfl

theorem ofFile_of_ok (path : String) {value : List Char} {j : Json}
    (h : Json.readTree Json.memberDepth (value ++ frame.behind) = .ok (j, frame.behind)) :
    ofFile path (.ok (frame.file value)) = (entryOfMember (name, j)).map ([·]) := by
  have hresult : (.ok j : Json.Read Json).map (·, frame.behind) = .ok (j, frame.behind) := rfl
  have hparse := frame.parse_text (h.trans hresult.symm)
  rw [file, ofFile_encode, ofText, hparse]
  simp only [Except.map, ofJson, List.mapM_cons, List.mapM_nil, bind, Except.bind, pure,
    Except.pure]

theorem ofFile_of_error (path : String) {value : List Char} {fault : Json.Fault}
    (h : Json.readTree Json.memberDepth (value ++ frame.behind) = .error fault) :
    ∃ e, ofFile path (.ok (frame.file value)) = .error e ∧ e.kind = .usage := by
  have hresult : (.error fault : Json.Read Json).map (·, frame.behind) = .error fault := rfl
  have hparse := frame.parse_text (h.trans hresult.symm)
  rw [file, ofFile_encode, ofText, hparse]
  exact ⟨_, rfl, rfl⟩

end Frame

end SeriesQuery.Params
