import SeriesQuery.Params
import SeriesQuery.Proofs.Json.Denotation
import SeriesQuery.Proofs.Judgements
import SeriesQuery.Proofs.Text.Utf8

/-!
# The order of a params file

A params file may give its names in any order and more than once. The entries that are read from it
have each name once, in ascending order: an object denotes its members in this order, and nothing
behind the reader changes a name.
-/

namespace SeriesQuery

/-- In ascending entries each key has one value, whichever end the search starts from. -/
theorem SortedMap.lookup_reverse {κ α : Type} [DecidableEq κ] [LT κ]
    [Std.Irrefl (· < · : κ → κ → Prop)] {entries : List (κ × α)} (h : Ascending entries) (key : κ) :
    entries.reverse.lookup key = entries.lookup key := by
  induction entries with
  | nil => rfl
  | cons entry rest ih =>
    obtain ⟨hfirst, hrest⟩ := List.pairwise_cons.1 h
    rw [List.reverse_cons, List.lookup_append, ih hrest, lookup_entry, lookup_entry]
    split
    · rename_i hkey
      rw [hkey, lookup_eq_none_of_lt hfirst, Option.none_or]
    · rw [List.lookup_nil, Option.or_none]

/-- The members of an object that is read stand in ascending order. -/
theorem Json.ascending_of_parse {text : List Char} {members : List (String × Json)}
    (h : parse text = .ok (.object members)) : SortedMap.Ascending members := by
  rw [parse, depthLimit_eq] at h
  obtain ⟨rest, hread, -⟩ := readWhole_eq_ok_iff.1 h
  obtain ⟨_, entries, _, _, rfl⟩ := readTree_eq_ok_iff.1 hread
  exact (SortedMap.ofList entries).ascending

namespace Params

theorem ofFile_encode (path : String) (text : List Char) :
    ofFile path (.ok (Utf8.encode text)) = ofText text := by
  rw [ofFile, Utf8.decode_encode]

theorem name_of_entryOfMember {member : String × Json} {entry : String × Cell}
    (h : entryOfMember member = .ok entry) : entry.1 = member.1 := by
  rw [entryOfMember] at h
  split at h
  · obtain rfl := Except.ok.inj h
    rfl
  · cases h

theorem names_of_forall₂ {members : List (String × Json)} {entries : List (String × Cell)}
    (h : List.Forall₂ (fun member entry => entryOfMember member = .ok entry) members entries) :
    entries.map Prod.fst = members.map Prod.fst := by
  induction h with
  | nil => rfl
  | cons hentry _ ih => rw [List.map_cons, List.map_cons, name_of_entryOfMember hentry, ih]

theorem ascending_of_ofJson {members : List (String × Json)} {entries : List (String × Cell)}
    (hmembers : SortedMap.Ascending members) (h : ofJson (.object members) = .ok entries) :
    SortedMap.Ascending entries := by
  have hnames := names_of_forall₂ (forall₂_of_mapM_eq_ok h)
  have hordered : (members.map Prod.fst).Pairwise (· < ·) := List.pairwise_map.2 hmembers
  rw [← hnames] at hordered
  exact List.pairwise_map.1 hordered

theorem ascending_of_ofText {text : List Char} {entries : List (String × Cell)}
    (h : ofText text = .ok entries) : SortedMap.Ascending entries := by
  rw [ofText] at h
  split at h
  · rename_i tree hparse
    cases tree with
    | object members => exact ascending_of_ofJson (Json.ascending_of_parse hparse) h
    | _ => cases h
  · cases h

/-- The names of a params file come in strictly ascending order of their bytes. -/
theorem ascending_of_ofFile {path : String} {content : Except FileFault Bytes}
    {entries : List (String × Cell)} (h : ofFile path content = .ok entries) :
    (entries.map fun entry => Utf8.ofString entry.1).Pairwise (· < ·) := by
  rw [ofFile.eq_def] at h
  split at h
  · cases h
  split at h
  · cases h
  exact List.pairwise_map.2 ((ascending_of_ofText h).imp Utf8.ofString_lt_iff.2)

end Params

end SeriesQuery
