import SeriesQuery.Proofs.Json.Spoiled
import SeriesQuery.Proofs.Params.Order

/-!
# What the members of a params file decide

The members of a params file as they are written, in the order of the file and with repeated names.
The entries that are read depend on them only through the last value of each name, so the order of
the file does not matter when no name is repeated. Of the names whose value is no cell the first in
order is reported, wherever it stands in the file. All that needs members of which none is spoiled.
Any other object is refused as a whole, and no name is reported.
-/

namespace SeriesQuery

namespace Json

/-- The whole text is an object, and its members denote these in the order in which they are
written, whatever their names. -/
def Lists (text : List Char) (members : List (String × Json)) : Prop :=
  ∃ written rest, Object text written rest ∧ (∀ c ∈ rest, isSpace c) ∧
    DenoteMembers (Denotes memberDepth) written members

/-- No later member has the name, so the value of this one counts. -/
def IsLast (members : List (String × Json)) (name : String) (value : Json) : Prop :=
  ∃ before after, members = before ++ (name, value) :: after ∧ ∀ member ∈ after, member.1 ≠ name

theorem isLast_iff_lookup {members : List (String × Json)} {name : String} {value : Json} :
    IsLast members name value ↔ members.reverse.lookup name = some value := by
  rw [List.lookup_eq_some_iff]
  constructor
  · rintro ⟨before, after, rfl, hafter⟩
    refine ⟨after.reverse, before.reverse, by simp, fun member hmember => ?_⟩
    exact bne_iff_ne.2 (hafter member (List.mem_reverse.1 hmember)).symm
  · rintro ⟨after, before, hmembers, hafter⟩
    refine ⟨before.reverse, after.reverse, ?_, fun member hmember => ?_⟩
    · rw [← List.reverse_reverse members, hmembers]
      simp
    · exact (bne_iff_ne.1 (hafter member (List.mem_reverse.1 hmember))).symm

theorem isLast_of_nodup {members : List (String × Json)} (h : (members.map Prod.fst).Nodup)
    {name : String} {value : Json} : IsLast members name value ↔ (name, value) ∈ members := by
  constructor
  · rintro ⟨before, after, rfl, _⟩
    exact List.mem_append_right _ List.mem_cons_self
  · intro hmem
    obtain ⟨before, after, rfl⟩ := List.append_of_mem hmem
    refine ⟨before, after, rfl, fun member hmember hname => ?_⟩
    rw [List.map_append, List.map_cons] at h
    have hrest := (List.nodup_cons.1 (List.nodup_append.1 h).2.1).1
    exact hrest (List.mem_map.2 ⟨member, hmember, hname⟩)

/-- The entries are the last values of the names. -/
theorem mem_ofList_iff {members : List (String × Json)} {name : String} {value : Json} :
    (name, value) ∈ (SortedMap.ofList members).entries ↔ IsLast members name value := by
  rw [isLast_iff_lookup, ← SortedMap.get?_ofList, SortedMap.get?_eq_some_iff]

end Json

namespace Params

open Json (Lists IsLast)

variable {path : String} {text : List Char} {members : List (String × Json)}

theorem ofFile_of_lists (h : Lists text members) :
    ofFile path (.ok (Utf8.encode text)) =
      (SortedMap.ofList members).entries.mapM entryOfMember := by
  obtain ⟨written, rest, hobject, hrest, hdenoted⟩ := h
  have hparse := (Json.parse_object_iff hobject hrest).2 ⟨members, hdenoted, rfl⟩
  rw [ofFile_encode]
  simp only [ofText, hparse, ofJson]

/-- An object with a member that is spoiled is refused as a whole. -/
theorem ofFile_of_isSpoiled {written : List Json.Member} {rest : List Char}
    (h : Json.Object text written rest) (hrest : ∀ c ∈ rest, Json.isSpace c) {m : Json.Member}
    (hm : m ∈ written) (hspoiled : m.IsSpoiled Json.memberDepth) :
    ∃ e, ofFile path (.ok (Utf8.encode text)) = .error e ∧ e.kind = .usage ∧ e.parameter = none := by
  rw [ofFile_encode, ofText]
  cases hparse : Json.parse text with
  | ok tree =>
    obtain ⟨members, hdenoted, -⟩ := (Json.parse_object_iff h hrest).1 hparse
    exact absurd hspoiled (Json.not_isSpoiled_of_denoteMembers hdenoted hm)
  | error fault => exact ⟨_, rfl, rfl, rfl⟩

theorem entryOfMember_eq_ok_iff {member : String × Json} {entry : String × Cell} :
    entryOfMember member = .ok entry ↔ member.1 = entry.1 ∧ cellOfJson member.2 = .ok entry.2 := by
  rw [entryOfMember]
  cases cellOfJson member.2 <;> simp [Prod.ext_iff]

theorem entryOfMember_eq_error_iff {member : String × Json} {e : Error} :
    entryOfMember member = .error e ↔
      ∃ cause, cellOfJson member.2 = .error cause ∧ e = cause.withParameter member.1 := by
  rw [entryOfMember]
  cases cellOfJson member.2 <;> simp [eq_comm]

/-- Each entry is the cell of the last value of its name. -/
theorem isLast_of_mem_entries (h : Lists text members) {entries : List (String × Cell)}
    (hread : ofFile path (.ok (Utf8.encode text)) = .ok entries) {entry : String × Cell}
    (hentry : entry ∈ entries) :
    ∃ value, IsLast members entry.1 value ∧ cellOfJson value = .ok entry.2 := by
  rw [ofFile_of_lists h] at hread
  obtain ⟨⟨name, value⟩, hmember, hjudged⟩ :=
    exists_left_of_forall₂ (forall₂_of_mapM_eq_ok hread) hentry
  obtain ⟨rfl, hcell⟩ := entryOfMember_eq_ok_iff.1 hjudged
  exact ⟨value, Json.mem_ofList_iff.1 hmember, hcell⟩

theorem mem_names_iff (h : Lists text members) {entries : List (String × Cell)}
    (hread : ofFile path (.ok (Utf8.encode text)) = .ok entries) {name : String} :
    name ∈ entries.map Prod.fst ↔ name ∈ members.map Prod.fst := by
  rw [ofFile_of_lists h] at hread
  have hkeys := SortedMap.mem_keys_iff (SortedMap.ofList members) name
  rw [SortedMap.contains_ofList, SortedMap.keys] at hkeys
  rw [names_of_forall₂ (forall₂_of_mapM_eq_ok hread), hkeys, List.mem_map]

/-- What is reported is the error of the first name in order whose value is no cell. -/
theorem first_of_error (h : Lists text members) {e : Error}
    (hread : ofFile path (.ok (Utf8.encode text)) = .error e) :
    ∃ name value cause, IsLast members name value ∧ cellOfJson value = .error cause ∧
      e = cause.withParameter name ∧
      ∀ other earlier, IsLast members other earlier → Utf8.ofString other < Utf8.ofString name →
        ∃ cell, cellOfJson earlier = .ok cell := by
  rw [ofFile_of_lists h] at hread
  rcases mapM_cases entryOfMember (SortedMap.ofList members).entries with
    ⟨values, _, hok⟩ | ⟨before, ⟨name, value⟩, after, found, hentries, hbefore, herror, hfirst⟩
  · rw [hok] at hread
    cases hread
  obtain rfl := Except.error.inj (hfirst.symm.trans hread)
  obtain ⟨cause, hcause, hfound⟩ := entryOfMember_eq_error_iff.1 herror
  have hmem : (name, value) ∈ (SortedMap.ofList members).entries := by
    rw [hentries]
    exact List.mem_append_right _ List.mem_cons_self
  refine ⟨name, value, cause, Json.mem_ofList_iff.1 hmem, hcause, hfound,
    fun other earlier hlast hlt => ?_⟩
  -- The entries are in order, so a smaller name stands before this one.
  have hother := Json.mem_ofList_iff.2 hlast
  have hordered := (SortedMap.ofList members).ascending
  rw [hentries] at hother hordered
  have hname : other < name := Utf8.ofString_lt_iff.1 hlt
  rcases List.mem_append.1 hother with hother | hother
  · obtain ⟨entry, hentry⟩ := hbefore _ hother
    exact ⟨entry.2, (entryOfMember_eq_ok_iff.1 hentry).2⟩
  · have hbehind := List.pairwise_cons.1 (List.pairwise_append.1 hordered).2.1
    rcases List.mem_cons.1 hother with heq | hother
    · exact absurd hname ((Prod.mk.inj heq).1 ▸ Std.lt_irrefl)
    · exact absurd (Std.lt_trans hname (hbehind.1 _ hother)) Std.lt_irrefl

/-- Reading fails exactly when the last value of some name is no cell. -/
theorem fails_iff_exists_last (h : Lists text members) :
    (∃ e, ofFile path (.ok (Utf8.encode text)) = .error e) ↔
      ∃ name value cause, IsLast members name value ∧ cellOfJson value = .error cause := by
  constructor
  · rintro ⟨e, hread⟩
    obtain ⟨name, value, cause, hlast, hcause, _⟩ := first_of_error h hread
    exact ⟨name, value, cause, hlast, hcause⟩
  · rintro ⟨name, value, cause, hlast, hcause⟩
    cases hread : ofFile path (.ok (Utf8.encode text)) with
    | error e => exact ⟨e, rfl⟩
    | ok entries =>
      rw [ofFile_of_lists h] at hread
      obtain ⟨entry, _, hentry⟩ :=
        exists_right_of_forall₂ (forall₂_of_mapM_eq_ok hread) (Json.mem_ofList_iff.2 hlast)
      have hcell := (entryOfMember_eq_ok_iff.1 hentry).2
      rw [hcause] at hcell
      cases hcell

/-- Two files in which each name has the same last value are read alike. -/
theorem ofFile_eq_of_isLast_iff {other : List Char} {listed : List (String × Json)}
    (h : Lists text members) (hother : Lists other listed)
    (hlast : ∀ name value, IsLast members name value ↔ IsLast listed name value) :
    ofFile path (.ok (Utf8.encode other)) = ofFile path (.ok (Utf8.encode text)) := by
  have hmap : SortedMap.ofList listed = SortedMap.ofList members := by
    refine SortedMap.ext_get? fun name => Option.ext fun value => ?_
    rw [SortedMap.get?_ofList, SortedMap.get?_ofList, ← Json.isLast_iff_lookup,
      ← Json.isLast_iff_lookup, hlast]
  rw [ofFile_of_lists hother, ofFile_of_lists h, hmap]

/-- A params file is read by its names: every name comes once and in order, with the cell of its
last value, or the first name in order whose last value is no cell is reported. The order of members
with different names does not matter. An object with a member that is spoiled is refused, and no name
is reported. -/
theorem files_are_read_by_name (path : String) {text rest : List Char}
    {written : List Json.Member} (h : Json.Object text written rest)
    (hrest : ∀ c ∈ rest, Json.isSpace c) :
    ((∃ m ∈ written, m.IsSpoiled Json.memberDepth) →
      ∃ e, ofFile path (.ok (Utf8.encode text)) = .error e ∧ e.kind = .usage ∧
        e.parameter = none) ∧
    ((∀ m ∈ written, ¬m.IsSpoiled Json.memberDepth) →
      ∃ members, Json.DenoteMembers (Json.Denotes Json.memberDepth) written members) ∧
    ∀ members, Json.DenoteMembers (Json.Denotes Json.memberDepth) written members →
      (∀ entries, ofFile path (.ok (Utf8.encode text)) = .ok entries →
        (entries.map fun entry => Utf8.ofString entry.1).Pairwise (· < ·) ∧
        (∀ name, name ∈ entries.map Prod.fst ↔ name ∈ members.map Prod.fst) ∧
        ∀ entry ∈ entries, ∃ value, IsLast members entry.1 value ∧
          cellOfJson value = .ok entry.2) ∧
      ((∃ e, ofFile path (.ok (Utf8.encode text)) = .error e) ↔
        ∃ name value cause, IsLast members name value ∧ cellOfJson value = .error cause) ∧
      (∀ e, ofFile path (.ok (Utf8.encode text)) = .error e →
        ∃ name value cause, IsLast members name value ∧ cellOfJson value = .error cause ∧
          e = cause.withParameter name ∧
          ∀ other earlier, IsLast members other earlier →
            Utf8.ofString other < Utf8.ofString name → ∃ cell, cellOfJson earlier = .ok cell) ∧
      ∀ other listed, Lists other listed → members.Perm listed → (members.map Prod.fst).Nodup →
        ofFile path (.ok (Utf8.encode other)) = ofFile path (.ok (Utf8.encode text)) := by
  refine ⟨fun ⟨m, hm, hspoiled⟩ => ofFile_of_isSpoiled h hrest hm hspoiled,
    (Json.exists_denoteMembers_iff h).2, fun members hdenoted => ?_⟩
  have hlists : Lists text members := ⟨written, rest, h, hrest, hdenoted⟩
  refine ⟨fun entries hread => ⟨ascending_of_ofFile hread, fun name => mem_names_iff hlists hread,
    fun entry => isLast_of_mem_entries hlists hread⟩, fails_iff_exists_last hlists,
    fun e => first_of_error hlists, fun other listed hother hperm hnodup => ?_⟩
  refine ofFile_eq_of_isLast_iff hlists hother fun name value => ?_
  have hlisted : (listed.map Prod.fst).Nodup := (hperm.map Prod.fst).nodup_iff.1 hnodup
  rw [Json.isLast_of_nodup hnodup, Json.isLast_of_nodup hlisted, hperm.mem_iff]

/-- Two names have arrays, and an earlier value of one of them is a cell. The name that comes first
in order is reported, though the other stands before it. -/
theorem files_are_read_by_name_of_arrays :
    ∃ (text : List Char) (written : List Json.Member) (e : Error),
      text = "\x7b\"b\":[],\"a\":true,\"a\":[]\x7d".toList ∧ Json.Object text written [] ∧
      Json.DenoteMembers (Json.Denotes Json.memberDepth) written
        [("b", .array []), ("a", .boolean true), ("a", .array [])] ∧
      ofFile "p" (.ok (Utf8.encode text)) = .error e ∧ e.parameter = some "a" := by
  let members : List (String × Json) :=
    [("b", .array []), ("a", .boolean true), ("a", .array [])]
  let body := "\"b\":[],\"a\":true,\"a\":[]\x7d".toList
  have hread : Json.readMembers (Json.listMember (Json.readTree Json.memberDepth)) [] body =
      .ok (members, []) := rfl
  obtain ⟨written, hwritten, hdenoted⟩ :=
    Json.exists_members_of_readMembers (Json.decides_readTree Json.memberDepth) hread
  have hobject : Json.Object ('{' :: body) written [] := ⟨body, .refl _, hwritten⟩
  have hb : IsLast members "b" (.array []) := ⟨[], _, rfl, by simp⟩
  have ha : IsLast members "a" (.array []) := ⟨members.take 2, [], rfl, by simp⟩
  obtain ⟨-, -, hmembers⟩ := files_are_read_by_name "p" hobject (List.forall_mem_nil _)
  obtain ⟨-, hfails, hfirst, -⟩ := hmembers members hdenoted
  obtain ⟨e, he⟩ := hfails.2 ⟨"b", .array [], arrayValue, hb, rfl⟩
  obtain ⟨name, value, cause, hlast, hcause, rfl, hsmaller⟩ := hfirst e he
  refine ⟨_, written, _, rfl, hobject, hdenoted, he, congrArg some ?_⟩
  -- The name "b" is not reported, since "a" is smaller and its value is no cell either.
  obtain ⟨before, after, hsplit, _⟩ := hlast
  have hname : (name, value) ∈ members := hsplit ▸ List.mem_append_right _ List.mem_cons_self
  simp only [members, List.mem_cons, Prod.mk.injEq, List.not_mem_nil, or_false] at hname
  rcases hname with ⟨rfl, _⟩ | ⟨rfl, _⟩ | ⟨rfl, _⟩
  · obtain ⟨cell, hcell⟩ := hsmaller "a" (.array []) ha (by decide)
    cases hcell
  · rfl
  · rfl

/-- The member behind the first one of the same name. -/
def lastMember : Json.Member where
  key := "a\":true\x7d".toList
  value := "true\x7d".toList
  rest := "\x7d".toList

/-- What stands behind the value of the first member. -/
def behindFirst : List Char :=
  ',' :: '"' :: lastMember.key

/-- An object that has a name first with some value and then with one that is a cell. -/
def repeatingText (value : List Char) : List Char :=
  "\x7b\"a\":".toList ++ (value ++ behindFirst)

/-- The file is refused with no name, though it is an object and the value that counts is a cell. -/
def SpoilsFile (value : List Char) : Prop :=
  ∃ first last : Json.Member,
    Json.Object (repeatingText value) [first, last] [] ∧ first.IsNamed "a" ∧ last.IsNamed "a" ∧
    (∃ j cell, Json.Denotes Json.memberDepth last.value j last.rest ∧ cellOfJson j = .ok cell) ∧
    ∃ e, ofFile "p" (.ok (Utf8.encode (repeatingText value))) = .error e ∧ e.kind = .usage ∧
      e.parameter = none

/-- A value that the grammar knows and that is read as no tree spoils the file. -/
theorem spoilsFile_of_value {value : List Char}
    (hvalue : Json.skipValue (value ++ behindFirst) = .ok behindFirst)
    (hnone : (Json.readTree Json.memberDepth (value ++ behindFirst)).toOption = none) :
    SpoilsFile value := by
  let first : Json.Member :=
    { key := 'a' :: '"' :: ':' :: (value ++ behindFirst), value := value ++ behindFirst,
      rest := behindFirst }
  have hfirst : Json.Spelled first.key "a" (':' :: first.value) :=
    Json.readText_eq_ok_iff (s := "a".toList).1 rfl
  have hlast : Json.Spelled lastMember.key "a" (':' :: lastMember.value) :=
    Json.readText_eq_ok_iff (s := "a".toList).1 rfl
  have htrue : Json.Denotes Json.memberDepth lastMember.value (.boolean true) lastMember.rest :=
    Json.readTree_eq_ok_iff.1 rfl
  have hobject : Json.Object (repeatingText value) [first, lastMember] [] :=
    ⟨_, .refl _, .member rfl (.refl _) hfirst.literal (.refl _) (Json.skipValue_eq_ok_iff.1 hvalue)
      (.member (.refl _) (.refl _) hlast.literal (.refl _) ((Json.decides_readTree _).value htrue)
        (.noMember (.refl _)))⟩
  have hspoiled : Json.Spoiled Json.memberDepth first.value first.rest := by
    by_contra hsound
    obtain ⟨j, hj⟩ := (Json.exists_denotes_iff (Json.skipValue_eq_ok_iff.1 hvalue)).2 hsound
    rw [Json.readTree_eq_ok_iff.2 hj] at hnone
    cases hnone
  exact ⟨first, lastMember, hobject, ⟨_, hfirst⟩, ⟨_, hlast⟩, ⟨_, _, htrue, rfl⟩,
    ofFile_of_isSpoiled hobject (List.forall_mem_nil _) List.mem_cons_self (.inr hspoiled)⟩

/-- A number that is too large, a string with half of a surrogate pair and brackets that are too
many spoil the file, although another value of the name follows. -/
theorem undenoted_values_spoil_files :
    SpoilsFile "1e999".toList ∧ SpoilsFile "\"\\ud800\"".toList ∧
      SpoilsFile
        (List.replicate Json.depthLimit '[' ++ List.replicate Json.depthLimit ']') := by
  refine ⟨spoilsFile_of_value ?_ ?_, spoilsFile_of_value ?_ ?_, spoilsFile_of_value ?_ ?_⟩ <;>
    decide +kernel

end Params

end SeriesQuery
