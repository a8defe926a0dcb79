import SeriesQuery.CommandLine.Run
import SeriesQuery.Proofs.Builder.Log
import SeriesQuery.Proofs.Params.Order
import SeriesQuery.Proofs.Placeholder.Scan

/-!
# From arguments to a query

A query is made of arguments in stages. There has to be a template, the params file is read, the bind
options are parsed, and the names of both are looked for in the template. The first stage that fails
decides the error, and in it the first entry that is wrong: those of the file in the order of their
names, then those of the options as they were given. If nothing fails then all entries are bound, and
the later of two for one name counts.
-/

namespace SeriesQuery

namespace QueryBuilder

theorem firstUnknown?_start_eq_some {template : String} {entries : List (String × Cell)}
    {entry : String × Cell} (h : (start template).firstUnknown? entries = some entry) :
    ¬StandsIn entry.1.toList template.toList ∧
      ∃ before after, entries = before ++ entry :: after ∧
        ∀ earlier ∈ before, StandsIn earlier.1.toList template.toList := by
  obtain ⟨hunknown, before, after, hsplit, hbefore⟩ := List.find?_eq_some_iff_append.1 h
  simp only [start, Bool.not_eq_true', Bool.not_not] at hunknown hbefore
  refine ⟨fun hstands => ?_, before, after, hsplit, fun earlier hearlier => ?_⟩
  · rw [PlaceholderSet.contains_ofText.2 hstands] at hunknown
    cases hunknown
  · exact PlaceholderSet.contains_ofText.1 (hbefore earlier hearlier)

end QueryBuilder

namespace CommandLine

/-- The entries of the params file, if there is one. -/
def fileEntries (s : Surroundings) (a : QueryArguments) : Except Error (List (String × Cell)) :=
  match a.paramsFile with
  | some path => Params.ofFile (String.ofList (Utf8.decodeLossy path)) (s.contentOf path)
  | none => .ok []

/-- The file can be read and the options can be parsed, and these are their entries. -/
structure Entries (s : Surroundings) (a : QueryArguments)
    (fromFile fromOptions : List (String × Cell)) : Prop where
  file : fileEntries s a = .ok fromFile
  /-- The file gives each name once, in the order of their bytes. -/
  ascending : (fromFile.map fun entry => Utf8.ofString entry.1).Pairwise (· < ·)
  options : List.Forall₂ (fun spec entry => BindSpec.parse spec = .ok entry) a.binds fromOptions

/-- All that can become of the arguments. -/
inductive Construction (s : Surroundings) (a : QueryArguments) : Except Error Query → Prop where
  | noTemplate : a.template = "" → Construction s a (.error emptyTemplate)
  | badFile {e : Error} : a.template ≠ "" → fileEntries s a = .error e →
      Construction s a (.error e)
  | badOption {fromFile : List (String × Cell)} {before after : List String} {spec : String}
      {e : Error} : a.template ≠ "" → fileEntries s a = .ok fromFile →
      a.binds = before ++ spec :: after →
      (∀ earlier ∈ before, ∃ entry, BindSpec.parse earlier = .ok entry) →
      BindSpec.parse spec = .error e →
      Construction s a (.error e)
  | unknownName {fromFile fromOptions before after : List (String × Cell)} {entry : String × Cell}
      {e : Error} : a.template ≠ "" → Entries s a fromFile fromOptions →
      fromFile ++ fromOptions = before ++ entry :: after →
      (∀ earlier ∈ before, StandsIn earlier.1.toList a.template.toList) →
      ¬StandsIn entry.1.toList a.template.toList →
      e.kind = .unknownParameter → e.parameter = some entry.1 →
      Construction s a (.error e)
  | built {fromFile fromOptions : List (String × Cell)} {q : Query} : a.template ≠ "" →
      Entries s a fromFile fromOptions →
      (∀ entry ∈ fromFile ++ fromOptions, StandsIn entry.1.toList a.template.toList) →
      q.text = a.template →
      (∀ name, q.get? name = (fromOptions.reverse.lookup name).or (fromFile.lookup name)) →
      Construction s a (.ok q)

theorem boundEntries_eq (s : Surroundings) (a : QueryArguments) :
    boundEntries s a = (fileEntries s a).bind fun fromFile =>
      (a.binds.mapM BindSpec.parse).bind fun fromOptions => .ok (fromFile ++ fromOptions) := by
  rw [boundEntries, fileEntries]
  cases a.paramsFile <;> rfl

theorem ascending_of_fileEntries {s : Surroundings} {a : QueryArguments}
    {entries : List (String × Cell)} (h : fileEntries s a = .ok entries) :
    (entries.map fun entry => Utf8.ofString entry.1).Pairwise (· < ·) := by
  rw [fileEntries] at h
  cases hfile : a.paramsFile with
  | none =>
    rw [hfile] at h
    obtain rfl := Except.ok.inj h
    exact .nil
  | some path =>
    rw [hfile] at h
    exact Params.ascending_of_ofFile h

/-- What becomes of entries that are looked for in the template and then bound. -/
theorem construction_of_entries {s : Surroundings} {a : QueryArguments} (h : a.template ≠ "")
    {fromFile fromOptions : List (String × Cell)} (hentries : Entries s a fromFile fromOptions) :
    Construction s a
      ((QueryBuilder.bindAndBuild (fromFile ++ fromOptions)).on (.start a.template)).1 := by
  rw [QueryBuilder.bindAndBuild_on rfl]
  split
  · rename_i entry hunknown
    obtain ⟨hentry, before, after, hsplit, hbefore⟩ :=
      QueryBuilder.firstUnknown?_start_eq_some hunknown
    exact .unknownName h hentries hsplit hbefore hentry rfl rfl
  · rename_i hknown
    refine .built h hentries (fun entry hentry => ?_) rfl fun name => ?_
    · have hdeclared := QueryBuilder.declared_of_firstUnknown?_eq_none hknown hentry
      exact PlaceholderSet.contains_ofText.1 hdeclared
    · have hascending : SortedMap.Ascending fromFile :=
        (List.pairwise_map.1 hentries.ascending).imp Utf8.ofString_lt_iff.1
      rw [Query.get?, get?_withEntries, List.reverse_append, List.lookup_append,
        SortedMap.lookup_reverse hascending]
      exact Option.or_none

/-- The arguments go through all stages, and the first one that fails decides. -/
theorem construction_buildQuery (s : Surroundings) (a : QueryArguments) :
    Construction s a (buildQuery s a) := by
  rw [buildQuery]
  by_cases htemplate : a.template = ""
  · rw [htemplate, QueryBuilder.new_empty]
    exact .noTemplate htemplate
  rw [QueryBuilder.new_eq htemplate, boundEntries_eq]
  cases hfile : fileEntries s a with
  | error e => exact .badFile htemplate hfile
  | ok fromFile =>
    rcases mapM_cases BindSpec.parse a.binds with
      ⟨fromOptions, hoptions, hparsed⟩ | ⟨before, spec, after, e, hsplit, hbefore, hspec, hparsed⟩
    · have hentries : Entries s a fromFile fromOptions :=
        ⟨hfile, ascending_of_fileEntries hfile, hoptions⟩
      simp only [hparsed, bind, Except.bind]
      exact construction_of_entries htemplate hentries
    · simp only [hparsed, bind, Except.bind]
      exact .badOption htemplate hfile hsplit hbefore hspec

end CommandLine

end SeriesQuery
