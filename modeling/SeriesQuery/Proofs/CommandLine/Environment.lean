import Mathlib.Control.Monad.Basic
import SeriesQuery.CommandLine.Run
import SeriesQuery.Proofs.Settings.Layers
import SeriesQuery.Proofs.Text.Utf8

/-!
# Options on top of the environment

An execution takes its settings from the options, and from the environment what they leave open. A
variable that an option overrides should not matter for a run at all. That holds of the address and
of the token, whatever their variables say. The timeout of the environment, however, is read before
the options are put on top of it: if it is not a number then the run fails, even when an option sets
the timeout. As long as the timeout can be read, an overridden variable does not matter.
-/

namespace SeriesQuery

namespace Settings

/-- A timeout that the environment sets is a number. -/
def IsReadable (lookup : String → Option String) : Prop :=
  ∀ text, setting? lookup timeoutVariable = some text →
    ∃ millis, IntegerRange.word64.parse (trim text.toList) = .ok millis

/-- An option sets what the variable of that name would set. -/
def Overrides (upper : Settings) (name : String) : Prop :=
  (name = urlVariable ∧ upper.url.isSome) ∨ (name = tokenVariable ∧ upper.token.isSome) ∨
    (name = timeoutVariable ∧ upper.timeout.isSome)

@[simp] theorem overrides_urlVariable (upper : Settings) :
    upper.Overrides urlVariable ↔ upper.url.isSome := by
  simp [Overrides, urlVariable, tokenVariable, timeoutVariable]

@[simp] theorem overrides_tokenVariable (upper : Settings) :
    upper.Overrides tokenVariable ↔ upper.token.isSome := by
  simp [Overrides, urlVariable, tokenVariable, timeoutVariable]

@[simp] theorem overrides_timeoutVariable (upper : Settings) :
    upper.Overrides timeoutVariable ↔ upper.timeout.isSome := by
  simp [Overrides, urlVariable, tokenVariable, timeoutVariable]

/-- Two environments differ at most in variables that the options override. -/
def AgreeUnder (upper : Settings) (lookup other : String → Option String) : Prop :=
  ∀ name, ¬upper.Overrides name → lookup name = other name

theorem IsReadable.exists_timeoutOf {lookup : String → Option String} (h : IsReadable lookup) :
    ∃ timeout, timeoutOf lookup = .ok timeout := by
  rw [timeoutOf]
  cases hset : setting? lookup timeoutVariable with
  | none => exact ⟨none, rfl⟩
  | some text =>
    obtain ⟨millis, hmillis⟩ := h text hset
    refine ⟨some (UInt64.ofNat millis.toNat), ?_⟩
    simp only [timeoutOfText, hmillis]
    rfl

theorem or_eq_of_isNone {α : Type} {upper lower other : Option α}
    (h : upper = none → lower = other) : upper.or lower = upper.or other := by
  cases upper with
  | none => exact h rfl
  | some value => rfl

section Agree

variable {upper : Settings} {lookup other : String → Option String}

theorem AgreeUnder.setting?_eq (h : upper.AgreeUnder lookup other) {name : String}
    (hname : ¬upper.Overrides name) : setting? lookup name = setting? other name := by
  rw [setting?, h name hname, setting?]

theorem AgreeUnder.timeoutOf_eq (h : upper.AgreeUnder lookup other) (hopen : upper.timeout = none) :
    timeoutOf lookup = timeoutOf other := by
  rw [timeoutOf, h.setting?_eq (by simp [hopen]), timeoutOf]

/-- What is put on top of the environment hides all that the two environments differ in. -/
theorem AgreeUnder.merge_eq (h : upper.AgreeUnder lookup other) {timeout timeout' : Option UInt64}
    (htimeout : upper.timeout = none → timeout = timeout') :
    merge
        { url := setting? lookup urlVariable, token := setting? lookup tokenVariable, timeout }
        upper =
      merge
        { url := setting? other urlVariable
          token := setting? other tokenVariable
          timeout := timeout' }
        upper := by
  have hurl (hopen : upper.url = none) :
      setting? lookup urlVariable = setting? other urlVariable :=
    h.setting?_eq (by simp [hopen])
  have htoken (hopen : upper.token = none) :
      setting? lookup tokenVariable = setting? other tokenVariable :=
    h.setting?_eq (by simp [hopen])
  rw [merge, merge, or_eq_of_isNone hurl, or_eq_of_isNone htoken, or_eq_of_isNone htimeout]

end Agree

end Settings

namespace CommandLine

open Settings (timeoutOf IsReadable)

variable {s : Surroundings} {settings : Settings} {lookup other : String → Option String}

theorem remoteOf_eq (s : Surroundings) (settings : Settings) :
    remoteOf s settings = (timeoutOf s.environment).bind fun timeout =>
      Remote.ofSettings
        (Settings.merge
          { url := Settings.setting? s.environment Settings.urlVariable
            token := Settings.setting? s.environment Settings.tokenVariable
            timeout }
          settings) := by
  rw [remoteOf, Settings.ofEnvironment_eq]
  cases timeoutOf s.environment <;> rfl

theorem remoteOf_of_agree (h : settings.AgreeUnder lookup other)
    (hreadable : settings.timeout.isSome → IsReadable lookup ∧ IsReadable other) :
    remoteOf { s with environment := lookup } settings =
      remoteOf { s with environment := other } settings := by
  rw [remoteOf_eq, remoteOf_eq]
  cases hset : settings.timeout with
  | none =>
    rw [h.timeoutOf_eq hset]
    congr 1
    funext timeout
    rw [h.merge_eq fun _ => rfl]
  | some millis =>
    obtain ⟨hlookup, hother⟩ := hreadable (hset ▸ rfl)
    obtain ⟨timeout, htimeout⟩ := hlookup.exists_timeoutOf
    obtain ⟨timeout', htimeout'⟩ := hother.exists_timeoutOf
    have hclosed : settings.timeout = none → timeout = timeout' := fun hopen =>
      absurd (hset.symm.trans hopen) (Option.some_ne_none millis)
    have hmerge := h.merge_eq hclosed
    simp only [htimeout, htimeout', Except.bind, hmerge]

/-- An execution sees nothing of the environment but the store that it names. -/
theorem run_eq_of_remoteOf_eq {words : List Bytes} {a : QueryArguments}
    (hwords : parse words = .ok (.exec a settings))
    (h : remoteOf { s with environment := lookup } settings =
      remoteOf { s with environment := other } settings) :
    run { s with environment := lookup } words = run { s with environment := other } words := by
  rw [run, hwords, run, hwords]
  simp only [perform, execOutcome, remoteAndQuery, h]
  rfl

theorem run_of_remoteOf_error {words : List Bytes} {a : QueryArguments}
    (hwords : parse words = .ok (.exec a settings)) {e : Error}
    (h : remoteOf s settings = .error e) : run s words = report s [] (.error e) := by
  rw [run, hwords]
  simp only [perform, execOutcome, remoteAndQuery, h, bind, Except.bind]

theorem remoteOf_of_flaw {text : String} {flaw : IntegerFlaw}
    (hset : Settings.setting? s.environment Settings.timeoutVariable = some text)
    (hflaw : IntegerRange.word64.parse (trim text.toList) = .error flaw) :
    remoteOf s settings = .error (Settings.invalidTimeout flaw) := by
  have htimeout : timeoutOf s.environment = .error (Settings.invalidTimeout flaw) := by
    rw [timeoutOf, hset]
    simp only [Settings.timeoutOfText, hflaw]
    rfl
  rw [remoteOf_eq, htimeout]
  rfl

/-- Runs in two environments that differ only in variables that the options override have the same
outcome, if either no option sets the timeout or both environments have a timeout that can be read. A
timeout of the environment that cannot be read fails the run, whatever the options, and nothing is
sent. -/
theorem options_override_readable_environment {words : List Bytes} {a : QueryArguments}
    (hwords : parse words = .ok (.exec a settings)) (s : Surroundings)
    (h : settings.AgreeUnder lookup other) :
    ((settings.timeout.isSome → IsReadable lookup ∧ IsReadable other) →
      run { s with environment := lookup } words = run { s with environment := other } words) ∧
    ∀ text flaw, Settings.setting? lookup Settings.timeoutVariable = some text →
      IntegerRange.word64.parse (trim text.toList) = .error flaw →
        run { s with environment := lookup } words =
          report s [] (.error (Settings.invalidTimeout flaw)) :=
  ⟨fun hreadable => run_eq_of_remoteOf_eq hwords (remoteOf_of_agree h hreadable),
    fun _ _ hset hflaw => run_of_remoteOf_error hwords (remoteOf_of_flaw hset hflaw)⟩

/-- No variable is set, no file is there, and the endpoint has one answer. -/
def bareSurroundings (reply : Option Reply) : Surroundings where
  environment _ := none
  contentOf _ := .error .notFound
  endpoint _ := reply
  outputIsTerminal := false
  errorIsTerminal := false

/-- Options that set an address and a timeout. -/
def timedWords : List Bytes :=
  ["exec", ":a", "--url", "http://h", "--timeout-ms", "5"].map Utf8.ofString

def timedSettings : Settings := { url := some "http://h", timeout := some 5 }

theorem parse_timedWords : parse timedWords = .ok (.exec { template := ":a" } timedSettings) := by
  have hfound : (parse timedWords).toOption = some (.exec { template := ":a" } timedSettings) := by
    decide +kernel
  cases hwords : parse timedWords with
  | error flaw =>
    rw [hwords] at hfound
    cases hfound
  | ok invocation =>
    rw [hwords] at hfound
    exact congrArg Except.ok (Option.some.inj hfound)

theorem agreeUnder_timedSettings (url timeout : Option String) :
    timedSettings.AgreeUnder
      (fun name =>
        if name = Settings.urlVariable then url
        else if name = Settings.timeoutVariable then timeout
        else none)
      fun _ => none := by
  intro name hname
  have hurl : name ≠ Settings.urlVariable := fun h => hname (.inl ⟨h, rfl⟩)
  have htimeout : name ≠ Settings.timeoutVariable := fun h => hname (.inr (.inr ⟨h, rfl⟩))
  simp only [if_neg hurl, if_neg htimeout]

/-- An address and a timeout of the environment that do not matter, and a timeout that does. -/
theorem options_override_readable_environment_of_three :
    ∃ (s : Surroundings) (words : List Bytes) (a : QueryArguments) (settings : Settings)
      (readable flawed unset : String → Option String) (flaw : IntegerFlaw),
      parse words = .ok (.exec a settings) ∧
      readable Settings.urlVariable = some "ftp:" ∧
      readable Settings.timeoutVariable = some " 7 " ∧
      flawed Settings.timeoutVariable = some "soon" ∧ unset = (fun _ => none) ∧
      run { s with environment := readable } words = run { s with environment := unset } words ∧
      run { s with environment := flawed } words =
        report s [] (.error (Settings.invalidTimeout flaw)) := by
  let s := bareSurroundings none
  have hreadable := options_override_readable_environment parse_timedWords s
    (agreeUnder_timedSettings (some "ftp:") (some " 7 "))
  have hflawed := options_override_readable_environment parse_timedWords s
    (agreeUnder_timedSettings none (some "soon"))
  refine ⟨s, timedWords, _, _, _, _, _, .invalidDigit, parse_timedWords, rfl, rfl, rfl, rfl,
    hreadable.1 fun _ => ⟨?_, ?_⟩, hflawed.2 "soon" .invalidDigit (by decide) (by decide)⟩
  · intro text htext
    obtain rfl : " 7 " = text := Option.some.inj htext
    exact ⟨7, by decide⟩
  · intro text htext
    cases htext

/-- The environment has a timeout that is no number. The run fails although an option sets the
timeout, and without the variable it succeeds. -/
theorem unreadable_timeout_beats_option :
    ∃ (s : Surroundings) (words : List Bytes) (a : QueryArguments) (settings : Settings)
      (lookup other : String → Option String),
      parse words = .ok (.exec a settings) ∧ settings.timeout = some 5 ∧
      lookup Settings.timeoutVariable = some "soon" ∧ settings.AgreeUnder lookup other ∧
      (run { s with environment := lookup } words).exitCode = 2 ∧
      (run { s with environment := other } words).exitCode = 0 := by
  let s := bareSurroundings (some { status := 200, body := Utf8.ofString "\x7b\x7d" })
  refine ⟨s, timedWords, _, _, _, _, parse_timedWords, rfl, rfl,
    agreeUnder_timedSettings none (some "soon"), ?_, ?_⟩
  · decide +kernel
  · decide +kernel

end CommandLine

end SeriesQuery
