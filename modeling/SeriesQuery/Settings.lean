import SeriesQuery.Error
import SeriesQuery.Number.Integer
import SeriesQuery.Text.Pieces

/-!
# Settings of the endpoint

The address of the endpoint, the token that is sent to it, and the time after which a request is
given up. Each may be unset. Settings are put on top of each other: what the upper ones leave unset
is taken from the lower ones. The lowest come from the environment, where a blank value counts as
unset.
-/

namespace SeriesQuery

structure Settings where
  url : Option String := none
  token : Option String := none
  /-- In milliseconds. -/
  timeout : Option UInt64 := none
  deriving DecidableEq

namespace Settings

def empty : Settings := {}

/-- What `upper` sets wins. -/
def merge (lower upper : Settings) : Settings where
  url := upper.url.or lower.url
  token := upper.token.or lower.token
  timeout := upper.timeout.or lower.timeout

def urlVariable : String := "TSQUERY_URL"

def tokenVariable : String := "TSQUERY_TOKEN"

def timeoutVariable : String := "TSQUERY_TIMEOUT_MS"

/-- The value of a variable as it stands, unless it is blank. -/
def setting? (lookup : String → Option String) (name : String) : Option String :=
  (lookup name).filter fun value => !(trim value.toList).isEmpty

def invalidTimeout (flaw : IntegerFlaw) : Error :=
  { kind := .usage
    message := some (timeoutVariable ++ " must be a whole number of milliseconds")
    causes := [flaw.message] }

def timeoutOfText (text : String) : Except Error UInt64 :=
  match IntegerRange.word64.parse (trim text.toList) with
  | .ok millis => .ok (UInt64.ofNat millis.toNat)
  | .error flaw => .error (invalidTimeout flaw)

def ofEnvironment (lookup : String → Option String) : Except Error Settings := do
  let timeout ← match setting? lookup timeoutVariable with
    | some text => some <$> timeoutOfText text
    | none => .ok none
  return { url := setting? lookup urlVariable, token := setting? lookup tokenVariable, timeout }

end Settings

end SeriesQuery
