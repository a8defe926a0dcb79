import SeriesQuery.Error
import SeriesQuery.Json.Typed

/-!
# Reading errors

A reported error is an object with the member `error`, which holds a kind and texts that may be
missing or null. Other members do not matter. Both objects can also be arrays of their members in
order, and then none may be missing. A kind that is not known counts as internal.
-/

namespace SeriesQuery.Error

def reportWanted : String := "struct RemoteError with 4 elements"

def envelopeWanted : String := "struct ErrorEnvelope with 1 element"

/-- The members of a report that have been read. A text that is null has been read all the same. -/
structure ReportFields where
  kind : Option String := none
  message : Option (Option String) := none
  hint : Option (Option String) := none
  parameter : Option (Option String) := none

def readKind : List Char → Json.Read (String × List Char) :=
  Json.readString "a string"

def readOptional : List Char → Json.Read (Option String × List Char) :=
  Json.readStringOrNull "a string"

def readReportMember (fields : ReportFields) (key : String) (text : List Char) :
    Json.Read (ReportFields × List Char) :=
  if key = "kind" then
    Json.mapValue (fun kind => { fields with kind }) (Json.readOnce "kind" fields.kind readKind text)
  else if key = "message" then
    Json.mapValue (fun message => { fields with message })
      (Json.readOnce "message" fields.message readOptional text)
  else if key = "hint" then
    Json.mapValue (fun hint => { fields with hint })
      (Json.readOnce "hint" fields.hint readOptional text)
  else if key = "parameter" then
    Json.mapValue (fun parameter => { fields with parameter })
      (Json.readOnce "parameter" fields.parameter readOptional text)
  else do return (fields, ← Json.skipValue (← Json.readColon text))

/-- The next item of an array that has to have one more than `length`. -/
def requiredItem (wanted : String) (length : Nat) (text : List Char) : Json.Read (List Char) := do
  match ← Json.nextItem (length == 0) text with
  | .finished _ => .error (.mismatch (.wrongLength length wanted))
  | .more rest => return rest

def readReportItems (text : List Char) : Json.Read (ReportFields × List Char) := do
  let (kind, rest) ← readKind (← requiredItem reportWanted 0 text)
  let (message, rest) ← readOptional (← requiredItem reportWanted 1 rest)
  let (hint, rest) ← readOptional (← requiredItem reportWanted 2 rest)
  let (parameter, rest) ← readOptional (← requiredItem reportWanted 3 rest)
  let fields : ReportFields :=
    { kind := some kind, message := some message, hint := some hint, parameter := some parameter }
  return (fields, ← Json.endArray rest)

def ReportFields.finish (fields : ReportFields) : Except Json.Mismatch Error :=
  match fields.kind with
  | none => .error (.missingField "kind")
  | some kind =>
    .ok
      { kind := (ErrorKind.ofName? kind).getD .internal
        message := fields.message.getD none
        hint := fields.hint.getD none
        parameter := fields.parameter.getD none }

def readReport (depth : Nat) (text : List Char) : Json.Read (Error × List Char) := do
  let (fields, rest) ← Json.readFields "struct RemoteError" (fun _ => readReportMember)
    (fun _ => readReportItems) {} depth text
  Json.lift fields.finish rest

def readEnvelopeMember (depth : Nat) (report : Option Error) (key : String) (text : List Char) :
    Json.Read (Option Error × List Char) :=
  if key = "error" then Json.readOnce "error" report (readReport depth) text
  else do return (report, ← Json.skipValue (← Json.readColon text))

def readEnvelopeItems (depth : Nat) (text : List Char) : Json.Read (Option Error × List Char) := do
  let (report, rest) ← readReport depth (← requiredItem envelopeWanted 0 text)
  return (some report, ← Json.endArray rest)

def readEnvelope (depth : Nat) (text : List Char) : Json.Read (Error × List Char) := do
  let (report, rest) ←
    Json.readFields "struct ErrorEnvelope" readEnvelopeMember readEnvelopeItems none depth text
  match report with
  | some e => return (e, rest)
  | none => .error (.mismatch (.missingField "error"))

/-- The error that a whole text reports. -/
def parse (text : List Char) : Except Json.Fault Error :=
  Json.readWhole (readEnvelope Json.depthLimit) text

end SeriesQuery.Error
