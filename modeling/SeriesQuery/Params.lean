import SeriesQuery.Cell.Reader
import SeriesQuery.Error
import SeriesQuery.Json.Printer

/-!
# Params files

A params file is a JSON object of names and values. A scalar is the cell that it looks like, and an
object has to be a cell with its kind. The names come in ascending order; of a repeated name the
last value counts, and the first name in order whose value is no cell decides the error.
-/

namespace SeriesQuery

/-- Why a file cannot be read. -/
inductive FileFault where
  | notFound
  | permissionDenied
  | notDirectory
  | isDirectory
  deriving DecidableEq

namespace FileFault

def message : FileFault → String
  | notFound => "No such file or directory (os error 2)"
  | permissionDenied => "Permission denied (os error 13)"
  | notDirectory => "Not a directory (os error 20)"
  | isDirectory => "Is a directory (os error 21)"

def kind : FileFault → ErrorKind
  | notFound => .notFound
  | permissionDenied => .permission
  | notDirectory | isDirectory => .io

end FileFault

namespace Params

def taggedHint : String :=
  "Tagged cells look like \x7b\"type\": \"timestamp\", \"value\": 1000\x7d."

def integerTooLarge (n : Json.Number) : Error :=
  { kind := .encoding
    message := some (String.ofList n.digits ++ " does not fit a signed 64-bit long") }

def notRepresentable (n : Json.Number) : Error :=
  { kind := .encoding
    message := some (String.ofList n.digits ++ " is not a representable double") }

def arrayValue : Error :=
  { kind := .usage, message := some "arrays are not cells; use a tagged set cell" }

def invalidTagged (reason : Json.Mismatch) : Error :=
  { kind := .usage
    message := some "invalid tagged cell in params file"
    hint := some taggedHint
    causes := [reason.message] }

/-- An integer if it is one, or else a double. -/
def cellOfNumber (n : Json.Number) : Except Error Cell :=
  match n.toInt64? with
  | some i => .ok (.integer i)
  | none =>
    if n.isUInt64 then .error (integerTooLarge n)
    else
      match n.toDouble? with
      | some x => .ok (.ofDouble x)
      | none => .error (notRepresentable n)

theorem cellOfNumber_integer {n : Int} (hword : Json.IsWord n) :
    cellOfNumber (.integer n hword) =
      if n < 2 ^ 63 then .ok (.integer (Int64.ofInt n))
      else .error (integerTooLarge (.integer n hword)) := by
  rw [cellOfNumber, Json.Number.toInt64?]
  by_cases hlong : n < 2 ^ 63
  · rw [if_pos hlong, if_pos hlong]
  · have hunsigned : Json.Number.isUInt64 (.integer n hword) :=
      decide_eq_true (by omega)
    rw [if_neg hlong, if_neg hlong]
    exact if_pos hunsigned

def cellOfJson : Json → Except Error Cell
  | .null => .ok .null
  | .boolean b => .ok (.boolean b)
  | .string s => .ok (.ofText s)
  | .number n => cellOfNumber n
  | .array _ => .error arrayValue
  | .object members =>
    match Cell.ofJson (.object members) with
    | .ok cell => .ok cell
    | .error reason => .error (invalidTagged reason)

def entryOfMember (member : String × Json) : Except Error (String × Cell) :=
  match cellOfJson member.2 with
  | .ok cell => .ok (member.1, cell)
  | .error e => .error (e.withParameter member.1)

def notObject : Error :=
  { kind := .usage, message := some "params file must hold a json object of name -> cell" }

def ofJson : Json → Except Error (List (String × Cell))
  | .object members => members.mapM entryOfMember
  | _ => .error notObject

def ofText (text : List Char) : Except Error (List (String × Cell)) :=
  match Json.parse text with
  | .ok tree => ofJson tree
  | .error fault =>
    .error {
      kind := .usage, message := some "params file is not valid json",
      causes := [fault.message text] }

def unreadable (kind : ErrorKind) (path : String) (cause : String) : Error :=
  { kind, message := some ("failed to read params file " ++ path), causes := [cause] }

/-- The entries of the file that is shown as `path`. -/
def ofFile (path : String) (content : Except FileFault Bytes) : Except Error (List (String × Cell)) :=
  match content with
  | .error fault => .error (unreadable fault.kind path fault.message)
  | .ok bytes =>
    match Utf8.decode bytes with
    | .error _ => .error (unreadable .io path "stream did not contain valid UTF-8")
    | .ok text => ofText text

end Params

end SeriesQuery
