import SeriesQuery.Json.Reader

/-!
# Reading values of a wanted type

Readers for strings, numbers, names of variants, arrays, and objects with known fields. Where
something else stands, its first word is read so that the mismatch can name it, and a flaw in that
word comes first.
-/

namespace SeriesQuery.Json

/-- The fault of a value that is not of the wanted type. -/
def unwanted (wanted : String) (text : List Char) : Fault :=
  let because (found : Found) : Fault := .mismatch (.wrongType found wanted)
  let word (letters : List Char) (rest : List Char) (found : Found) : Fault :=
    match readWord letters rest with
    | .error fault => fault
    | .ok _ => because found
  let number (r : Read (Number × List Char)) : Fault :=
    match r with
    | .error fault => fault
    | .ok (n, _) => because (.number n)
  match text with
  | 'n' :: rest => word ['u', 'l', 'l'] rest .null
  | 't' :: rest => word ['r', 'u', 'e'] rest (.boolean true)
  | 'f' :: rest => word ['a', 'l', 's', 'e'] rest (.boolean false)
  | '-' :: rest => number (readNumber true rest)
  | '"' :: rest =>
    match readText rest with
    | .error fault => fault
    | .ok (s, _) => because (.string (String.ofList s))
  | '[' :: _ => because .sequence
  | '{' :: _ => because .map
  | [] => .next .noValue []
  | c :: rest =>
    if isDigit c then number (readNumber false (c :: rest)) else .next .noValue (c :: rest)

/-- A judgement about a value that has been read, as the outcome of reading it. -/
def lift {α : Type} (result : Except Mismatch α) (rest : List Char) : Read (α × List Char) :=
  match result with
  | .ok a => .ok (a, rest)
  | .error reason => .error (.mismatch reason)

def readString (wanted : String) (text : List Char) : Read (String × List Char) :=
  match skipSpace text with
  | [] => .error (.here .endInValue [])
  | '"' :: rest => mapValue String.ofList (readText rest)
  | other => .error (unwanted wanted other)

def readStringOrNull (wanted : String) (text : List Char) : Read (Option String × List Char) :=
  match skipSpace text with
  | 'n' :: rest => do return (none, ← readWord ['u', 'l', 'l'] rest)
  | other => mapValue some (readString wanted other)

/-- The value that has a name, among all values there are. -/
def variant {α : Type} (all : List α) (name : α → String) (s : String) : Except Mismatch α :=
  match all.find? fun a => name a == s with
  | some a => .ok a
  | none => .error (.unknownVariant s (all.map name))

def variantWanted : String := "variant identifier"

def readVariantName {α : Type} (all : List α) (name : α → String) (text : List Char) :
    Read (α × List Char) := do
  let (s, rest) ← readString variantWanted text
  lift (variant all name s) rest

def readNull (text : List Char) : Read (List Char) :=
  match skipSpace text with
  | [] => .error (.here .endInValue [])
  | 'n' :: rest => readWord ['u', 'l', 'l'] rest
  | other => .error (unwanted "unit" other)

/-- A variant without payload: its name, or an object with the name as its only key and null as its
value. -/
def readVariant {α : Type} (all : List α) (name : α → String) (depth : Nat) (text : List Char) :
    Read (α × List Char) :=
  match skipSpace text with
  | [] => .error (.here .endInValue [])
  | '"' :: rest => readVariantName all name ('"' :: rest)
  | '{' :: rest =>
    if depth = 0 then .error (.next .tooDeep ('{' :: rest))
    else do
      let (a, rest) ← readVariantName all name rest
      let rest ← readColon rest
      let rest ← readNull rest
      match skipSpace rest with
      | [] => .error (.here .endInObject [])
      | '}' :: rest => return (a, rest)
      | other => .error (.here .noValue other)
  | other => .error (.next .noValue other)

/-- A number that a type accepts or refuses. -/
def readNumberAs {α : Type} (accept : Number → Except Mismatch α) (wanted : String)
    (text : List Char) : Read (α × List Char) :=
  match skipSpace text with
  | [] => .error (.here .endInValue [])
  | '-' :: rest => do
    let (n, rest) ← readNumber true rest
    lift (accept n) rest
  | c :: rest =>
    if isDigit c then do
      let (n, rest) ← readNumber false (c :: rest)
      lift (accept n) rest
    else .error (unwanted wanted (c :: rest))

/-- The items of an array. Their reader takes the depth that is left inside it. -/
def readArray {α : Type} (item : Nat → List Char → Read (α × List Char)) (wanted : String)
    (depth : Nat) (text : List Char) : Read (List α × List Char) :=
  match skipSpace text with
  | [] => .error (.here .endInValue [])
  | '[' :: rest =>
    match depth with
    | 0 => .error (.next .tooDeep ('[' :: rest))
    | depth + 1 => readItems (item depth) rest
  | other => .error (unwanted wanted other)

/-- The fields of an object that are wanted at most once each, or the items of an array in their
order. -/
def readFields {σ : Type} (wanted : String)
    (member : Nat → σ → String → List Char → Read (σ × List Char))
    (items : Nat → List Char → Read (σ × List Char)) (start : σ) (depth : Nat) (text : List Char) :
    Read (σ × List Char) :=
  match skipSpace text with
  | [] => .error (.here .endInValue [])
  | '[' :: rest =>
    match depth with
    | 0 => .error (.next .tooDeep ('[' :: rest))
    | depth + 1 => items depth rest
  | '{' :: rest =>
    match depth with
    | 0 => .error (.next .tooDeep ('{' :: rest))
    | depth + 1 => readMembers (member depth) start rest
  | other => .error (unwanted wanted other)

/-- A field that may be given once. -/
def readOnce {α : Type} (name : String) (earlier : Option α)
    (value : List Char → Read (α × List Char)) (text : List Char) :
    Read (Option α × List Char) :=
  match earlier with
  | some _ => .error (.mismatch (.duplicateField name))
  | none => do mapValue some (value (← readColon text))

end SeriesQuery.Json
