import SeriesQuery.Json.Lexical

/-!
# Reading JSON

The brackets, commas and keys of JSON, and two readers of whole values: one that builds a tree, and
one that only finds the end of a value that is not wanted. Readers of other types use the same
steps. Brackets may be nested 127 deep; each reader takes the depth that is still allowed. A value
that is skipped may be nested to any depth.
-/

namespace SeriesQuery.Json

def depthLimit : Nat := 127

/-- Where an array or an object goes on: after its closing bracket, or at its next item or key. -/
inductive Next where
  | finished (rest : List Char)
  | more (rest : List Char)

/-- The next item of an array, before the first one or after an earlier one. -/
def nextItem (first : Bool) (text : List Char) : Except Fault Next :=
  match skipSpace text with
  | [] => .error (.here .endInArray [])
  | ']' :: rest => .ok (.finished rest)
  | c :: rest =>
    if first then .ok (.more (c :: rest))
    else if c = ',' then
      match skipSpace rest with
      | [] => .error (.here .endInValue [])
      | ']' :: after => .error (.next .trailingComma (']' :: after))
      | item => .ok (.more item)
    else .error (.next .noItemEnd (c :: rest))

/-- The next key of an object, from behind its opening quote. -/
def nextKey (first : Bool) (text : List Char) : Except Fault Next :=
  match skipSpace text with
  | [] => .error (.here .endInObject [])
  | '}' :: rest => .ok (.finished rest)
  | c :: rest =>
    if first then
      if c = '"' then .ok (.more rest) else .error (.next .keyNotString (c :: rest))
    else if c = ',' then
      match skipSpace rest with
      | [] => .error (.here .endInValue [])
      | '"' :: key => .ok (.more key)
      | '}' :: after => .error (.next .trailingComma ('}' :: after))
      | other => .error (.next .keyNotString other)
    else .error (.next .noMemberEnd (c :: rest))

/-- The end of an array that has had all its items. -/
def endArray (text : List Char) : Read (List Char) :=
  match skipSpace text with
  | [] => .error (.here .endInArray [])
  | ']' :: rest => .ok rest
  | ',' :: rest =>
    match skipSpace rest with
    | ']' :: after => .error (.next .trailingComma (']' :: after))
    | other => .error (.next .trailingCharacters other)
  | other => .error (.next .trailingCharacters other)

def readColon (text : List Char) : Read (List Char) :=
  match skipSpace text with
  | [] => .error (.here .endInObject [])
  | ':' :: rest => .ok rest
  | other => .error (.next .noColon other)

/-- The items of an array from behind its opening bracket. Each item takes at least a comma, so the
length of the text bounds their number. -/
def readItemsFrom {α : Type} (item : List Char → Read (α × List Char)) :
    Nat → Bool → List Char → Read (List α × List Char)
  | 0, _, _ => .error (.here .endInArray [])
  | bound + 1, first, text => do
    match ← nextItem first text with
    | .finished rest => return ([], rest)
    | .more text =>
      let (value, rest) ← item text
      let (values, rest) ← readItemsFrom item bound false rest
      return (value :: values, rest)

def readItems {α : Type} (item : List Char → Read (α × List Char)) (text : List Char) :
    Read (List α × List Char) :=
  readItemsFrom item (text.length + 1) true text

/-- The members of an object from behind its opening bracket. Each key changes a state, which starts
as `state`; the reader of a member finds the colon and the value before it. -/
def readMembersFrom {σ : Type} (member : σ → String → List Char → Read (σ × List Char)) :
    Nat → Bool → σ → List Char → Read (σ × List Char)
  | 0, _, _, _ => .error (.here .endInObject [])
  | bound + 1, first, state, text => do
    match ← nextKey first text with
    | .finished rest => return (state, rest)
    | .more text =>
      let (key, rest) ← readText text
      let (state, rest) ← member state (String.ofList key) rest
      readMembersFrom member bound false state rest

def readMembers {σ : Type} (member : σ → String → List Char → Read (σ × List Char)) (state : σ)
    (text : List Char) : Read (σ × List Char) :=
  readMembersFrom member (text.length + 1) true state text

/-- Puts a member among those of an object that is read as a tree. -/
def readTreeMember (value : List Char → Read (Json × List Char)) (members : List (String × Json))
    (name : String) (text : List Char) : Read (List (String × Json) × List Char) := do
  let (value, rest) ← value (← readColon text)
  return (SortedMap.insertEntry name value members, rest)

/-- A value as a tree. The members of an object are put in order, and the last of one name stays. -/
def readTree (depth : Nat) (text : List Char) : Read (Json × List Char) :=
  match skipSpace text with
  | [] => .error (.here .endInValue [])
  | 'n' :: rest => do return (.null, ← readWord ['u', 'l', 'l'] rest)
  | 't' :: rest => do return (.boolean true, ← readWord ['r', 'u', 'e'] rest)
  | 'f' :: rest => do return (.boolean false, ← readWord ['a', 'l', 's', 'e'] rest)
  | '-' :: rest => mapValue Json.number (readNumber true rest)
  | '"' :: rest => mapValue (fun s => .string (String.ofList s)) (readText rest)
  | '[' :: rest =>
    match depth with
    | 0 => .error (.next .tooDeep ('[' :: rest))
    | depth + 1 => mapValue Json.array (readItems (readTree depth) rest)
  | '{' :: rest =>
    match depth with
    | 0 => .error (.next .tooDeep ('{' :: rest))
    | depth + 1 => mapValue Json.object (readMembers (readTreeMember (readTree depth)) [] rest)
  | c :: rest =>
    if isDigit c then mapValue Json.number (readNumber false (c :: rest))
    else .error (.next .noValue (c :: rest))

/-- The items of an array that is skipped, after one of them. -/
def skipItemsFrom (value : List Char → Read (List Char)) : Nat → List Char → Read (List Char)
  | 0, _ => .error (.here .endInArray [])
  | bound + 1, text =>
    match skipSpace text with
    | [] => .error (.here .endInArray [])
    | ']' :: rest => .ok rest
    | ',' :: rest => do skipItemsFrom value bound (← value rest)
    | other => .error (.next .noItemEnd other)

/-- A member of an object that is skipped. -/
def skipMember (value : List Char → Read (List Char)) (text : List Char) : Read (List Char) :=
  match skipSpace text with
  | [] => .error (.here .endInObject [])
  | '"' :: rest => do
    let rest ← skipText rest
    let rest ← readColon rest
    value rest
  | other => .error (.next .keyNotString other)

/-- The members of an object that is skipped, after one of them. -/
def skipMembersFrom (value : List Char → Read (List Char)) : Nat → List Char → Read (List Char)
  | 0, _ => .error (.here .endInObject [])
  | bound + 1, text =>
    match skipSpace text with
    | [] => .error (.here .endInObject [])
    | '}' :: rest => .ok rest
    | ',' :: rest => do skipMembersFrom value bound (← skipMember value rest)
    | other => .error (.next .noMemberEnd other)

/-- The end of a value that is nested at most `bound` deep. -/
def skipNested (bound : Nat) (text : List Char) : Read (List Char) :=
  match skipSpace text with
  | [] => .error (.here .endInValue [])
  | 'n' :: rest => readWord ['u', 'l', 'l'] rest
  | 't' :: rest => readWord ['r', 'u', 'e'] rest
  | 'f' :: rest => readWord ['a', 'l', 's', 'e'] rest
  | '-' :: rest => skipNumber rest
  | '"' :: rest => skipText rest
  | '[' :: rest =>
    match bound with
    | 0 => .error (.next .tooDeep ('[' :: rest))
    | bound + 1 =>
      match skipSpace rest with
      | [] => .error (.here .endInArray [])
      | ']' :: rest => .ok rest
      | rest => do skipItemsFrom (skipNested bound) (rest.length + 1) (← skipNested bound rest)
  | '{' :: rest =>
    match bound with
    | 0 => .error (.next .tooDeep ('{' :: rest))
    | bound + 1 =>
      match skipSpace rest with
      | [] => .error (.here .endInObject [])
      | '}' :: rest => .ok rest
      | rest => do
        skipMembersFrom (skipNested bound) (rest.length + 1) (← skipMember (skipNested bound) rest)
  | c :: rest =>
    if isDigit c then skipNumber (c :: rest) else .error (.next .noValue (c :: rest))

/-- The end of a value of any depth: a text has no more brackets than characters. -/
def skipValue (text : List Char) : Read (List Char) :=
  skipNested text.length text

/-- Reads a whole text: only white space may follow the value. -/
def readWhole {α : Type} (value : List Char → Read (α × List Char)) (text : List Char) :
    Except Fault α := do
  let (a, rest) ← value text
  match skipSpace rest with
  | [] => return a
  | other => .error (.next .trailingCharacters other)

/-- The tree of a whole text. -/
def parse (text : List Char) : Except Fault Json :=
  readWhole (readTree depthLimit) text

end SeriesQuery.Json
