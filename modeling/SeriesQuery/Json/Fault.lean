import SeriesQuery.Json
import SeriesQuery.Text.Quoted
import SeriesQuery.Text.Utf8

/-!
# Why a text is refused

Reading fails in one of two ways. A text that is no JSON has a flaw at a place; the place is kept as
the number of bytes that are left after it, and becomes a line and a column when the whole text is
known. A text that is JSON but denotes no value of the wanted type has a mismatch, which names what
was found and what was wanted.
-/

namespace SeriesQuery.Json

inductive Flaw where
  | endInValue
  | endInObject
  | endInArray
  | endInString
  | noValue
  | wrongWord
  | noColon
  | noMemberEnd
  | noItemEnd
  | keyNotString
  | trailingComma
  | trailingCharacters
  | badNumber
  | numberOutOfRange
  | badEscape
  | loneSurrogate
  | unfinishedSurrogate
  | controlCharacter
  | tooDeep
  deriving DecidableEq

namespace Flaw

def message : Flaw → String
  | endInValue => "EOF while parsing a value"
  | endInObject => "EOF while parsing an object"
  | endInArray => "EOF while parsing a list"
  | endInString => "EOF while parsing a string"
  | noValue => "expected value"
  | wrongWord => "expected ident"
  | noColon => "expected `:`"
  | noMemberEnd => "expected `,` or `\x7d`"
  | noItemEnd => "expected `,` or `]`"
  | keyNotString => "key must be a string"
  | trailingComma => "trailing comma"
  | trailingCharacters => "trailing characters"
  | badNumber => "invalid number"
  | numberOutOfRange => "number out of range"
  | badEscape => "invalid escape"
  | loneSurrogate => "lone leading surrogate in hex escape"
  | unfinishedSurrogate => "unexpected end of hex escape"
  | controlCharacter => "control character (\\u0000-\\u001F) found while parsing a string"
  | tooDeep => "recursion limit exceeded"

/-- Whether the text only lacks something at its end. -/
def isEnd : Flaw → Bool
  | endInValue | endInObject | endInArray | endInString => true
  | _ => false

end Flaw

/-- What a reader came upon instead of what it wanted. -/
inductive Found where
  | null
  | boolean (value : Bool)
  | number (value : Number)
  | string (value : String)
  | sequence
  | map
  deriving DecidableEq

def Found.message : Found → String
  | null => "null"
  | boolean b => s!"boolean `{b}`"
  | number (.integer n _) => s!"integer `{n}`"
  | number (.double x) => s!"floating point `{x.text}`"
  | string s => s!"string {quoted s}"
  | sequence => "sequence"
  | map => "map"

/-- The outermost form of a tree. -/
def found : Json → Found
  | .null => .null
  | .boolean b => .boolean b
  | .number n => .number n
  | .string s => .string s
  | .array _ => .sequence
  | .object _ => .map

inductive Mismatch where
  | wrongType (found : Found) (wanted : String)
  | wrongValue (found : Found) (wanted : String)
  | wrongLength (length : Nat) (wanted : String)
  | missingField (name : String)
  | duplicateField (name : String)
  | unknownVariant (name : String) (known : List String)
  deriving DecidableEq

def Mismatch.message : Mismatch → String
  | wrongType found wanted => s!"invalid type: {found.message}, expected {wanted}"
  | wrongValue found wanted => s!"invalid value: {found.message}, expected {wanted}"
  | wrongLength length wanted => s!"invalid length {length}, expected {wanted}"
  | missingField name => s!"missing field `{name}`"
  | duplicateField name => s!"duplicate field `{name}`"
  | unknownVariant name known =>
    let choices := ", ".intercalate (known.map fun choice => s!"`{choice}`")
    s!"unknown variant `{name}`, expected one of {choices}"

inductive Fault where
  /-- The flaw shows when this many bytes of the text are left. -/
  | malformed (flaw : Flaw) (left : Nat)
  | mismatch (reason : Mismatch)
  deriving DecidableEq

/-- A place in a text: lines count from one, and the column is the number of bytes of the line
before the place. -/
structure Place where
  line : Nat
  column : Nat
  deriving DecidableEq

def Place.ofRead (bytes : Bytes) : Place :=
  bytes.foldl
    (fun place b => if b = 0x0A then ⟨place.line + 1, 0⟩ else ⟨place.line, place.column + 1⟩)
    ⟨1, 0⟩

namespace Fault

/-- A flaw that shows just before the rest of the text. -/
def here (flaw : Flaw) (rest : List Char) : Fault :=
  .malformed flaw (Utf8.size rest)

/-- A flaw that shows in the first byte of the rest of the text, which counts as read. -/
def next (flaw : Flaw) (rest : List Char) : Fault :=
  .malformed flaw (Utf8.size rest - 1)

/-- The message about a fault of the given text. A mismatch has no place. -/
def message (text : List Char) : Fault → String
  | malformed flaw left =>
    let bytes := Utf8.encode text
    let place := Place.ofRead (bytes.take (bytes.length - left))
    s!"{flaw.message} at line {place.line} column {place.column}"
  | mismatch reason => reason.message

end Fault

end SeriesQuery.Json
