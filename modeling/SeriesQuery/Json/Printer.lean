import SeriesQuery.Bytes
import SeriesQuery.Json

/-!
# Printing JSON

Two layouts of a tree: compact, without any space, and indented by two spaces a level. An array or
an object that is empty is written without a break in either. Strings escape the quote, the
backslash and the control characters below U+0020, and nothing else.
-/

namespace SeriesQuery.Json

def escapeChar (c : Char) : List Char :=
  if c = '"' then ['\\', '"']
  else if c = '\\' then ['\\', '\\']
  else if c = '\n' then ['\\', 'n']
  else if c = '\r' then ['\\', 'r']
  else if c = '\t' then ['\\', 't']
  else if c.toNat = 8 then ['\\', 'b']
  else if c.toNat = 12 then ['\\', 'f']
  else if c.toNat < 0x20 then ['\\', 'u', '0', '0', hexDigit (c.toNat / 16), hexDigit (c.toNat % 16)]
  else [c]

def quote (s : String) : List Char :=
  '"' :: s.toList.flatMap escapeChar ++ ['"']

def integerDigits : Int → List Char
  | .ofNat n => Nat.toDigits 10 n
  | .negSucc n => '-' :: Nat.toDigits 10 (n + 1)

def Number.digits : Number → List Char
  | .integer n _ => integerDigits n
  | .double x => x.text.toList

def boolWord : Bool → List Char
  | true => ['t', 'r', 'u', 'e']
  | false => ['f', 'a', 'l', 's', 'e']

/-- How the parts of a tree are set apart. -/
structure Layout where
  /-- What stands before an item, a key or a closing bracket that lies inside `depth` brackets. -/
  line : Nat → List Char
  afterColon : List Char

def newline (depth : Nat) : List Char :=
  '\n' :: List.replicate (2 * depth) ' '

def Layout.compact : Layout := { line := fun _ => [], afterColon := [] }

def Layout.indented : Layout := { line := newline, afterColon := [' '] }

mutual

/-- The text of a value that stands inside `depth` brackets. -/
def written (layout : Layout) (depth : Nat) : Json → List Char
  | .null => ['n', 'u', 'l', 'l']
  | .boolean b => boolWord b
  | .number n => n.digits
  | .string s => quote s
  | .array [] => ['[', ']']
  | .array (item :: rest) =>
    '[' :: layout.line (depth + 1) ++ item.written layout (depth + 1) ++
      writtenItems layout depth rest
  | .object [] => ['{', '}']
  | .object ((name, value) :: rest) =>
    '{' :: layout.line (depth + 1) ++ quote name ++ ':' :: layout.afterColon ++
      value.written layout (depth + 1) ++ writtenMembers layout depth rest

/-- The items after the first, each with its comma, and the closing bracket. -/
def writtenItems (layout : Layout) (depth : Nat) : List Json → List Char
  | [] => layout.line depth ++ [']']
  | item :: rest =>
    ',' :: layout.line (depth + 1) ++ item.written layout (depth + 1) ++
      writtenItems layout depth rest

def writtenMembers (layout : Layout) (depth : Nat) : List (String × Json) → List Char
  | [] => layout.line depth ++ ['}']
  | (name, value) :: rest =>
    ',' :: layout.line (depth + 1) ++ quote name ++ ':' :: layout.afterColon ++
      value.written layout (depth + 1) ++ writtenMembers layout depth rest

end

def compact (j : Json) : List Char :=
  j.written .compact 0

def indented (j : Json) : List Char :=
  j.written .indented 0

def compactText (j : Json) : String :=
  String.ofList j.compact

def indentedText (j : Json) : String :=
  String.ofList j.indented

end SeriesQuery.Json
