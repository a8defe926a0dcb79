import SeriesQuery.Error
import SeriesQuery.SortedMap

/-!
# Placeholders

A placeholder of a query template is a colon, an ASCII letter, and the ASCII letters, digits and
underscores that follow it. A template is searched once from left to right: at each place the
longest name counts, and the search goes on behind it.
-/

namespace SeriesQuery

def isNameStart (c : Char) : Bool :=
  ('a' ≤ c && c ≤ 'z') || ('A' ≤ c && c ≤ 'Z')

def isNameChar (c : Char) : Bool :=
  isNameStart c || ('0' ≤ c && c ≤ '9') || c == '_'

/-- The longest name that stands at the front of a text. -/
def nameAtFront? : List Char → Option (List Char)
  | ':' :: c :: rest => if isNameStart c then some (':' :: c :: rest.takeWhile isNameChar) else none
  | _ => none

/-- The names that the search finds when the first `taken` characters belong to an earlier one. -/
def namesBehind : Nat → List Char → List (List Char)
  | _, [] => []
  | taken + 1, _ :: rest => namesBehind taken rest
  | 0, c :: rest =>
    match nameAtFront? (c :: rest) with
    | some name => name :: namesBehind (name.length - 1) rest
    | none => namesBehind 0 rest

/-- All occurrences of names, from left to right. -/
def nameOccurrences (text : List Char) : List (List Char) :=
  namesBehind 0 text

/-- The distinct names of one template, with their colons. -/
structure PlaceholderSet where
  declared : NameMap Unit
  deriving DecidableEq

namespace PlaceholderSet

def names (s : PlaceholderSet) : List String := s.declared.keys

def contains (s : PlaceholderSet) (name : String) : Bool := s.declared.contains name

def size (s : PlaceholderSet) : Nat := s.declared.size

def isEmpty (s : PlaceholderSet) : Bool := s.declared.entries.isEmpty

def ofText (template : List Char) : PlaceholderSet :=
  ⟨.ofList ((nameOccurrences template).map fun name => (String.ofList name, ()))⟩

end PlaceholderSet

def emptyTemplate : Error :=
  { kind := .invalidTemplate, message := some "query text must not be null or empty" }

/-- The placeholders of a template. Only the empty text is no template. -/
def scanPlaceholders (template : String) : Except Error PlaceholderSet :=
  if template.isEmpty then .error emptyTemplate else .ok (.ofText template.toList)

end SeriesQuery
