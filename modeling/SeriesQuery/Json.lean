import SeriesQuery.SortedMap
import SeriesQuery.Number.Shortest

/-!
# JSON trees

A JSON value. A number is kept as an integer when it has no fraction and no exponent and fits a
signed or an unsigned 64-bit word; every other number is a double. An object keeps its members in
the order they are given; `sortMembers` puts them in the order of their names.
-/

namespace SeriesQuery

namespace Json

def IsWord (n : Int) : Prop := -2 ^ 63 ≤ n ∧ n < 2 ^ 64

instance (n : Int) : Decidable (IsWord n) := inferInstanceAs (Decidable (_ ∧ _))

inductive Number where
  | integer (value : Int) (isWord : IsWord value)
  | double (value : Double)
  deriving DecidableEq

namespace Number

/-- The integer that fits a signed word. -/
def toInt64? : Number → Option Int64
  | integer n _ => if n < 2 ^ 63 then some (Int64.ofInt n) else none
  | double _ => none

def isUInt64 : Number → Bool
  | integer n _ => 0 ≤ n
  | double _ => false

/-- The nearest double, if there is one. -/
def toDouble? : Number → Option Double
  | integer n _ =>
    let magnitude := Double.ofNat n.natAbs
    some (if n < 0 then magnitude.negate else magnitude)
  | double x => some x

end Number

end Json

inductive Json where
  | null
  | boolean (value : Bool)
  | number (value : Json.Number)
  | string (value : String)
  | array (items : List Json)
  | object (members : List (String × Json))

namespace Json

def ofInt64 (n : Int64) : Json :=
  .number (.integer n.toInt ⟨Int64.le_toInt n, by have := Int64.toInt_lt n; omega⟩)

def ofByte (b : UInt8) : Json :=
  .number (.integer b.toNat (by have := b.toNat_lt; constructor <;> omega))

mutual

/-- The members of every object in the order of their names; of one name the last member stays. -/
def sortMembers : Json → Json
  | .array items => .array (sortItems items)
  | .object members => .object (sortEntries members [])
  | value => value

def sortItems : List Json → List Json
  | [] => []
  | item :: rest => item.sortMembers :: sortItems rest

def sortEntries : List (String × Json) → List (String × Json) → List (String × Json)
  | [], sorted => sorted
  | (name, value) :: rest, sorted =>
    sortEntries rest (SortedMap.insertEntry name value.sortMembers sorted)

end

end Json

end SeriesQuery
