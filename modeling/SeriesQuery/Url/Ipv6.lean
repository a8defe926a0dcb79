import SeriesQuery.Bytes
import SeriesQuery.Number.Integer
import SeriesQuery.Text.Pieces

/-!
# IPv6 addresses

An address is eight groups of sixteen bits. It is read from groups of one to four hexadecimal digits
between colons. Two colons in a row stand, once, for one or more groups of zero, and the last two
groups can be written as four decimal bytes with dots between them. It is written in lower case with
the first of the longest runs of at least two zero groups left out.
-/

namespace SeriesQuery

structure Ipv6 where
  groups : List UInt16
  length_eq : groups.length = 8
  deriving DecidableEq

namespace Ipv6

def hexGroup? (digits : List Char) : Option UInt16 :=
  if digits.isEmpty || 4 < digits.length then none
  else (digits.mapM hexValue?).map fun values => UInt16.ofNat (values.foldl (fun n d => n * 16 + d) 0)

/-- A decimal number below 256 without needless zeros in front. -/
def decimalByte? (digits : List Char) : Option Nat :=
  match digits with
  | [] => none
  | '0' :: _ :: _ => none
  | digits =>
    match digits.mapM digitValue? with
    | none => none
    | some values =>
      let n := values.foldl (fun n d => n * 10 + d) 0
      if n < 256 then some n else none

/-- The two groups of four decimal bytes. -/
def decimalGroups? (text : List Char) : Option (List UInt16) := do
  match ← (splitAll (· == '.') text).mapM decimalByte? with
  | [a, b, c, d] => some [UInt16.ofNat (a * 256 + b), UInt16.ofNat (c * 256 + d)]
  | _ => none

/-- The groups of the pieces between colons. The last piece can hold decimal bytes if `decimals`
says so. -/
def groupsOf? (decimals : Bool) : List (List Char) → Option (List UInt16)
  | [] => some []
  | [last] =>
    if decimals && last.contains '.' then decimalGroups? last
    else (hexGroup? last).map fun group => [group]
  | piece :: pieces => do
    let group ← hexGroup? piece
    let groups ← groupsOf? decimals pieces
    return group :: groups

def side? (decimals : Bool) (text : List Char) : Option (List UInt16) :=
  if text.isEmpty then some [] else groupsOf? decimals (splitAll (· == ':') text)

/-- The texts before and after the first two colons in a row. -/
def splitGap? : List Char → Option (List Char × List Char)
  | ':' :: ':' :: rest => some ([], rest)
  | c :: rest => (splitGap? rest).map fun sides => (c :: sides.1, sides.2)
  | [] => none

def ofGroups? (groups : List UInt16) : Option Ipv6 :=
  if h : groups.length = 8 then some ⟨groups, h⟩ else none

def parse? (text : List Char) : Option Ipv6 := do
  match splitGap? text with
  | none => ofGroups? (← side? true text)
  | some (before, after) =>
    let left ← side? false before
    let right ← side? true after
    if left.length + right.length < 8 then
      ofGroups? (left ++ List.replicate (8 - (left.length + right.length)) 0 ++ right)
    else none

/-- The length of the run of zeros at the start. -/
def zeros (groups : List UInt16) : Nat := (groups.takeWhile (· == 0)).length

/-- Where the first of the longest runs of zeros starts, and its length. -/
def longestRun : List UInt16 → Nat × Nat
  | [] => (0, 0)
  | group :: rest =>
    let here := zeros (group :: rest)
    let later := longestRun rest
    if later.2 ≤ here then (0, here) else (later.1 + 1, later.2)

def groupText (group : UInt16) : List Char := Nat.toDigits 16 group.toNat

def groupsText (groups : List UInt16) : List Char :=
  [':'].intercalate (groups.map groupText)

def text (a : Ipv6) : List Char :=
  let (start, length) := longestRun a.groups
  if length < 2 then groupsText a.groups
  else groupsText (a.groups.take start) ++ ':' :: ':' :: groupsText (a.groups.drop (start + length))

end Ipv6

end SeriesQuery
