import SeriesQuery.Unicode.Direction
import SeriesQuery.Unicode.Joining
import SeriesQuery.Unicode.Mark
import SeriesQuery.Unicode.Normal
import SeriesQuery.Url.Domain.Mapping
import SeriesQuery.Url.Domain.Punycode

/-!
# Domain names

A domain name is written in ASCII. Its characters are mapped and brought to normal form, and each
label between dots is checked: it starts with no mark, its joiners stand where they change
something, and in a name with letters from the right its directions do not mix. A label with
characters outside ASCII is then written in Punycode after `xn--`; a label that comes so is read and
checked as well.
-/

namespace SeriesQuery.Domain

open Unicode

/-- The normal form of the mapped characters, or nothing if one of them is refused. -/
def normalise? (text : List Char) : Option (List Char) :=
  ((text.flatMap decompose).mapM mapChar?).map fun mapped => normalForm mapped.flatten

/-! ### Checks of a label -/

def isVirama (c : Char) : Bool := combiningClass c == viramaClass

def zeroWidthNonJoiner : Char := '\u200C'

def zeroWidthJoiner : Char := '\u200D'

/-- Whether a character may stand between two texts, of which the first is reversed. A joiner needs
a virama before it; a non-joiner can also keep two letters apart that would be joined. -/
def joinerFits (before : List Char) (c : Char) (after : List Char) : Bool :=
  if c = zeroWidthJoiner then before.head?.any isVirama
  else if c = zeroWidthNonJoiner then
    before.head?.any isVirama ||
      (before.dropWhile isTransparent).head?.any joinsNext &&
        (after.dropWhile isTransparent).head?.any joinsPrevious
  else true

def joinersFit (before : List Char) : List Char → Bool
  | [] => true
  | c :: rest => joinerFits before c rest && joinersFit (c :: before) rest

/-- Whether mapping and normal form leave a label as it is, and it can stand by itself. -/
def isStable (label : List Char) : Bool :=
  normalise? label == some label && !label.head?.any isMark && joinersFit [] label

def isRightToLeft : Direction → Bool
  | .right | .arabicNumber => true
  | _ => false

/-- Directions of a label that starts from the right: no letter from the left, one kind of numbers,
and a letter or a number at the end. -/
def rightDirectionsFit (directions : List Direction) (last : Option Direction) : Bool :=
  !directions.contains .left &&
    (last == some .right || last == some .europeanNumber || last == some .arabicNumber) &&
    !(directions.contains .europeanNumber && directions.contains .arabicNumber)

/-- Directions of a label that starts from the left: nothing from the right, and a letter or a
number at the end. -/
def leftDirectionsFit (directions : List Direction) (last : Option Direction) : Bool :=
  !directions.any isRightToLeft && (last == some .left || last == some .europeanNumber)

def directionsFit (label : List Char) : Bool :=
  let directions := label.map direction
  let last := directions.reverse.find? (· != .mark)
  match directions with
  | [] => true
  | .right :: _ => rightDirectionsFit directions last
  | .left :: _ => leftDirectionsFit directions last
  | _ => false

/-! ### Labels -/

/-- A label as it is shown and as it is written. -/
structure Label where
  shown : List Char
  ascii : List Char

def punycodeMark : List Char := ['x', 'n', '-', '-']

def isPunycode (label : List Char) : Bool := punycodeMark.isPrefixOf label

def shownLimit : Nat := 1000

def writtenLimit : Nat := 2000

/-- The label that Punycode denotes. It has to be one that ASCII alone cannot show. -/
def ofPunycode? (label : List Char) : Option Label := do
  let digits := label.drop punycodeMark.length
  if !label.all Punycode.isBasic || writtenLimit < digits.length then none
  let shown ← Punycode.decode? digits
  if shown.all Punycode.isBasic || !isStable shown then none
  return { shown, ascii := label }

/-- A label in normal form. What is written in Punycode has to read back. -/
def ofShown? (shown : List Char) : Option Label :=
  if !isStable shown then none
  else if shown.all Punycode.isBasic then some { shown, ascii := shown }
  else
    let digits := Punycode.encode shown
    if shown.length ≤ shownLimit && Punycode.decode? digits == some shown then
      some { shown, ascii := punycodeMark ++ digits }
    else none

def label? (label : List Char) : Option Label :=
  if isPunycode label then ofPunycode? label else ofShown? label

def labels? (name : List Char) : Option (List Label) := do
  let labels ← (splitAll (· == '.') (← normalise? name)).mapM label?
  let directed := labels.any fun label => label.shown.any fun c => isRightToLeft (direction c)
  if directed && !labels.all fun label => directionsFit label.shown then none
  return labels

/-! ### Names -/

def isPlain (name : List Char) : Bool :=
  name.all Punycode.isBasic && !(splitAll (· == '.') name).any isPunycode

/-- Characters that cannot be in the name of a host. -/
def isForbidden (c : Char) : Bool :=
  c.toNat ≤ 0x20 || c.toNat == 0x7F ||
    ['%', '#', '/', ':', '<', '>', '?', '@', '[', '\\', ']', '^', '|'].contains c

/-- A name in ASCII, without case. -/
def toAscii? (name : List Char) : Option (List Char) :=
  let lower := name.map Char.toLower
  let ascii :=
    if isPlain lower then some lower
    else (labels? name).map fun labels => ['.'].intercalate (labels.map Label.ascii)
  ascii.filter fun text => !text.any isForbidden

end SeriesQuery.Domain
