import SeriesQuery.Json.Fault

/-!
# The words of JSON

Readers for white space, fixed words, strings and numbers. Each takes the text that is left and
gives what it read together with the text that is left after it. A string has three readers: as
text, as raw bytes, and as something to skip. Raw bytes may hold control characters and surrogates
that have no partner.
-/

namespace SeriesQuery.Json

/-- What a reader gives, mostly a value and the text after it. -/
abbrev Read := Except Fault

def isSpace (c : Char) : Bool :=
  c == ' ' || c == '\n' || c == '\t' || c == '\r'

def skipSpace (text : List Char) : List Char :=
  text.dropWhile isSpace

/-- The rest of a word whose first letter has been read. -/
def readWord : List Char → List Char → Read (List Char)
  | [], rest => .ok rest
  | _ :: _, [] => .error (.here .endInValue [])
  | expected :: word, c :: rest =>
    if c = expected then readWord word rest else .error (.next .wrongWord (c :: rest))

def simpleEscape? (c : Char) : Option Char :=
  if c = '"' ∨ c = '\\' ∨ c = '/' then some c
  else if c = 'b' then some (Char.ofNat 8)
  else if c = 'f' then some (Char.ofNat 12)
  else if c = 'n' then some '\n'
  else if c = 'r' then some '\r'
  else if c = 't' then some '\t'
  else none

/-- The number of four hexadecimal digits. -/
def hexUnit? (a b c d : Char) : Option Nat := do
  let a ← hexValue? a
  let b ← hexValue? b
  let c ← hexValue? c
  let d ← hexValue? d
  return ((a * 16 + b) * 16 + c) * 16 + d

/-- The fault of a text that should begin with four hexadecimal digits: four bytes of it are taken
before they are judged. -/
def hexUnitFault (rest : List Char) : Fault :=
  if Utf8.size rest < 4 then .here .endInString [] else .malformed .badEscape (Utf8.size rest - 4)

def isLead (n : Nat) : Bool := 0xD800 ≤ n && n ≤ 0xDBFF

def isTrail (n : Nat) : Bool := 0xDC00 ≤ n && n ≤ 0xDFFF

/-- The character of a pair of surrogates. -/
def pairedChar (lead trail : Nat) : Char :=
  Char.ofNat (0x10000 + (lead - 0xD800) * 0x400 + (trail - 0xDC00))

/-- The three bytes of a surrogate that has no partner, in the pattern of the characters
around it. -/
def surrogateBytes (n : Nat) : Bytes :=
  [UInt8.ofNat (0xE0 + n / 0x1000), UInt8.ofNat (0x80 + n / 0x40 % 0x40),
    UInt8.ofNat (0x80 + n % 0x40)]

/-- Changes the value that was read. -/
def mapValue {α β : Type} (f : α → β) (r : Read (α × List Char)) : Read (β × List Char) :=
  match r with
  | .error fault => .error fault
  | .ok (a, rest) => .ok (f a, rest)

/-- The text of a string after its opening quote. -/
def readText : List Char → Read (List Char × List Char)
  | [] => .error (.here .endInString [])
  | '"' :: rest => .ok ([], rest)
  | '\\' :: [] => .error (.here .endInString [])
  | '\\' :: 'u' :: a :: b :: c :: d :: rest =>
    match hexUnit? a b c d with
    | none => .error (hexUnitFault (a :: b :: c :: d :: rest))
    | some n =>
      if isTrail n then .error (.here .loneSurrogate rest)
      else if isLead n then
        match rest with
        | [] | ['\\'] => .error (.here .endInString [])
        | '\\' :: 'u' :: e :: f :: g :: h :: after =>
          match hexUnit? e f g h with
          | none => .error (hexUnitFault (e :: f :: g :: h :: after))
          | some m =>
            if isTrail m then mapValue (pairedChar n m :: ·) (readText after)
            else .error (.here .loneSurrogate after)
        | '\\' :: 'u' :: after => .error (hexUnitFault after)
        | '\\' :: after => .error (.next .unfinishedSurrogate after)
        | after => .error (.next .unfinishedSurrogate after)
      else mapValue (Char.ofNat n :: ·) (readText rest)
  | '\\' :: 'u' :: rest => .error (hexUnitFault rest)
  | '\\' :: c :: rest =>
    match simpleEscape? c with
    | none => .error (.next .badEscape (c :: rest))
    | some x => mapValue (x :: ·) (readText rest)
  | c :: rest =>
    if c.toNat < 0x20 then .error (.next .controlCharacter (c :: rest))
    else mapValue (c :: ·) (readText rest)

/-- The bytes of a string after its opening quote. -/
def readRaw : List Char → Read (Bytes × List Char)
  | [] => .error (.here .endInString [])
  | '"' :: rest => .ok ([], rest)
  | '\\' :: [] => .error (.here .endInString [])
  | '\\' :: 'u' :: a :: b :: c :: d :: rest =>
    match hexUnit? a b c d with
    | none => .error (hexUnitFault (a :: b :: c :: d :: rest))
    | some n =>
      if isLead n then
        match rest with
        | '\\' :: 'u' :: e :: f :: g :: h :: after =>
          match hexUnit? e f g h with
          | none => .error (hexUnitFault (e :: f :: g :: h :: after))
          | some m =>
            if isTrail m then mapValue (String.utf8EncodeChar (pairedChar n m) ++ ·) (readRaw after)
            else mapValue (surrogateBytes n ++ ·) (readRaw ('\\' :: 'u' :: e :: f :: g :: h :: after))
        | after => mapValue (surrogateBytes n ++ ·) (readRaw after)
      else if isTrail n then mapValue (surrogateBytes n ++ ·) (readRaw rest)
      else mapValue (String.utf8EncodeChar (Char.ofNat n) ++ ·) (readRaw rest)
  | '\\' :: 'u' :: rest => .error (hexUnitFault rest)
  | '\\' :: c :: rest =>
    match simpleEscape? c with
    | none => .error (.next .badEscape (c :: rest))
    | some x => mapValue (String.utf8EncodeChar x ++ ·) (readRaw rest)
  | c :: rest => mapValue (String.utf8EncodeChar c ++ ·) (readRaw rest)

/-- What is left after a string whose value is not wanted: surrogates need no partner. -/
def skipText : List Char → Read (List Char)
  | [] => .error (.here .endInString [])
  | '"' :: rest => .ok rest
  | '\\' :: [] => .error (.here .endInString [])
  | '\\' :: 'u' :: a :: b :: c :: d :: rest =>
    match hexUnit? a b c d with
    | none => .error (hexUnitFault (a :: b :: c :: d :: rest))
    | some _ => skipText rest
  | '\\' :: 'u' :: rest => .error (hexUnitFault rest)
  | '\\' :: c :: rest =>
    match simpleEscape? c with
    | none => .error (.next .badEscape (c :: rest))
    | some _ => skipText rest
  | c :: rest =>
    if c.toNat < 0x20 then .error (.here .controlCharacter (c :: rest)) else skipText rest

/-!
### Numbers

The digits of a number are gathered into a significand of 64 bits. A digit that does not fit is
dropped: before the point it raises the exponent, after the point it has no effect. The value is the
significand as a double, multiplied or divided by a power of ten, and each of these steps rounds.
-/

def significandLimit : Nat := 2 ^ 64 - 1

def exponentLimit : Nat := 2 ^ 31 - 1

/-- Appends digits to a number as long as it stays within the limit, and counts them. -/
def gather (limit value : Nat) : List Char → Nat × Nat
  | [] => (value, 0)
  | c :: rest =>
    let grown := value * 10 + (c.toNat - '0'.toNat)
    if grown ≤ limit then
      let (total, count) := gather limit grown rest
      (total, count + 1)
    else (value, 0)

def powerOfTen (n : Nat) : Double :=
  Double.ofNat (10 ^ n)

/-- Divides by the three hundred and eighth power of ten again and again, until nothing is left to
divide. -/
def divideLarge : Nat → Double → Double
  | 0, x => x
  | n + 1, x => if x.isZero then x else divideLarge n (x.divMagnitude (powerOfTen 308))

/-- The significand times a power of ten, or `none` when that is too large. -/
def scaled? (significand : Nat) (exponent : Int) : Option Double :=
  let x := Double.ofNat significand
  if 0 ≤ exponent then
    if exponent ≤ 308 then
      let product := x.mulMagnitude (powerOfTen exponent.toNat)
      if product.isInfinite then none else some product
    else if x.isZero then some x
    else none
  else
    let places := exponent.natAbs
    let steps := (places - 1) / 308
    some ((divideLarge steps x).divMagnitude (powerOfTen (places - 308 * steps)))

def signed (negative : Bool) (x : Double) : Double :=
  if negative then x.negate else x

def scaledNumber (negative : Bool) (significand : Nat) (exponent : Int) (rest : List Char) :
    Read (Number × List Char) :=
  match scaled? significand exponent with
  | none => .error (.here .numberOutOfRange rest)
  | some x => .ok (.double (signed negative x), rest)

/-- A number from its exponent mark on. -/
def readExponent (negative : Bool) (significand : Nat) (exponent : Int) (text : List Char) :
    Read (Number × List Char) :=
  let (down, text) :=
    match text with
    | '+' :: rest => (false, rest)
    | '-' :: rest => (true, rest)
    | rest => (false, rest)
  match text with
  | [] => .error (.here .endInValue [])
  | c :: after =>
    if isDigit c then
      let digits := text.takeWhile isDigit
      let rest := text.dropWhile isDigit
      let (value, count) := gather exponentLimit 0 digits
      if count < digits.length then
        if significand ≠ 0 ∧ !down then .error (.here .numberOutOfRange (text.drop (count + 1)))
        else .ok (.double (signed negative (Double.ofNat 0)), rest)
      else scaledNumber negative significand (if down then exponent - value else exponent + value) rest
    else .error (.next .badNumber (c :: after))

/-- A number from its point on: at least one digit has to follow. -/
def readFraction (negative : Bool) (significand : Nat) (exponent : Int) (text : List Char) :
    Read (Number × List Char) :=
  let digits := text.takeWhile isDigit
  let rest := text.dropWhile isDigit
  if digits.isEmpty then
    match rest with
    | [] => .error (.here .endInValue [])
    | rest => .error (.next .badNumber rest)
  else
    let (value, count) := gather significandLimit significand digits
    match rest with
    | 'e' :: after | 'E' :: after => readExponent negative value (exponent - count) after
    | rest => scaledNumber negative value (exponent - count) rest

/-- A number without fraction and exponent. Minus zero and what fits no word are doubles. -/
def wholeNumber (negative : Bool) (magnitude : Nat) : Number :=
  let value : Int := if negative then -magnitude else magnitude
  if h : IsWord value ∧ ¬(negative ∧ magnitude = 0) then .integer value h.1
  else .double (signed negative (Double.ofNat magnitude))

/-- A number after its sign. -/
def readNumber (negative : Bool) (text : List Char) : Read (Number × List Char) :=
  match text with
  | [] => .error (.here .endInValue [])
  | c :: after =>
    if !isDigit c then .error (.next .badNumber (c :: after))
    else if c = '0' ∧ (after.head?.any isDigit) then .error (.next .badNumber after)
    else
      let digits := text.takeWhile isDigit
      let rest := text.dropWhile isDigit
      let (significand, count) := gather significandLimit 0 digits
      let dropped : Int := (digits.length - count : Nat)
      match rest with
      | '.' :: r => readFraction negative significand dropped r
      | 'e' :: r | 'E' :: r => readExponent negative significand dropped r
      | rest =>
        if dropped = 0 then .ok (wholeNumber negative significand, rest)
        else scaledNumber negative significand dropped rest

def skipExponent (text : List Char) : Read (List Char) :=
  let text :=
    match text with
    | '+' :: rest | '-' :: rest => rest
    | rest => rest
  match text with
  | [] => .error (.here .badNumber [])
  | c :: rest =>
    if isDigit c then .ok (rest.dropWhile isDigit) else .error (.next .badNumber (c :: rest))

def skipFraction (text : List Char) : Read (List Char) :=
  match text.takeWhile isDigit, text.dropWhile isDigit with
  | [], rest => .error (.next .badNumber rest)
  | _, 'e' :: rest | _, 'E' :: rest => skipExponent rest
  | _, rest => .ok rest

/-- What is left after a number whose value is not wanted, from behind its sign. -/
def skipNumber (text : List Char) : Read (List Char) :=
  match text with
  | [] => .error (.here .badNumber [])
  | c :: after =>
    if !isDigit c then .error (.next .badNumber (c :: after))
    else if c = '0' ∧ (after.head?.any isDigit) then .error (.next .badNumber after)
    else
      match text.dropWhile isDigit with
      | '.' :: rest => skipFraction rest
      | 'e' :: rest | 'E' :: rest => skipExponent rest
      | rest => .ok rest

end SeriesQuery.Json
