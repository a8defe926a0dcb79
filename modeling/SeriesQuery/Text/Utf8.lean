import SeriesQuery.Bytes

/-!
# UTF-8

Text as bytes and back. A byte string is cut into pieces: well-formed characters, and between them
the longest runs of bytes that begin a character but do not finish it. Strict decoding stops at the
first such run and says where it is; lossy decoding puts one replacement character in its place. A text is
also cut at places that are counted in its bytes.
-/

namespace SeriesQuery.Utf8

def encode (text : List Char) : Bytes :=
  text.flatMap String.utf8EncodeChar

def ofString (text : String) : Bytes :=
  encode text.toList

inductive Piece where
  | char (c : Char)
  /-- This many bytes can be the start of a character, and the byte after them refutes it. -/
  | bad (length : Nat)
  /-- The bytes end inside a character. -/
  | cut
  deriving DecidableEq

def isContinuation (b : UInt8) : Bool :=
  0x80 ≤ b && b ≤ 0xBF

/-- Whether a second byte can follow a first one: this excludes overlong forms, surrogates and what
lies beyond U+10FFFF. -/
def secondFits (first second : UInt8) : Bool :=
  (if first = 0xE0 then 0xA0 else if first = 0xF0 then 0x90 else 0x80) ≤ second &&
    second ≤ (if first = 0xED then 0x9F else if first = 0xF4 then 0x8F else 0xBF)

/-- The character of a first byte that carries `lead` and of continuation bytes that carry six bits
each. -/
def assemble (lead : Nat) (rest : List UInt8) : Char :=
  Char.ofNat (rest.foldl (fun n b => n * 64 + (b.toNat - 0x80)) lead)

def pieces : Bytes → List Piece
  | [] => []
  | a :: r =>
    if a < 0x80 then .char (assemble a.toNat []) :: pieces r
    else if a < 0xC2 || 0xF4 < a then .bad 1 :: pieces r
    else
      match r with
      | [] => [.cut]
      | b :: r₁ =>
        if !secondFits a b then .bad 1 :: pieces (b :: r₁)
        else if a < 0xE0 then .char (assemble (a.toNat - 0xC0) [b]) :: pieces r₁
        else
          match r₁ with
          | [] => [.cut]
          | c :: r₂ =>
            if !isContinuation c then .bad 2 :: pieces (c :: r₂)
            else if a < 0xF0 then .char (assemble (a.toNat - 0xE0) [b, c]) :: pieces r₂
            else
              match r₂ with
              | [] => [.cut]
              | d :: r₃ =>
                if !isContinuation d then .bad 3 :: pieces (d :: r₃)
                else .char (assemble (a.toNat - 0xF0) [b, c, d]) :: pieces r₃

/-- Where a byte string stops being text. -/
inductive Flaw where
  | sequence (length index : Nat)
  | incomplete (index : Nat)
  deriving DecidableEq

def Flaw.message : Flaw → String
  | .sequence length index => s!"invalid utf-8 sequence of {length} bytes from index {index}"
  | .incomplete index => s!"incomplete utf-8 byte sequence from index {index}"

/-- The characters, or the first piece that is none, with the number of bytes before it. -/
def charactersAt (index : Nat) : List Piece → Except Flaw (List Char)
  | [] => .ok []
  | .char c :: rest => (charactersAt (index + c.utf8Size) rest).map (c :: ·)
  | .bad length :: _ => .error (.sequence length index)
  | .cut :: _ => .error (.incomplete index)

def decode (bytes : Bytes) : Except Flaw (List Char) :=
  charactersAt 0 (pieces bytes)

def decodeLossy (bytes : Bytes) : List Char :=
  (pieces bytes).map fun
    | .char c => c
    | .bad _ | .cut => '\uFFFD'

/-- The number of bytes a text takes. -/
def size : List Char → Nat
  | [] => 0
  | c :: rest => c.utf8Size + size rest

/-- A text cut behind its first `n` bytes. It has no such cut beyond its end or within a character. -/
def cut? : Nat → List Char → Option (List Char × List Char)
  | 0, text => some ([], text)
  | _ + 1, [] => none
  | n + 1, c :: rest =>
    if c.utf8Size ≤ n + 1 then
      (cut? (n + 1 - c.utf8Size) rest).map fun parts => (c :: parts.1, parts.2)
    else none

/-- The part of a text that begins behind its first `start` bytes and takes `length` bytes. -/
def slice? (start length : Nat) (text : List Char) : Option (List Char) := do
  let (_, rest) ← cut? start text
  let (part, _) ← cut? length rest
  return part

end SeriesQuery.Utf8
