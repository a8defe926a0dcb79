import SeriesQuery.Text.Utf8

/-!
# Percent encoding

A byte of a text can be written as a percent sign and two hexadecimal digits. Decoding leaves a
percent sign alone that no two digits follow. Encoding replaces the bytes of the characters of a
given set, and of every character outside ASCII.
-/

namespace SeriesQuery.Percent

/-- The bytes of a text with its percent signs resolved. -/
def decode (text : List Char) : Bytes :=
  match text with
  | [] => []
  | '%' :: high :: low :: rest =>
    match hexValue? high, hexValue? low with
    | some h, some l => UInt8.ofNat (16 * h + l) :: decode rest
    | _, _ => Utf8.encode ['%'] ++ decode (high :: low :: rest)
  | c :: rest => Utf8.encode [c] ++ decode rest

def upperHexDigit (n : Nat) : Char := (hexDigit n).toUpper

def encodeByte (b : UInt8) : List Char :=
  ['%', upperHexDigit (b.toNat / 16), upperHexDigit (b.toNat % 16)]

def encodeChar (reserved : Char → Bool) (c : Char) : List Char :=
  if c.toNat < 0x80 && !reserved c then [c] else (Utf8.encode [c]).flatMap encodeByte

def encode (reserved : Char → Bool) (text : List Char) : List Char :=
  text.flatMap (encodeChar reserved)

end SeriesQuery.Percent
