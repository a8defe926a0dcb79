/-!
# Text without terminal control

A terminal takes control characters, and sequences that start with an escape, as commands. What is
left of a text without them is what a reader sees; of the control characters only white space stays.
-/

namespace SeriesQuery.Terminal

/-- What the next character belongs to. -/
inductive Mode where
  | text
  /-- Behind an escape. -/
  | escape
  /-- Behind an escape and intermediate characters, of which one more ends the sequence. -/
  | intermediate
  /-- In a control sequence, which a character from `@` on ends. -/
  | sequence
  /-- In a system command, which a bell ends. -/
  | systemCommand
  /-- In a string that only a new escape, a cancel or a substitute ends. -/
  | string
  deriving DecidableEq

def isSpace (n : Nat) : Bool :=
  n == 0x20 || n == 0x09 || n == 0x0A || n == 0x0C || n == 0x0D

/-- The mode after a character of an escape sequence. -/
def afterEscape (n : Nat) : Mode :=
  if n < 0x20 || n == 0x7F then .escape
  else if n < 0x30 then .intermediate
  else if n == 0x5B then .sequence
  else if n == 0x5D then .systemCommand
  else if n == 0x50 || n == 0x58 || n == 0x5E || n == 0x5F then .string
  else .text

/-- Whether a character is seen, and the mode after it. -/
def step (mode : Mode) (n : Nat) : Bool × Mode :=
  if n == 0x1B then (false, .escape)
  else if n == 0x18 || n == 0x1A then (false, .text)
  else if 0x80 ≤ n then (true, .text)
  else
    match mode with
    | .text => (isSpace n || 0x20 ≤ n && n < 0x7F, .text)
    | .escape => if n < 0x20 && isSpace n then (true, .text) else (false, afterEscape n)
    | .intermediate =>
      if n < 0x20 && isSpace n then (true, .text)
      else (false, if 0x30 ≤ n && n < 0x7F then .text else .intermediate)
    | .sequence =>
      if n < 0x20 && isSpace n then (true, .text)
      else (false, if 0x40 ≤ n && n < 0x7F then .text else .sequence)
    | .systemCommand => (false, if n == 0x07 then .text else .systemCommand)
    | .string => (false, .string)

def visibleFrom (mode : Mode) : List Char → List Char
  | [] => []
  | c :: rest =>
    let (seen, next) := step mode c.toNat
    if seen then c :: visibleFrom next rest else visibleFrom next rest

/-- The characters of a text that are seen. -/
def visible (text : List Char) : List Char := visibleFrom .text text

end SeriesQuery.Terminal
