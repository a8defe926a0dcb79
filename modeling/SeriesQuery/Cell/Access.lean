import SeriesQuery.Cell
import SeriesQuery.Error

/-!
# Reading cells

For each type a test whether a cell holds it, and a read that fails on every cell that does not. A
read never converts: an integer is no double, and a number at either end of the 32-bit range is not
read as a 32-bit one.
-/

namespace SeriesQuery.Cell

def isNull (c : Cell) : Bool := c matches .null

def hasBinary (c : Cell) : Bool := c matches .binary _

/-- Whether the bytes are well-formed text is only judged when they are read. -/
def hasText (c : Cell) : Bool := c.hasBinary

def hasLong (c : Cell) : Bool := c matches .integer _

/-- Strictly inside the 32-bit range: both bounds are left out. -/
def hasInt : Cell → Bool
  | integer v => Int32.minValue.toInt64 < v && v < Int32.maxValue.toInt64
  | _ => false

def hasRawNumeric : Cell → Bool
  | numeric raw => !raw.isEmpty
  | _ => false

def hasFloat : Cell → Bool
  | numeric raw => raw.length == Single.byteLength
  | _ => false

def hasDouble : Cell → Bool
  | numeric raw => raw.length == Double.byteLength
  | _ => false

def hasTimestamp (c : Cell) : Bool := c matches .timestamp _

def hasBoolean (c : Cell) : Bool := c matches .boolean _

def hasSet (c : Cell) : Bool := c matches .set _

def hasMap (c : Cell) : Bool := c matches .map _

/-- How an error names what a cell holds. -/
def heldName : Cell → String
  | numeric raw => s!"numeric ({raw.length} bytes)"
  | c => c.kind.name

def mismatch (c : Cell) (wanted : String) : Error :=
  { kind := .wrongVariantAccess, message := some s!"cannot read {wanted} from a {c.heldName} cell" }

def getBinary : Cell → Except Error Bytes
  | binary payload => .ok payload
  | c => .error (c.mismatch "binary")

def getText (c : Cell) : Except Error String :=
  match c.getBinary with
  | .error e => .error e
  | .ok payload =>
    match Utf8.decode payload with
    | .ok text => .ok (String.ofList text)
    | .error flaw =>
      .error {
        kind := .encoding, message := some "binary cell is not valid utf-8", causes := [flaw.message] }

def getLong : Cell → Except Error Int64
  | integer value => .ok value
  | c => .error (c.mismatch "long")

def getInt (c : Cell) : Except Error Int32 :=
  match c with
  | integer value =>
    if c.hasInt then .ok value.toInt32
    else .error {
      kind := .wrongVariantAccess
      message := some s!"integer {value.toInt} does not fit in 32 bits"
      hint := some "Read it with `long()` instead." }
  | c => .error (c.mismatch "int")

def getRawNumeric (c : Cell) : Except Error Bytes :=
  match c with
  | numeric raw => if raw.isEmpty then .error (c.mismatch "raw numeric") else .ok raw
  | c => .error (c.mismatch "raw numeric")

def widthError (what : String) (width : Nat) (raw : Bytes) : Error :=
  { kind := .wrongVariantAccess
    message := some s!"{what} needs exactly {width} raw numeric bytes, found {raw.length}" }

def decodeSingle (raw : Bytes) : Except Error Single :=
  match Single.ofBytes? raw with
  | some x => .ok x
  | none => .error (widthError "float" Single.byteLength raw)

def decodeDouble (raw : Bytes) : Except Error Double :=
  match Double.ofBytes? raw with
  | some x => .ok x
  | none => .error (widthError "double" Double.byteLength raw)

def getFloat (c : Cell) : Except Error Single :=
  if c.hasFloat then c.getRawNumeric >>= decodeSingle else .error (c.mismatch "float")

def getDouble (c : Cell) : Except Error Double :=
  if c.hasDouble then c.getRawNumeric >>= decodeDouble else .error (c.mismatch "double")

def getTimestamp : Cell → Except Error Int64
  | timestamp millis => .ok millis
  | c => .error (c.mismatch "timestamp")

def getBoolean : Cell → Except Error Bool
  | boolean value => .ok value
  | c => .error (c.mismatch "boolean")

def getSet : Cell → Except Error (List Bytes)
  | set members => .ok members
  | c => .error (c.mismatch "set")

def getMap : Cell → Except Error Bytes
  | map encoded => .ok encoded
  | c => .error (c.mismatch "map")

end SeriesQuery.Cell
