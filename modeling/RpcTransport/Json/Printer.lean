import RpcTransport.Decimal
import RpcTransport.Serialization.Error
import RpcTransport.Text.Utf8
import RpcTransport.Value

/-!
# JSON text of values

Values are written without blanks, members in the order they have. Text is escaped octet by octet:
only quotes, backslashes and controls change, so what is not ASCII stays as its UTF-8 octets.

Lists are collected as pieces and joined, which keeps the recursion as deep as the value and not as
long as its lists.
-/

namespace RpcTransport.Json

/-- A control octet as `\u00` and two digits. -/
def escapeControl (b : UInt8) : Bytes :=
  Bytes.ofAscii "\\u00" ++ (Bytes.hexOctet b).map fun c ↦ UInt8.ofNat c.toNat

def escape (b : UInt8) : Bytes :=
  if b = 0x22 then [0x5c, 0x22]
  else if b = 0x5c then [0x5c, 0x5c]
  else if b = 0x08 then [0x5c, 0x62]
  else if b = 0x09 then [0x5c, 0x74]
  else if b = 0x0a then [0x5c, 0x6e]
  else if b = 0x0c then [0x5c, 0x66]
  else if b = 0x0d then [0x5c, 0x72]
  else if b < 0x20 then escapeControl b
  else [b]

def quoted (octets : Bytes) : Bytes := 0x22 :: (octets.flatMap escape ++ [0x22])

def ofText (s : String) : Bytes := quoted (utf8 s)

def ofChars (cs : List Char) : Bytes := cs.map fun c ↦ UInt8.ofNat c.toNat

/-- Decimal digits, after a minus sign if the number is negative. -/
def ofInteger : Int → Bytes
  | .ofNat n => ofChars (Nat.toDigits 10 n)
  | .negSucc n => 0x2d :: ofChars (Nat.toDigits 10 (n + 1))

def ofNumber : Number → Bytes
  | .whole n _ _ => ofInteger n
  | .float x _ => ofChars (Decimal.text x)

/-- Pieces between two brackets, separated by commas. -/
def enclose (opening closing : UInt8) (pieces : List Bytes) : Bytes :=
  opening :: (List.intercalate [0x2c] pieces ++ [closing])

/-- One member of an object, its value already written. -/
def member (key : String) (written : Bytes) : Bytes := ofText key ++ 0x3a :: written

mutual

def ofValue : Value → Bytes
  | .null => Bytes.ofAscii "null"
  | .bool true => Bytes.ofAscii "true"
  | .bool false => Bytes.ofAscii "false"
  | .number n => ofNumber n
  | .string s => ofText s
  | .array items => enclose 0x5b 0x5d (itemPieces items [])
  | .object members => enclose 0x7b 0x7d (memberPieces members [])

def itemPieces : List Value → (done : List Bytes) → List Bytes
  | [], done => done.reverse
  | v :: vs, done => itemPieces vs (ofValue v :: done)

def memberPieces : List (String × Value) → (done : List Bytes) → List Bytes
  | [], done => done.reverse
  | (k, v) :: vs, done => memberPieces vs (member k (ofValue v) :: done)

end

theorem itemPieces_eq (items : List Value) (done : List Bytes) :
    itemPieces items done = done.reverse ++ items.map ofValue := by
  induction items generalizing done with
  | nil => simp [itemPieces]
  | cons v vs ih => simp [itemPieces, ih]

theorem memberPieces_eq (members : List (String × Value)) (done : List Bytes) :
    memberPieces members done = done.reverse ++ members.map fun m ↦ member m.1 (ofValue m.2) := by
  induction members generalizing done with
  | nil => simp [memberPieces]
  | cons m ms ih => simp [memberPieces, ih]

/-- A map of texts, its entries in the order given. -/
def ofEntries (entries : List (String × String)) : Bytes :=
  enclose 0x7b 0x7d (entries.map fun e ↦ member e.1 (ofText e.2))

def ofError (e : RemoteError) : Bytes :=
  ofEntries [("kind", e.kind), ("message", e.message)]

/-- Every document ends with a line feed. -/
def document (written : Bytes) : Bytes := written ++ [0x0a]

end RpcTransport.Json
