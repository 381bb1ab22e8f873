import RpcTransport.Serialization.Error
import RpcTransport.Text.Utf8
import RpcTransport.Value

/-!
# MessagePack octets of values

Every size and every whole number takes its shortest form, and a whole number that is not negative
takes an unsigned one. Floating-point numbers are always eight octets. A record is a map from field
names to fields.
-/

namespace RpcTransport.MessagePack

/-! ## Heads -/

/-- A whole number from 0 to `2 ^ 64 - 1`. -/
def ofNat (n : Nat) : Bytes :=
  if n < 0x80 then [UInt8.ofNat n]
  else if n < 0x100 then 0xcc :: Bytes.bigEndian 1 n
  else if n < 0x10000 then 0xcd :: Bytes.bigEndian 2 n
  else if n < 0x100000000 then 0xce :: Bytes.bigEndian 4 n
  else 0xcf :: Bytes.bigEndian 8 n

/-- The negation of a number from 1 to `2 ^ 63`. A complement of `w` octets is the difference from
`256 ^ w`. -/
def ofNegative (n : Nat) : Bytes :=
  if n ≤ 32 then [UInt8.ofNat (256 - n)]
  else if n ≤ 0x80 then 0xd0 :: Bytes.bigEndian 1 (0x100 - n)
  else if n ≤ 0x8000 then 0xd1 :: Bytes.bigEndian 2 (0x10000 - n)
  else if n ≤ 0x80000000 then 0xd2 :: Bytes.bigEndian 4 (0x100000000 - n)
  else 0xd3 :: Bytes.bigEndian 8 (0x10000000000000000 - n)

def ofInteger : Int → Bytes
  | .ofNat n => ofNat n
  | .negSucc n => ofNegative (n + 1)

def ofFloat (x : Binary64) : Bytes := 0xcb :: Bytes.bigEndian 8 x.bits.toNat

def textHead (n : Nat) : Bytes :=
  if n < 32 then [UInt8.ofNat (0xa0 + n)]
  else if n < 0x100 then 0xd9 :: Bytes.bigEndian 1 n
  else if n < 0x10000 then 0xda :: Bytes.bigEndian 2 n
  else 0xdb :: Bytes.bigEndian 4 n

def octetsHead (n : Nat) : Bytes :=
  if n < 0x100 then 0xc4 :: Bytes.bigEndian 1 n
  else if n < 0x10000 then 0xc5 :: Bytes.bigEndian 2 n
  else 0xc6 :: Bytes.bigEndian 4 n

def arrayHead (n : Nat) : Bytes :=
  if n < 16 then [UInt8.ofNat (0x90 + n)]
  else if n < 0x10000 then 0xdc :: Bytes.bigEndian 2 n
  else 0xdd :: Bytes.bigEndian 4 n

def mapHead (n : Nat) : Bytes :=
  if n < 16 then [UInt8.ofNat (0x80 + n)]
  else if n < 0x10000 then 0xde :: Bytes.bigEndian 2 n
  else 0xdf :: Bytes.bigEndian 4 n

/-! ## Values -/

def ofText (s : String) : Bytes :=
  let octets := utf8 s
  textHead octets.length ++ octets

def ofOctets (bs : Bytes) : Bytes := octetsHead bs.length ++ bs

def ofNumber : Number → Bytes
  | .whole n _ _ => ofInteger n
  | .float x _ => ofFloat x

mutual

def ofValue : Value → Bytes
  | .null => [0xc0]
  | .bool true => [0xc3]
  | .bool false => [0xc2]
  | .number n => ofNumber n
  | .string s => ofText s
  | .array items => arrayHead items.length ++ (itemPieces items []).flatten
  | .object members => mapHead members.length ++ (memberPieces members []).flatten

/-- The octets of each item, collected in reverse first. -/
def itemPieces : List Value → (done : List Bytes) → List Bytes
  | [], done => done.reverse
  | v :: vs, done => itemPieces vs (ofValue v :: done)

def memberPieces : List (String × Value) → (done : List Bytes) → List Bytes
  | [], done => done.reverse
  | (k, v) :: vs, done => memberPieces vs ((ofText k ++ ofValue v) :: done)

end

theorem itemPieces_eq (items : List Value) (done : List Bytes) :
    itemPieces items done = done.reverse ++ items.map ofValue := by
  induction items generalizing done with
  | nil => simp [itemPieces]
  | cons v vs ih => simp [itemPieces, ih]

theorem memberPieces_eq (members : List (String × Value)) (done : List Bytes) :
    memberPieces members done = done.reverse ++ members.map fun m ↦ ofText m.1 ++ ofValue m.2 := by
  induction members generalizing done with
  | nil => simp [memberPieces]
  | cons m ms ih => simp [memberPieces, ih]

/-- A map of texts, its entries in the order given. -/
def ofEntries (entries : List (String × String)) : Bytes :=
  mapHead entries.length ++ entries.flatMap fun e ↦ ofText e.1 ++ ofText e.2

def ofError (e : RemoteError) : Bytes :=
  ofEntries [("kind", e.kind), ("message", e.message)]

end RpcTransport.MessagePack
