import RpcTransport.Bytes

/-!
# MessagePack markers

The first octet of every value tells its class and either holds its size or says how many octets do.
`Marker.ofOctet` is total, because all 256 octets have a meaning, one of them "reserved".
-/

namespace RpcTransport.MessagePack

/-- Where a size stands: in the marker, or in that many octets after it. -/
inductive Extent where
  | inline (size : Nat)
  | counted (width : Nat)
deriving DecidableEq, Repr

inductive Marker where
  | null
  | reserved
  | bool (b : Bool)
  /-- A number from 0 to 127 in the marker. -/
  | positive (n : Nat)
  /-- The negation, from -1 to -32, of a number in the marker. -/
  | negative (n : Nat)
  | unsigned (width : Nat)
  | signed (width : Nat)
  | float (width : Nat)
  | text (size : Extent)
  | octets (size : Extent)
  | array (size : Extent)
  | map (size : Extent)
  | extension (size : Extent)
deriving DecidableEq, Repr

namespace Marker

def ofOctet (b : UInt8) : Marker :=
  let n := b.toNat
  if n < 0x80 then .positive n
  else if n < 0x90 then .map (.inline (n - 0x80))
  else if n < 0xa0 then .array (.inline (n - 0x90))
  else if n < 0xc0 then .text (.inline (n - 0xa0))
  else if n = 0xc0 then .null
  else if n = 0xc1 then .reserved
  else if n = 0xc2 then .bool false
  else if n = 0xc3 then .bool true
  else if n < 0xc7 then .octets (.counted (Nat.pow 2 (n - 0xc4)))
  else if n < 0xca then .extension (.counted (Nat.pow 2 (n - 0xc7)))
  else if n < 0xcc then .float (Nat.pow 2 (n - 0xc8))
  else if n < 0xd0 then .unsigned (Nat.pow 2 (n - 0xcc))
  else if n < 0xd4 then .signed (Nat.pow 2 (n - 0xd0))
  else if n < 0xd9 then .extension (.inline (Nat.pow 2 (n - 0xd4)))
  else if n < 0xdc then .text (.counted (Nat.pow 2 (n - 0xd9)))
  else if n < 0xde then .array (.counted (Nat.pow 2 (n - 0xdb)))
  else if n < 0xe0 then .map (.counted (Nat.pow 2 (n - 0xdd)))
  else .negative (256 - n)

def isNumeric : Marker → Bool
  | .positive _ | .negative _ | .unsigned _ | .signed _ | .float _ => true
  | _ => false

/-- A class name with its size: `FixStr(3)`, or `Str16` with the width in bits. -/
def sized (word : String) : Extent → String
  | .inline n => s!"Fix{word}({n})"
  | .counted w => s!"{word}{8 * w}"

/-- The name error texts use. -/
def name : Marker → String
  | .null => "Null"
  | .reserved => "Reserved"
  | .bool true => "True"
  | .bool false => "False"
  | .positive n => s!"FixPos({n})"
  | .negative n => s!"FixNeg(-{n})"
  | .unsigned w => s!"U{8 * w}"
  | .signed w => s!"I{8 * w}"
  | .float w => s!"F{8 * w}"
  | .text size => sized "Str" size
  | .octets size => sized "Bin" size
  | .array size => sized "Array" size
  | .map size => sized "Map" size
  | .extension (.inline n) => s!"FixExt{n}"
  | .extension (.counted w) => s!"Ext{8 * w}"

end Marker

end RpcTransport.MessagePack
