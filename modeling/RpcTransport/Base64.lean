import RpcTransport.Bytes

/-!
# Standard base64

Three octets become four letters of the standard alphabet, and a final group of one or two octets
is padded with `=`. Reading accepts exactly the written forms: the length is a multiple of four,
padding ends the last group only, and the bits that padding leaves over are zero.
-/

namespace RpcTransport.Base64

/-- The letter of a six-bit number. -/
def letter (n : Nat) : UInt8 :=
  if n < 26 then UInt8.ofNat (65 + n)
  else if n < 52 then UInt8.ofNat (71 + n)
  else if n < 62 then UInt8.ofNat (n - 4)
  else if n = 62 then 43
  else 47

def sextet? (b : UInt8) : Option Nat :=
  let n := b.toNat
  if 65 ≤ n ∧ n ≤ 90 then some (n - 65)
  else if 97 ≤ n ∧ n ≤ 122 then some (n - 71)
  else if 48 ≤ n ∧ n ≤ 57 then some (n + 4)
  else if n = 43 then some 62
  else if n = 47 then some 63
  else none

def pad : UInt8 := 61

/-- Written octets are collected in reverse, so that long strings need no deep recursion. -/
def encodeFrom (acc : Bytes) : Bytes → Bytes
  | [] => acc.reverse
  | [a] =>
    (pad :: pad :: letter (a.toNat % 4 * 16) :: letter (a.toNat / 4) :: acc).reverse
  | [a, b] =>
    (pad :: letter (b.toNat % 16 * 4) :: letter (a.toNat % 4 * 16 + b.toNat / 16) ::
      letter (a.toNat / 4) :: acc).reverse
  | a :: b :: c :: rest =>
    encodeFrom
      (letter (c.toNat % 64) :: letter (b.toNat % 16 * 4 + c.toNat / 64) ::
        letter (a.toNat % 4 * 16 + b.toNat / 16) :: letter (a.toNat / 4) :: acc) rest

def encode (bs : Bytes) : Bytes := encodeFrom [] bs

/-- One octet from the last group, which has two letters and two pads. -/
def lastOne? (a b : Nat) : Option UInt8 :=
  if b % 16 = 0 then some (UInt8.ofNat (4 * a + b / 16)) else none

/-- Two octets from the last group, which has three letters and one pad. -/
def lastTwo? (a b c : Nat) : Option (UInt8 × UInt8) :=
  if c % 4 = 0 then some (UInt8.ofNat (4 * a + b / 16), UInt8.ofNat (b % 16 * 16 + c / 4)) else none

def decodeFrom? (acc : Bytes) : Bytes → Option Bytes
  | [] => some acc.reverse
  | a :: b :: c :: d :: rest => do
    let x ← sextet? a
    let y ← sextet? b
    if c = pad then
      if d = pad ∧ rest.isEmpty then return ((← lastOne? x y) :: acc).reverse else none
    else
      let z ← sextet? c
      if d = pad then
        if rest.isEmpty then
          let (p, q) ← lastTwo? x y z
          return (q :: p :: acc).reverse
        else none
      else
        let w ← sextet? d
        decodeFrom?
          (UInt8.ofNat (z % 4 * 64 + w) :: UInt8.ofNat (y % 16 * 16 + z / 4) ::
            UInt8.ofNat (4 * x + y / 16) :: acc) rest
  | _ => none

def decode? (bs : Bytes) : Option Bytes := decodeFrom? [] bs

end RpcTransport.Base64
