/-!
# Octet strings

Everything a connection carries is a list of octets. Lists rather than packed arrays: the codecs
below consume their input from the front, and a reader that returns the unread rest of a list needs
no index arithmetic, so what it consumed is what the rest lacks.

## Words

A word is written most significant octet first. `bigEndian width n` always has `width` octets and
drops what does not fit; `ofBigEndian` reads any number of octets back.
-/

namespace RpcTransport

abbrev Bytes := List UInt8

namespace Bytes

/-- The low `width` octets of `n`, most significant first. -/
def bigEndian : (width : Nat) → (n : Nat) → Bytes
  | 0, _ => []
  | width + 1, n => UInt8.ofNat (n >>> (8 * width)) :: bigEndian width n

def ofBigEndian (bs : Bytes) : Nat := bs.foldl (fun acc b ↦ 256 * acc + b.toNat) 0

theorem length_bigEndian (width n : Nat) : (bigEndian width n).length = width := by
  induction width with
  | zero => rfl
  | succ width ih => simp [bigEndian, ih]

/-- `some (front, rest)` when at least `n` octets are there, and then `front` has exactly `n`. -/
def splitAt? (n : Nat) (bs : Bytes) : Option (Bytes × Bytes) :=
  if (bs.take n).length = n then some (bs.take n, bs.drop n) else none

theorem splitAt?_eq_some_iff {n : Nat} {bs front rest : Bytes} :
    splitAt? n bs = some (front, rest) ↔ bs = front ++ rest ∧ front.length = n := by
  unfold splitAt?
  constructor
  · intro h
    split at h
    · next hn =>
      simp only [Option.some.injEq, Prod.mk.injEq] at h
      obtain ⟨rfl, rfl⟩ := h
      exact ⟨(List.take_append_drop n bs).symm, hn⟩
    · exact absurd h (by simp)
  · rintro ⟨rfl, rfl⟩
    simp

/-! ## Octets as text -/

def hexDigit (n : Nat) : Char :=
  if n < 10 then Char.ofNat (48 + n) else Char.ofNat (87 + n)

/-- Two lower-case hexadecimal digits. -/
def hexOctet (b : UInt8) : List Char := [hexDigit (b.toNat / 16), hexDigit (b.toNat % 16)]

def hex (bs : Bytes) : String := String.ofList (bs.flatMap hexOctet)

/-- The octets of an ASCII text given as a literal. -/
def ofAscii (s : String) : Bytes := s.toList.map fun c ↦ UInt8.ofNat c.toNat

end Bytes

end RpcTransport
