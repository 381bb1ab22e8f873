import Mathlib.Tactic.Ring
import RpcTransport.Bytes

/-!
# Words are read back

A word in octets tells its number, as far as its width goes, and the number tells the octets.
-/

namespace RpcTransport.Bytes

private theorem foldl_bigEndian (width n acc : Nat) :
    (bigEndian width n).foldl (fun acc b ↦ 256 * acc + b.toNat) acc =
      acc * 256 ^ width + n % 256 ^ width := by
  induction width generalizing acc with
  | zero => rw [bigEndian, List.foldl_nil, Nat.pow_zero, Nat.mul_one, Nat.mod_one, Nat.add_zero]
  | succ width ih =>
    have hdigit : (UInt8.ofNat (n >>> (8 * width))).toNat = n / 256 ^ width % 256 := by
      rw [UInt8.toNat_ofNat', Nat.shiftRight_eq_div_pow, Nat.pow_mul]
    rw [bigEndian, List.foldl_cons, ih, hdigit, Nat.mod_pow_succ, Nat.pow_succ]
    ring

/-- Reading a word back gives its low octets. -/
theorem ofBigEndian_bigEndian (width n : Nat) :
    ofBigEndian (bigEndian width n) = n % 256 ^ width := by
  rw [ofBigEndian, foldl_bigEndian, Nat.zero_mul, Nat.zero_add]

/-! ## Octets of a number that was read -/

private theorem foldl_ofBigEndian (bs : Bytes) (acc : Nat) :
    bs.foldl (fun acc b ↦ 256 * acc + b.toNat) acc = acc * 256 ^ bs.length + ofBigEndian bs := by
  induction bs generalizing acc with
  | nil => simp [ofBigEndian]
  | cons b bs ih =>
    rw [ofBigEndian, List.foldl_cons, List.foldl_cons, ih, ih, List.length_cons, Nat.pow_succ]
    ring

theorem ofBigEndian_cons (b : UInt8) (bs : Bytes) :
    ofBigEndian (b :: bs) = b.toNat * 256 ^ bs.length + ofBigEndian bs := by
  rw [ofBigEndian, List.foldl_cons, foldl_ofBigEndian, Nat.mul_zero, Nat.zero_add]

theorem ofBigEndian_lt (bs : Bytes) : ofBigEndian bs < 256 ^ bs.length := by
  induction bs with
  | nil => decide
  | cons b bs ih =>
    have hdigit : (b.toNat + 1) * 256 ^ bs.length ≤ 256 * 256 ^ bs.length :=
      Nat.mul_le_mul_right _ b.toNat_lt
    rw [Nat.add_mul, Nat.one_mul] at hdigit
    rw [ofBigEndian_cons, List.length_cons, Nat.pow_succ]
    omega

/-- What does not fit is not written. -/
private theorem bigEndian_mul_add (width n k : Nat) :
    bigEndian width (k * 256 ^ width + n) = bigEndian width n := by
  induction width generalizing k with
  | zero => rfl
  | succ width ih =>
    have hsplit : k * 256 ^ (width + 1) = k * 256 * 256 ^ width := by ring
    have hdigit : (k * 256 * 256 ^ width + n) >>> (8 * width) =
        256 * k + n >>> (8 * width) := by
      have hpos : 0 < 256 ^ width := Nat.pow_pos (by decide)
      rw [Nat.shiftRight_eq_div_pow, Nat.shiftRight_eq_div_pow, Nat.pow_mul, Nat.add_comm,
        Nat.add_mul_div_right _ _ hpos]
      ring
    rw [bigEndian, bigEndian, hsplit, ih, hdigit]
    congr 1
    refine UInt8.toNat_inj.mp ?_
    rw [UInt8.toNat_ofNat', UInt8.toNat_ofNat', Nat.mul_add_mod]

/-- Writing the number of a word gives the word. -/
theorem bigEndian_ofBigEndian (bs : Bytes) : bigEndian bs.length (ofBigEndian bs) = bs := by
  induction bs with
  | nil => rfl
  | cons b bs ih =>
    have hdigit : (b.toNat * 256 ^ bs.length + ofBigEndian bs) >>> (8 * bs.length) = b.toNat := by
      have hpos : 0 < 256 ^ bs.length := Nat.pow_pos (by decide)
      rw [Nat.shiftRight_eq_div_pow, Nat.pow_mul, Nat.add_comm, Nat.add_mul_div_right _ _ hpos,
        Nat.div_eq_of_lt (ofBigEndian_lt bs), Nat.zero_add]
    rw [ofBigEndian_cons, List.length_cons, bigEndian, bigEndian_mul_add, ih, hdigit,
      UInt8.ofNat_toNat]

end RpcTransport.Bytes
