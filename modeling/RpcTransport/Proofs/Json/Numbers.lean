import RpcTransport.Json.Printer
import RpcTransport.Json.Reader

/-!
# JSON whole numbers are read as they were written

A whole number is written as its decimal digits, and these never start with a superfluous zero. The
reader gathers them back as long as the significand fits 64 bits, which it does up to the last digit
because no prefix of the digits tells a larger number than all of them (`le_numeral`). What follows
must not run on: every octet that may follow a document is none of a number.
-/

namespace RpcTransport.Json

/-! ## Octets in front -/

theorem skipSpace_cons {b : UInt8} (h : isSpace b = false) (rest : Bytes) :
    skipSpace (b :: rest) = b :: rest := by
  rw [skipSpace, List.dropWhile_cons_of_neg (Bool.eq_false_iff.mp h)]

/-- What may follow a document does not run on from a number. -/
theorem not_numeral_of_endsDocument {b : UInt8} (h : endsDocument b = true) :
    isDigit b = false ∧ b ≠ 0x2e ∧ isExponentLetter b = false := by
  have hall : ∀ n : Fin 256, endsDocument (UInt8.ofNat n) = true →
      isDigit (UInt8.ofNat n) = false ∧ UInt8.ofNat n ≠ 0x2e ∧
        isExponentLetter (UInt8.ofNat n) = false := by
    decide +kernel
  have hb := hall ⟨b.toNat, b.toNat_lt⟩
  rw [UInt8.ofNat_toNat] at hb
  exact hb h

/-! ## Digits -/

/-- The number that digits tell behind a significand. -/
def numeral (significand : Nat) (digits : Bytes) : Nat :=
  digits.foldl (fun n b ↦ 10 * n + (b.toNat - 48)) significand

theorem le_numeral (significand : Nat) (digits : Bytes) :
    significand ≤ numeral significand digits := by
  induction digits generalizing significand with
  | nil => exact Nat.le_refl _
  | cons b digits ih =>
    refine Nat.le_trans ?_ (ih (10 * significand + (b.toNat - 48)))
    omega

/-- Digits that tell a number within bounds are gathered to the last. -/
theorem gather_append {digits rest : Bytes} (hdigits : ∀ b ∈ digits, isDigit b = true)
    (hrest : startsWithDigit rest = false) (significand count : Nat)
    (hfit : numeral significand digits ≤ significandBound) :
    gather significand count (digits ++ rest) =
      (numeral significand digits, count + digits.length, rest) := by
  induction digits generalizing significand count with
  | nil =>
    cases rest with
    | nil => rfl
    | cons b rest =>
      have hb : isDigit b = false := hrest
      rw [List.nil_append, gather, hb, if_neg (by simp)]
      rfl
  | cons b digits ih =>
    have hb : isDigit b = true := hdigits b List.mem_cons_self
    have hnext : 10 * significand + (b.toNat - 48) ≤ significandBound :=
      Nat.le_trans (le_numeral _ digits) hfit
    rw [List.cons_append, gather, if_pos ⟨hb, hnext⟩,
      ih (fun d hd ↦ hdigits d (List.mem_cons_of_mem b hd)) _ _ hfit, List.length_cons,
      Nat.add_right_comm, Nat.add_assoc]
    rfl

theorem isDigit_ofNat {c : Char} (h : c.isDigit = true) :
    isDigit (UInt8.ofNat c.toNat) = true ∧ (UInt8.ofNat c.toNat).toNat = c.toNat := by
  have hrange : 48 ≤ c.toNat ∧ c.toNat ≤ 57 := by
    rw [Char.isDigit, Bool.and_eq_true, decide_eq_true_iff, decide_eq_true_iff] at h
    exact h
  have hoctet : (UInt8.ofNat c.toNat).toNat = c.toNat := by
    rw [UInt8.toNat_ofNat']
    omega
  refine ⟨?_, hoctet⟩
  simp only [isDigit, Bool.and_eq_true, decide_eq_true_eq, UInt8.le_iff_toNat_le, hoctet]
  exact hrange

theorem isDigit_of_mem_ofChars {n : Nat} {b : UInt8} (h : b ∈ ofChars (Nat.toDigits 10 n)) :
    isDigit b = true := by
  obtain ⟨c, hc, rfl⟩ := List.mem_map.mp h
  exact (isDigit_ofNat (Nat.isDigit_of_mem_toDigits (by decide) (Nat.le_refl _) hc)).1

theorem numeral_ofChars {cs : List Char} (h : ∀ c ∈ cs, c.isDigit = true) (significand : Nat) :
    numeral significand (ofChars cs) = Nat.ofDigitChars 10 cs significand := by
  induction cs generalizing significand with
  | nil => rw [Nat.ofDigitChars_nil]; rfl
  | cons c cs ih =>
    have hoctet := (isDigit_ofNat (h c List.mem_cons_self)).2
    rw [Nat.ofDigitChars_cons, ← ih (fun d hd ↦ h d (List.mem_cons_of_mem c hd))]
    change numeral (10 * significand + ((UInt8.ofNat c.toNat).toNat - 48)) (ofChars cs) = _
    rw [hoctet]
    rfl

/-- The digits of a number tell it. -/
theorem numeral_toDigits (n : Nat) : numeral 0 (ofChars (Nat.toDigits 10 n)) = n := by
  rw [numeral_ofChars fun c hc ↦ Nat.isDigit_of_mem_toDigits (by decide) (Nat.le_refl _) hc]
  exact Nat.ofDigitChars_ten_toDigits

theorem exists_isDigit_toDigits (n : Nat) :
    ∃ b digits, ofChars (Nat.toDigits 10 n) = b :: digits ∧ isDigit b = true := by
  cases heq : ofChars (Nat.toDigits 10 n) with
  | nil => exact absurd (List.map_eq_nil_iff.mp heq) Nat.toDigits_ne_nil
  | cons b digits => exact ⟨b, digits, rfl, isDigit_of_mem_ofChars (heq ▸ List.mem_cons_self)⟩

/-- Only zero is written with a zero in front. -/
theorem head?_toDigits {n : Nat} (hn : 0 < n) :
    ∃ b digits, ofChars (Nat.toDigits 10 n) = b :: digits ∧ b ≠ 0x30 := by
  induction n using Nat.strongRecOn with
  | ind n ih =>
    by_cases hlt : n < 10
    · refine ⟨_, [], by rw [Nat.toDigits_of_lt_base hlt]; rfl, ?_⟩
      have hall : ∀ m : Fin 10, 0 < m.val → UInt8.ofNat (Nat.digitChar m).toNat ≠ 0x30 := by
        decide
      exact hall ⟨n, hlt⟩ hn
    · have hle : 10 ≤ n := Nat.not_lt.mp hlt
      obtain ⟨b, digits, heq, hb⟩ := ih (n / 10) (Nat.div_lt_self hn (by decide))
        (Nat.div_pos hle (by decide))
      refine ⟨b, digits ++ ofChars [Nat.digitChar (n % 10)], ?_, hb⟩
      rw [Nat.toDigits_of_base_le (by decide) hle, ofChars, List.map_append]
      exact congrArg (· ++ _) heq

/-! ## Numbers -/

section Ends

variable {b : UInt8} {rest : Bytes} {negative : Bool} {n : Nat}

theorem afterDigits_of_ends (hb : endsDocument b = true) (negative : Bool) (n : Nat)
    (rest : Bytes) :
    afterDigits negative n (b :: rest) = afterDigits.wholeEnd negative n (b :: rest) := by
  obtain ⟨-, hpoint, hexponent⟩ := not_numeral_of_endsDocument hb
  rw [afterDigits]
  · rw [hexponent]
    rfl
  · rintro more heq
    exact hpoint (List.cons.inj heq).1

/-- The digits of a number are read to their end. -/
theorem number_toDigits (hn : n ≤ significandBound) (hb : endsDocument b = true)
    (negative : Bool) (rest : Bytes) :
    number negative (ofChars (Nat.toDigits 10 n) ++ b :: rest) =
      afterDigits.wholeEnd negative n (b :: rest) := by
  have hstart : startsWithDigit (b :: rest) = false := (not_numeral_of_endsDocument hb).1
  rcases Nat.eq_zero_or_pos n with rfl | hpos
  · change number negative (0x30 :: b :: rest) = _
    rw [number, if_pos rfl, hstart, if_neg Bool.false_ne_true]
    exact afterDigits_of_ends hb negative 0 rest
  · obtain ⟨d, digits, heq, hzero⟩ := head?_toDigits hpos
    have hdigits : ∀ c ∈ d :: digits, isDigit c = true :=
      fun c hc ↦ isDigit_of_mem_ofChars (heq ▸ hc)
    have htell : numeral (d.toNat - 48) digits = n := by
      have h := numeral_toDigits n
      rw [heq] at h
      simpa [numeral] using h
    rw [heq, List.cons_append, number, if_neg hzero, if_pos (hdigits d List.mem_cons_self),
      gather_append (fun c hc ↦ hdigits c (List.mem_cons_of_mem d hc)) hstart _ _ (htell ▸ hn)]
    dsimp only
    rw [hstart, if_neg Bool.false_ne_true, htell]
    exact afterDigits_of_ends hb negative n rest

/-- A digit in front begins a number. -/
theorem valueWith_digit {d : UInt8} (hd : isDigit d = true) (fuel : Nat)
    (nested : Option (Parser Value)) (rest : Bytes) :
    valueWith fuel nested (d :: rest) =
      (number false (d :: rest)).map fun (n, rest) ↦ (.number n, rest) := by
  have hnot (c : UInt8) (hc : isDigit c = false) : d ≠ c := by
    rintro rfl
    exact Bool.noConfusion (hd.symm.trans hc)
  have hspace : isSpace d = false := by
    simp [isSpace, hnot 0x20 rfl, hnot 0x09 rfl, hnot 0x0a rfl, hnot 0x0d rfl]
  rw [valueWith, skipSpace_cons hspace]
  dsimp only
  rw [if_neg (hnot _ rfl), if_neg (hnot _ rfl), if_neg (hnot _ rfl), if_neg (hnot _ rfl), if_pos hd]

/-- **A whole number is read as it was written.** -/
theorem valueWith_ofInteger {z : Int} (lower : -0x8000000000000000 ≤ z)
    (upper : z < 0x10000000000000000) (hb : endsDocument b = true) (fuel : Nat)
    (nested : Option (Parser Value)) (rest : Bytes) :
    valueWith fuel nested (ofInteger z ++ b :: rest) =
      .ok (.number (.whole z lower upper), b :: rest) := by
  cases z with
  | ofNat n =>
    obtain ⟨d, digits, heq, hd⟩ := exists_isDigit_toDigits n
    have hn : n ≤ significandBound := by
      have hupper : (n : Int) < 0x10000000000000000 := upper
      rw [significandBound]
      omega
    have hnumber := number_toDigits hn hb false rest
    rw [heq] at hnumber
    rw [ofInteger, heq, List.cons_append, valueWith_digit hd, ← List.cons_append, hnumber,
      afterDigits.wholeEnd, ofDigits, if_neg (by simp), Number.ofInt?, dif_pos ⟨lower, upper⟩]
    rfl
  | negSucc n =>
    have hn : n + 1 ≤ significandBound := by
      rw [significandBound]
      omega
    have hz : -((n + 1 : Nat) : Int) = Int.negSucc n := by omega
    rw [ofInteger, List.cons_append, valueWith, skipSpace_cons rfl]
    dsimp only
    rw [if_neg (by decide), if_neg (by decide), if_neg (by decide), if_pos rfl,
      number_toDigits hn hb, afterDigits.wholeEnd, ofDigits, if_neg (by simp), if_pos rfl, hz,
      Number.ofInt?, dif_pos ⟨lower, upper⟩]
    rfl

end Ends

end RpcTransport.Json
