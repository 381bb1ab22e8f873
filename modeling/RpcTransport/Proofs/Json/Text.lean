import RpcTransport.Json.Printer
import RpcTransport.Json.Reader

/-!
# JSON text is read as it was written

The escape of an octet, whichever of its forms it has, is read in one round of the loop and as that
octet. So the loop gives the octets back and stops at the closing quote, and their text is the one
that was written.
-/

namespace RpcTransport.Json

/-! ## Escapes -/

private theorem hexValue?_hexDigit : ∀ n : Fin 16,
    hexValue? (UInt8.ofNat (Bytes.hexDigit n).toNat) = some n.val := by
  decide

private theorem codePoint_control : ∀ n : Fin 32, codePoint n = [UInt8.ofNat n] := by
  decide

/-- The digits of a long escape tell its octet. -/
theorem fourDigits_control {b : UInt8} (h : b < 0x20) (rest : Bytes) :
    fourDigits ((escapeControl b).tail.tail ++ rest) = .ok (b.toNat, rest) := by
  have hlt : b.toNat < 32 := h
  have hhigh := hexValue?_hexDigit ⟨b.toNat / 16, by omega⟩
  have hlow := hexValue?_hexDigit ⟨b.toNat % 16, by omega⟩
  have hsum : ((0 * 16 + 0) * 16 + b.toNat / 16) * 16 + b.toNat % 16 = b.toNat := by omega
  have hzero : hexValue? 0x30 = some 0 := by decide
  change fourDigits (0x30 :: 0x30 :: UInt8.ofNat (Bytes.hexDigit (b.toNat / 16)).toNat ::
    UInt8.ofNat (Bytes.hexDigit (b.toNat % 16)).toNat :: rest) = _
  simp only [fourDigits, hzero, hhigh, hlow, hsum]

/-- The long escape of a control octet is read as this octet. -/
theorem unescape_control {b : UInt8} (h : b < 0x20) (rest : Bytes) :
    unescape ((escapeControl b).tail ++ rest) = .ok ([b], rest) := by
  have hlt : b.toNat < 32 := h
  have htrailing : isTrailing b.toNat = false := by
    simp only [isTrailing, Bool.and_eq_false_imp, decide_eq_true_eq]
    omega
  have hleading : isLeading b.toNat = false := by
    simp only [isLeading, Bool.and_eq_false_imp, decide_eq_true_eq]
    omega
  have hcode : codePoint b.toNat = [b] := by
    have h := codePoint_control ⟨b.toNat, hlt⟩
    rwa [UInt8.ofNat_toNat] at h
  change unicodeEscape ((escapeControl b).tail.tail ++ rest) = _
  rw [unicodeEscape, fourDigits_control h]
  change (if isTrailing b.toNat then _ else _) = _
  rw [htrailing, if_neg Bool.false_ne_true, hleading, if_neg Bool.false_ne_true, hcode]
  rfl

/-- **One round reads one octet**, escaped or not. -/
theorem quotedOctets_escape (b : UInt8) (fuel : Nat) (done rest : Bytes) :
    quotedOctets (fuel + 1) done (escape b ++ rest) = quotedOctets fuel (b :: done) rest := by
  rw [escape]
  -- Seven escapes are one letter after the backslash.
  iterate 7
    split
    · next h => subst h; rfl
  split
  · next hcontrol =>
    change quotedOctets (fuel + 1) done (0x5c :: ((escapeControl b).tail ++ rest)) = _
    rw [quotedOctets, if_neg (by decide), if_pos rfl, unescape_control hcontrol]
    rfl
  · next hquote hbackslash _ _ _ _ _ hcontrol =>
    change quotedOctets (fuel + 1) done (b :: rest) = _
    rw [quotedOctets, if_neg hquote, if_neg hbackslash, if_neg hcontrol]

/-! ## Texts -/

theorem quotedOctets_flatMap_escape (octets : Bytes) {fuel : Nat} (h : octets.length < fuel)
    (done rest : Bytes) :
    quotedOctets fuel done (octets.flatMap escape ++ 0x22 :: rest) =
      .ok (done.reverse ++ octets, rest) := by
  obtain ⟨fuel, rfl⟩ := Nat.exists_eq_succ_of_ne_zero (Nat.ne_zero_of_lt h)
  induction octets generalizing fuel done with
  | nil =>
    rw [List.append_nil]
    rfl
  | cons b octets ih =>
    have hoctets : octets.length < fuel := Nat.lt_of_succ_lt_succ h
    obtain ⟨fuel, rfl⟩ := Nat.exists_eq_succ_of_ne_zero (Nat.ne_zero_of_lt hoctets)
    rw [List.flatMap_cons, List.append_assoc, quotedOctets_escape, ih (b :: done) fuel hoctets,
      List.reverse_cons, List.append_assoc]
    rfl

theorem length_le_length_flatMap_escape (octets : Bytes) :
    octets.length ≤ (octets.flatMap escape).length := by
  induction octets with
  | nil => exact Nat.le_refl _
  | cons b octets ih =>
    have hpos : 1 ≤ (escape b).length := by
      rw [escape]
      repeat' split
      all_goals exact Nat.succ_le_succ (Nat.zero_le _)
    rw [List.flatMap_cons, List.length_append, List.length_cons, Nat.add_comm]
    exact Nat.add_le_add hpos ih

theorem length_ofText (s : String) : (utf8 s).length + 2 ≤ (ofText s).length := by
  have hle := length_le_length_flatMap_escape (utf8 s)
  rw [ofText, quoted, List.length_cons, List.length_append, List.length_singleton]
  exact Nat.add_le_add_right hle 2

/-- No escape is longer than the one of a control octet. -/
theorem length_escape_le (b : UInt8) : (escape b).length ≤ 6 := by
  rw [escape]
  repeat' split
  all_goals first | exact Nat.le_refl 6 | exact Nat.le_add_left _ _

theorem length_flatMap_escape_le (octets : Bytes) :
    (octets.flatMap escape).length ≤ 6 * octets.length := by
  induction octets with
  | nil => exact Nat.le_refl 0
  | cons b octets ih =>
    have hescape := length_escape_le b
    rw [List.flatMap_cons, List.length_append, List.length_cons]
    omega

theorem length_ofText_le (s : String) : (ofText s).length ≤ 6 * (utf8 s).length + 2 := by
  have hle := length_flatMap_escape_le (utf8 s)
  rw [ofText, quoted, List.length_cons, List.length_append, List.length_singleton]
  exact Nat.add_le_add_right hle 2

/-- **A text is read as it was written.** -/
theorem quotedText_ofText (s : String) {fuel : Nat} (h : (ofText s).length ≤ fuel) (rest : Bytes) :
    quotedText fuel ((ofText s).tail ++ rest) = .ok (s, rest) := by
  have hlength : (utf8 s).length < fuel :=
    Nat.lt_of_succ_lt (Nat.le_trans (length_ofText s) h)
  have hshape : (ofText s).tail ++ rest = (utf8 s).flatMap escape ++ 0x22 :: rest := by
    rw [ofText, quoted, List.tail_cons, List.append_assoc]
    rfl
  rw [quotedText, hshape, quotedOctets_flatMap_escape _ hlength]
  dsimp only
  rw [List.reverse_nil, List.nil_append, ofUtf8?_utf8]

end RpcTransport.Json
