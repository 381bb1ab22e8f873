import RpcTransport.MessagePack.Printer
import RpcTransport.MessagePack.Reader
import RpcTransport.Proofs.Words

/-!
# MessagePack heads are read as they were written

A size or a whole number takes the shortest of a few forms, and each form is read as the same head:
the number stands in the marker itself, or in a word that is wide enough for it. A negative number
is written as its complement, in a word in which its highest bit is set.
-/

namespace RpcTransport.MessagePack

theorem take_append (front rest : Bytes) :
    take front.length (front ++ rest) = .ok (front, rest) := by
  rw [take, Bytes.splitAt?_eq_some_iff.mpr ⟨rfl, rfl⟩]

/-- A word that is wide enough is read as its number. -/
theorem word_bigEndian {width n : Nat} (h : n < 256 ^ width) (rest : Bytes) :
    word width (Bytes.bigEndian width n ++ rest) = .ok (n, rest) := by
  have htake := take_append (Bytes.bigEndian width n) rest
  rw [Bytes.length_bigEndian] at htake
  rw [word, htake]
  dsimp only
  rw [Bytes.ofBigEndian_bigEndian, Nat.mod_eq_of_lt h]

/-! ## Sizes -/

theorem ofOctet_inline_text : ∀ n : Fin 32,
    Marker.ofOctet (UInt8.ofNat (0xa0 + n)) = .text (.inline n) := by
  decide

theorem ofOctet_inline_array : ∀ n : Fin 16,
    Marker.ofOctet (UInt8.ofNat (0x90 + n)) = .array (.inline n) := by
  decide

theorem ofOctet_inline_map : ∀ n : Fin 16,
    Marker.ofOctet (UInt8.ofNat (0x80 + n)) = .map (.inline n) := by
  decide

/-- A marker with a word after it. -/
theorem operand_word {b : UInt8} {marker : Marker} {width n : Nat} {f : Nat × Bytes → Head × Bytes}
    (hmarker : Marker.ofOctet b = marker)
    (hoperand : ∀ bs, operand marker bs = (word width bs).map f) (h : n < 256 ^ width)
    (rest : Bytes) :
    operand (.ofOctet b) (Bytes.bigEndian width n ++ rest) = .ok (f (n, rest)) := by
  rw [hmarker, hoperand, word_bigEndian h]
  rfl

theorem head_textHead {n : Nat} (h : n < 2 ^ 32) (rest : Bytes) :
    head (textHead n ++ rest) = .ok (.text n, rest) := by
  have hcounted (b : UInt8) (width : Nat) (hb : Marker.ofOctet b = .text (.counted width))
      (hn : n < 256 ^ width) :
      head (b :: (Bytes.bigEndian width n ++ rest)) = .ok (.text n, rest) :=
    operand_word hb (fun _ ↦ rfl) hn rest
  rw [textHead]
  split
  · next hn =>
    change operand (.ofOctet (UInt8.ofNat (0xa0 + n))) rest = _
    rw [ofOctet_inline_text ⟨n, hn⟩]
    rfl
  split
  · next hn => exact hcounted 0xd9 1 (by decide) (by omega)
  split
  · next hn => exact hcounted 0xda 2 (by decide) (by omega)
  · exact hcounted 0xdb 4 (by decide) (by omega)

/-- The size of a container stands in the marker, or in two octets, or in four. -/
theorem head_container (kind : Extent → Marker) (made : Nat → Head) (first : Nat → UInt8)
    {b₂ b₄ : UInt8}
    (hkind : ∀ e bs, operand (kind e) bs = (size e bs).map fun (n, rest) ↦ (made n, rest))
    (hfirst : ∀ n : Fin 16, Marker.ofOctet (first n) = kind (.inline n))
    (h₂ : Marker.ofOctet b₂ = kind (.counted 2)) (h₄ : Marker.ofOctet b₄ = kind (.counted 4))
    {n : Nat} (h : n < 2 ^ 32) (rest : Bytes) :
    head ((if n < 16 then [first n]
      else if n < 0x10000 then b₂ :: Bytes.bigEndian 2 n
      else b₄ :: Bytes.bigEndian 4 n) ++ rest) = .ok (made n, rest) := by
  split
  · next hn =>
    change operand (.ofOctet (first n)) rest = _
    rw [hfirst ⟨n, hn⟩, hkind]
    rfl
  split
  · next hn => exact operand_word h₂ (hkind _) (by omega) rest
  · exact operand_word h₄ (hkind _) (by omega) rest

theorem head_arrayHead {n : Nat} (h : n < 2 ^ 32) (rest : Bytes) :
    head (arrayHead n ++ rest) = .ok (.array n, rest) :=
  head_container .array .array (fun n ↦ UInt8.ofNat (0x90 + n)) (fun _ _ ↦ rfl)
    ofOctet_inline_array (by decide) (by decide) h rest

theorem head_mapHead {n : Nat} (h : n < 2 ^ 32) (rest : Bytes) :
    head (mapHead n ++ rest) = .ok (.map n, rest) :=
  head_container .map .map (fun n ↦ UInt8.ofNat (0x80 + n)) (fun _ _ ↦ rfl)
    ofOctet_inline_map (by decide) (by decide) h rest

/-! ## Numbers -/

/-- The head of a whole number. -/
def Head.ofInteger : Int → Head
  | .ofNat n => .unsigned (UInt64.ofNat n)
  | .negSucc n => .signed (Int64.ofInt (.negSucc n))

theorem Head.whole?_ofInteger {z : Int} (lower : -0x8000000000000000 ≤ z)
    (upper : z < 0x10000000000000000) : (ofInteger z).whole? = some z := by
  cases z with
  | ofNat n =>
    have hn : (n : Int) < 0x10000000000000000 := upper
    rw [ofInteger, whole?, UInt64.toNat_ofNat', Nat.mod_eq_of_lt (by omega)]
    rfl
  | negSucc n =>
    rw [ofInteger, whole?, Int64.toInt_ofInt_of_le lower (by omega)]

private theorem small_markers : ∀ n : Fin 128,
    Marker.ofOctet (UInt8.ofNat n) = .positive n ∧
      (1 ≤ n.val → n.val ≤ 32 → Marker.ofOctet (UInt8.ofNat (256 - n)) = .negative n) := by
  decide

/-- The complement of a number that is not too large is its negation. -/
theorem complement_sub {width n : Nat} (hpos : 1 ≤ n) (hle : n ≤ 2 ^ (8 * width - 1))
    (hwidth : 0 < width) : complement width (2 ^ (8 * width) - n) = -n := by
  have hdouble : 2 ^ (8 * width) = 2 * 2 ^ (8 * width - 1) := by
    rw [← Nat.pow_succ', Nat.succ_eq_add_one, Nat.sub_add_cancel (by omega)]
  rw [complement, if_neg (by change ¬ _ < 2 ^ (8 * width - 1); omega)]
  change ((2 ^ (8 * width) - n : Nat) : Int) - (2 ^ (8 * width) : Nat) = -n
  omega

/-- **A whole number is read as it was written**, and its marker says that it is a number. -/
theorem operand_ofInteger {z : Int} (lower : -0x8000000000000000 ≤ z)
    (upper : z < 0x10000000000000000) (rest : Bytes) :
    ∃ b more, ofInteger z ++ rest = b :: more ∧ (Marker.ofOctet b).isNumeric = true ∧
      operand (.ofOctet b) more = .ok (.ofInteger z, rest) := by
  cases z with
  | ofNat n =>
    have hn : n < 0x10000000000000000 := by
      have hupper : (n : Int) < 0x10000000000000000 := upper
      omega
    have hcounted (b : UInt8) (width : Nat) (hb : Marker.ofOctet b = .unsigned width)
        (hn : n < 256 ^ width) :
        operand (.ofOctet b) (Bytes.bigEndian width n ++ rest) = .ok (.ofInteger n, rest) :=
      operand_word hb (fun _ ↦ rfl) hn rest
    rw [ofInteger, ofNat]
    split
    · next hsmall =>
      have hmarker := (small_markers ⟨n, hsmall⟩).1
      exact ⟨_, rest, rfl, hmarker ▸ rfl, hmarker ▸ rfl⟩
    split
    · next h => exact ⟨0xcc, _, rfl, by decide, hcounted _ 1 (by decide) (by omega)⟩
    split
    · next h => exact ⟨0xcd, _, rfl, by decide, hcounted _ 2 (by decide) (by omega)⟩
    split
    · next h => exact ⟨0xce, _, rfl, by decide, hcounted _ 4 (by decide) (by omega)⟩
    · exact ⟨0xcf, _, rfl, by decide, hcounted _ 8 (by decide) (by omega)⟩
  | negSucc n =>
    have hcounted (b : UInt8) (width : Nat) (hb : Marker.ofOctet b = .signed width)
        (hwidth : 0 < width) (hle : n + 1 ≤ 2 ^ (8 * width - 1)) :
        operand (.ofOctet b) (Bytes.bigEndian width (2 ^ (8 * width) - (n + 1)) ++ rest) =
          .ok (.ofInteger (.negSucc n), rest) := by
      have hfits : 2 ^ (8 * width) - (n + 1) < 256 ^ width := by
        rw [show 256 ^ width = 2 ^ (8 * width) by rw [Nat.pow_mul]]
        exact Nat.sub_lt (Nat.pow_pos (by decide)) (Nat.succ_pos n)
      refine (operand_word hb (fun _ ↦ rfl) hfits rest).trans ?_
      dsimp only
      rw [complement_sub (Nat.succ_pos n) hle hwidth]
      rfl
    rw [ofInteger, ofNegative]
    split
    · next hsmall =>
      have hmarker := (small_markers ⟨n + 1, by omega⟩).2 (Nat.succ_pos n) hsmall
      exact ⟨_, rest, rfl, hmarker ▸ rfl, hmarker ▸ rfl⟩
    split
    · next h => exact ⟨0xd0, _, rfl, by decide, hcounted _ 1 (by decide) (by decide) h⟩
    split
    · next h => exact ⟨0xd1, _, rfl, by decide, hcounted _ 2 (by decide) (by decide) h⟩
    split
    · next h => exact ⟨0xd2, _, rfl, by decide, hcounted _ 4 (by decide) (by decide) h⟩
    · exact ⟨0xd3, _, rfl, by decide, hcounted _ 8 (by decide) (by decide) (by omega)⟩

theorem head_ofInteger {z : Int} (lower : -0x8000000000000000 ≤ z)
    (upper : z < 0x10000000000000000) (rest : Bytes) :
    head (ofInteger z ++ rest) = .ok (.ofInteger z, rest) := by
  obtain ⟨b, more, heq, -, hoperand⟩ := operand_ofInteger lower upper rest
  rw [heq]
  exact hoperand

theorem head_ofFloat (x : Binary64) (rest : Bytes) :
    head (ofFloat x ++ rest) = .ok (.float x, rest) := by
  have hmarker : Marker.ofOctet 0xcb = .float 8 := by decide
  refine (operand_word hmarker (fun _ ↦ rfl) (n := x.bits.toNat) x.bits.toNat_lt rest).trans ?_
  dsimp only
  rw [floatOfWord, if_neg (by decide), UInt64.ofNat_toNat]

end RpcTransport.MessagePack
