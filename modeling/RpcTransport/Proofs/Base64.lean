import RpcTransport.Base64
import RpcTransport.Text.Utf8

/-!
# Base64 is read back

Three octets are four letters, and the reader follows the writer group by group; only the last group
may be shorter, and its pads say by how much (`decode?_encode`). The reader takes nothing else
(`decode?_eq_some_iff`): every number has one letter, and the bits that pads leave over have to be
zero. All letters are ASCII, so what was written is the octets of some text
(`exists_utf8_eq_encode`).
-/

namespace RpcTransport

private theorem utf8EncodeChar_ascii : ∀ n : Fin 128,
    String.utf8EncodeChar (Char.ofNat n) = [UInt8.ofNat n] := by
  decide +kernel

/-- Octets of ASCII are the text of these characters. -/
theorem utf8_ofList_ascii {octets : Bytes} (h : ∀ b ∈ octets, b < 0x80) :
    utf8 (String.ofList (octets.map fun b ↦ Char.ofNat b.toNat)) = octets := by
  rw [utf8, String.toByteArray_ofList, List.utf8Encode, List.flatMap_map]
  simp only [List.data_toByteArray, List.toList_toArray]
  induction octets with
  | nil => rfl
  | cons b octets ih =>
    have hb := utf8EncodeChar_ascii ⟨b.toNat, h b List.mem_cons_self⟩
    rw [UInt8.ofNat_toNat] at hb
    rw [List.flatMap_cons, hb, ih fun c hc ↦ h c (List.mem_cons_of_mem b hc)]
    rfl

namespace Base64

/-! ## Letters -/

/-- A letter is known by its number, is no pad and is ASCII. -/
private theorem letter_spec {n : Nat} (h : n < 64) :
    sextet? (letter n) = some n ∧ letter n ≠ pad ∧ letter n < 0x80 := by
  have hall : ∀ n : Fin 64, sextet? (letter n) = some n.val ∧ letter n ≠ pad ∧
      letter n < 0x80 := by
    decide +kernel
  exact hall ⟨n, h⟩

/-- The numbers of the letters of a group, each of six bits. -/
private theorem sextets_lt (a b c : UInt8) : a.toNat / 4 < 64 ∧
    a.toNat % 4 * 16 + b.toNat / 16 < 64 ∧ b.toNat % 16 * 4 + c.toNat / 64 < 64 ∧
    c.toNat % 64 < 64 := by
  have ha := a.toNat_lt
  have hb := b.toNat_lt
  have hc := c.toNat_lt
  omega

/-! ## Groups -/

theorem encodeFrom_eq : ∀ acc bs, encodeFrom acc bs = acc.reverse ++ encode bs
  | acc, [] => by simp [encode, encodeFrom]
  | acc, [a] => by simp [encode, encodeFrom]
  | acc, [a, b] => by simp [encode, encodeFrom]
  | acc, a :: b :: c :: rest => by
    rw [encode, encodeFrom, encodeFrom, encodeFrom_eq _ rest, encodeFrom_eq [_, _, _, _] rest]
    simp

theorem encode_group (a b c : UInt8) (rest : Bytes) :
    encode (a :: b :: c :: rest) =
      letter (a.toNat / 4) :: letter (a.toNat % 4 * 16 + b.toNat / 16) ::
        letter (b.toNat % 16 * 4 + c.toNat / 64) :: letter (c.toNat % 64) :: encode rest := by
  rw [encode, encodeFrom, encodeFrom_eq]
  rfl

/-- What is written is ASCII. -/
theorem lt_of_mem_encode : ∀ {bs : Bytes}, ∀ b ∈ encode bs, b < 0x80
  | [], _, hb => nomatch hb
  | [a], b, hb => by
    obtain ⟨h₁, h₂, -, -⟩ := sextets_lt a 0 0
    change b ∈ [letter (a.toNat / 4), letter (a.toNat % 4 * 16), pad, pad] at hb
    simp only [List.mem_cons, List.not_mem_nil, or_false] at hb
    rcases hb with rfl | rfl | rfl | rfl
    · exact (letter_spec h₁).2.2
    · exact (letter_spec h₂).2.2
    · decide
    · decide
  | [a, b], c, hc => by
    obtain ⟨h₁, h₂, h₃, -⟩ := sextets_lt a b 0
    change c ∈ [letter (a.toNat / 4), letter (a.toNat % 4 * 16 + b.toNat / 16),
      letter (b.toNat % 16 * 4), pad] at hc
    simp only [List.mem_cons, List.not_mem_nil, or_false] at hc
    rcases hc with rfl | rfl | rfl | rfl
    · exact (letter_spec h₁).2.2
    · exact (letter_spec h₂).2.2
    · exact (letter_spec h₃).2.2
    · decide
  | a :: b :: c :: rest, d, hd => by
    obtain ⟨h₁, h₂, h₃, h₄⟩ := sextets_lt a b c
    rw [encode_group] at hd
    simp only [List.mem_cons] at hd
    rcases hd with rfl | rfl | rfl | rfl | hd
    · exact (letter_spec h₁).2.2
    · exact (letter_spec h₂).2.2
    · exact (letter_spec h₃).2.2
    · exact (letter_spec h₄).2.2
    · exact lt_of_mem_encode d hd

theorem decodeFrom?_group {x y z w : Nat} (hx : x < 64) (hy : y < 64) (hz : z < 64) (hw : w < 64)
    (done rest : Bytes) :
    decodeFrom? done (letter x :: letter y :: letter z :: letter w :: rest) =
      decodeFrom? (UInt8.ofNat (z % 4 * 64 + w) :: UInt8.ofNat (y % 16 * 16 + z / 4) ::
        UInt8.ofNat (4 * x + y / 16) :: done) rest := by
  obtain ⟨hx, -, -⟩ := letter_spec hx
  obtain ⟨hy, -, -⟩ := letter_spec hy
  obtain ⟨hz, hzpad, -⟩ := letter_spec hz
  obtain ⟨hw, hwpad, -⟩ := letter_spec hw
  rw [decodeFrom?, hx, hy, hz, hw]
  simp only [Option.bind_eq_bind, Option.bind_some, if_neg hzpad, if_neg hwpad]

/-- The last group, if it has one octet. -/
theorem decodeFrom?_one {x y : Nat} (hx : x < 64) (hy : y < 64) (done : Bytes) :
    decodeFrom? done [letter x, letter y, pad, pad] =
      (lastOne? x y).map fun p ↦ (p :: done).reverse := by
  rw [decodeFrom?, (letter_spec hx).1, (letter_spec hy).1]
  simp only [Option.bind_eq_bind, Option.bind_some, if_true, List.isEmpty_nil, true_and]
  cases lastOne? x y with
  | none | some p => rfl

/-- The last group, if it has two octets. -/
theorem decodeFrom?_two {x y z : Nat} (hx : x < 64) (hy : y < 64) (hz : z < 64) (done : Bytes) :
    decodeFrom? done [letter x, letter y, letter z, pad] =
      (lastTwo? x y z).map fun p ↦ (p.2 :: p.1 :: done).reverse := by
  obtain ⟨hz, hzpad, -⟩ := letter_spec hz
  rw [decodeFrom?, (letter_spec hx).1, (letter_spec hy).1, hz]
  simp only [Option.bind_eq_bind, Option.bind_some, if_neg hzpad, if_true, List.isEmpty_nil]
  cases lastTwo? x y z with
  | none | some p => rfl

private theorem decodeFrom?_encode : ∀ done bs : Bytes,
    decodeFrom? done (encode bs) = some (done.reverse ++ bs)
  | done, [] => by
    rw [List.append_nil]
    rfl
  | done, [a] => by
    obtain ⟨h₁, h₂, -, -⟩ := sextets_lt a 0 0
    have ha : 4 * (a.toNat / 4) + a.toNat % 4 * 16 / 16 = a.toNat := by omega
    have hlast : lastOne? (a.toNat / 4) (a.toNat % 4 * 16) = some a := by
      rw [lastOne?, if_pos (by omega), ha, UInt8.ofNat_toNat]
    refine (decodeFrom?_one h₁ h₂ done).trans ?_
    change (lastOne? (a.toNat / 4) (a.toNat % 4 * 16)).map _ = _
    rw [hlast]
    exact congrArg some List.reverse_cons
  | done, [a, b] => by
    obtain ⟨h₁, h₂, h₃, -⟩ := sextets_lt a b 0
    have hlt := b.toNat_lt
    have ha : 4 * (a.toNat / 4) + (a.toNat % 4 * 16 + b.toNat / 16) / 16 = a.toNat := by omega
    have hb : (a.toNat % 4 * 16 + b.toNat / 16) % 16 * 16 + b.toNat % 16 * 4 / 4 = b.toNat := by
      omega
    have hlast : lastTwo? (a.toNat / 4) (a.toNat % 4 * 16 + b.toNat / 16) (b.toNat % 16 * 4) =
        some (a, b) := by
      rw [lastTwo?, if_pos (Nat.mul_mod_left _ _), ha, hb, UInt8.ofNat_toNat, UInt8.ofNat_toNat]
    refine (decodeFrom?_two h₁ h₂ h₃ done).trans ?_
    change (lastTwo? _ _ (b.toNat % 16 * 4)).map _ = _
    rw [hlast]
    exact congrArg some (by simp)
  | done, a :: b :: c :: rest => by
    obtain ⟨h₁, h₂, h₃, h₄⟩ := sextets_lt a b c
    have hb := b.toNat_lt
    have hc := c.toNat_lt
    have hfirst : 4 * (a.toNat / 4) + (a.toNat % 4 * 16 + b.toNat / 16) / 16 = a.toNat := by omega
    have hsecond : (a.toNat % 4 * 16 + b.toNat / 16) % 16 * 16 +
        (b.toNat % 16 * 4 + c.toNat / 64) / 4 = b.toNat := by omega
    have hthird : (b.toNat % 16 * 4 + c.toNat / 64) % 4 * 64 + c.toNat % 64 = c.toNat := by omega
    rw [encode_group, decodeFrom?_group h₁ h₂ h₃ h₄, hfirst, hsecond, hthird, decodeFrom?_encode]
    simp only [UInt8.ofNat_toNat, List.reverse_cons, List.append_assoc, List.cons_append,
      List.nil_append]

/-- **Base64 is read back.** -/
theorem decode?_encode (bs : Bytes) : decode? (encode bs) = some bs := decodeFrom?_encode [] bs

/-! ## Nothing else is read -/

private theorem letter_of_sextet? {b : UInt8} {n : Nat} (h : sextet? b = some n) :
    letter n = b ∧ n < 64 := by
  have hall : ∀ b : Fin 256, ∀ n ∈ sextet? (UInt8.ofNat b),
      letter n = UInt8.ofNat b ∧ n < 64 := by
    decide +kernel
  have hb := hall ⟨b.toNat, b.toNat_lt⟩
  rw [UInt8.ofNat_toNat] at hb
  exact hb n h

/-- The octets of a group, each a number below 256. -/
private theorem toNat_octets {x y z w : Nat} (hx : x < 64) (hy : y < 64) (hz : z < 64)
    (hw : w < 64) :
    (UInt8.ofNat (4 * x + y / 16)).toNat = 4 * x + y / 16 ∧
      (UInt8.ofNat (y % 16 * 16 + z / 4)).toNat = y % 16 * 16 + z / 4 ∧
      (UInt8.ofNat (z % 4 * 64 + w)).toNat = z % 4 * 64 + w := by
  simp only [UInt8.toNat_ofNat']
  omega

/-! A group that is read is written with the letters that it was read from. -/

theorem encode_lastOne {x y : Nat} {p : UInt8} (hx : x < 64) (hy : y < 64)
    (h : lastOne? x y = some p) : encode [p] = [letter x, letter y, pad, pad] := by
  rw [lastOne?] at h
  split at h
  · next hbits =>
    obtain rfl := Option.some.inj h
    obtain ⟨hp, -, -⟩ := toNat_octets hx hy hy hy
    change [letter (_ / 4), letter (_ % 4 * 16), pad, pad] = _
    rw [hp, show (4 * x + y / 16) / 4 = x by omega, show (4 * x + y / 16) % 4 * 16 = y by omega]
  · exact nomatch h

theorem encode_lastTwo {x y z : Nat} {p q : UInt8} (hx : x < 64) (hy : y < 64) (hz : z < 64)
    (h : lastTwo? x y z = some (p, q)) :
    encode [p, q] = [letter x, letter y, letter z, pad] := by
  rw [lastTwo?] at h
  split at h
  · next hbits =>
    obtain ⟨rfl, rfl⟩ := Prod.mk.inj (Option.some.inj h)
    obtain ⟨hp, hq, -⟩ := toNat_octets hx hy hz hz
    change [letter (_ / 4), letter (_ % 4 * 16 + _ / 16), letter (_ % 16 * 4), pad] = _
    rw [hp, hq, show (4 * x + y / 16) / 4 = x by omega,
      show (4 * x + y / 16) % 4 * 16 + (y % 16 * 16 + z / 4) / 16 = y by omega,
      show (y % 16 * 16 + z / 4) % 16 * 4 = z by omega]
  · exact nomatch h

theorem encode_letters {x y z w : Nat} (hx : x < 64) (hy : y < 64) (hz : z < 64) (hw : w < 64)
    (rest : Bytes) :
    encode (UInt8.ofNat (4 * x + y / 16) :: UInt8.ofNat (y % 16 * 16 + z / 4) ::
        UInt8.ofNat (z % 4 * 64 + w) :: rest) =
      letter x :: letter y :: letter z :: letter w :: encode rest := by
  obtain ⟨hp, hq, hr⟩ := toNat_octets hx hy hz hw
  rw [encode_group, hp, hq, hr, show (4 * x + y / 16) / 4 = x by omega,
    show (4 * x + y / 16) % 4 * 16 + (y % 16 * 16 + z / 4) / 16 = y by omega,
    show (y % 16 * 16 + z / 4) % 16 * 4 + (z % 4 * 64 + w) / 64 = z by omega,
    show (z % 4 * 64 + w) % 64 = w by omega]

/-- What is read is what would have been written as that. -/
private theorem encode_of_decodeFrom? : ∀ {done bs octets : Bytes},
    decodeFrom? done bs = some octets → ∃ more, octets = done.reverse ++ more ∧ encode more = bs
  | done, [], octets, h => by
    obtain rfl := Option.some.inj h
    exact ⟨[], (List.append_nil _).symm, rfl⟩
  | done, a :: b :: c :: d :: rest, octets, h => by
    rw [decodeFrom?] at h
    obtain ⟨x, hreadx, hx'⟩ := Option.bind_eq_some_iff.mp h
    obtain ⟨y, hready, hy'⟩ := Option.bind_eq_some_iff.mp hx'
    clear h hx'
    obtain ⟨rfl, hx⟩ := letter_of_sextet? hreadx
    obtain ⟨rfl, hy⟩ := letter_of_sextet? hready
    split at hy'
    · next hc =>
      split at hy'
      · next hlast =>
        obtain ⟨p, hp, hdone⟩ := Option.bind_eq_some_iff.mp hy'
        obtain rfl := Option.some.inj hdone
        rw [hc, hlast.1, List.isEmpty_iff.mp hlast.2]
        exact ⟨[p], List.reverse_cons, encode_lastOne hx hy hp⟩
      · exact nomatch hy'
    · obtain ⟨z, hreadz, hz'⟩ := Option.bind_eq_some_iff.mp hy'
      clear hy'
      obtain ⟨rfl, hz⟩ := letter_of_sextet? hreadz
      split at hz'
      · next hd =>
        split at hz'
        · next hlast =>
          obtain ⟨⟨p, q⟩, hpq, hdone⟩ := Option.bind_eq_some_iff.mp hz'
          obtain rfl := Option.some.inj hdone
          rw [hd, List.isEmpty_iff.mp hlast]
          exact ⟨[p, q], by simp, encode_lastTwo hx hy hz hpq⟩
        · exact nomatch hz'
      · obtain ⟨w, hreadw, hrest⟩ := Option.bind_eq_some_iff.mp hz'
        clear hz'
        obtain ⟨rfl, hw⟩ := letter_of_sextet? hreadw
        obtain ⟨more, rfl, rfl⟩ := encode_of_decodeFrom? hrest
        exact ⟨_ :: _ :: _ :: more, by simp, encode_letters hx hy hz hw more⟩
  | _, [_], _, h | _, [_, _], _, h | _, [_, _, _], _, h => nomatch h

/-- **Nothing but base64 is read.** -/
theorem decode?_eq_some_iff {bs octets : Bytes} :
    decode? bs = some octets ↔ encode octets = bs := by
  constructor
  · intro h
    obtain ⟨more, rfl, hmore⟩ := encode_of_decodeFrom? h
    exact hmore
  · rintro rfl
    exact decode?_encode octets

theorem exists_utf8_eq_encode (bs : Bytes) : ∃ s, utf8 s = encode bs :=
  ⟨_, utf8_ofList_ascii lt_of_mem_encode⟩

end Base64

end RpcTransport
