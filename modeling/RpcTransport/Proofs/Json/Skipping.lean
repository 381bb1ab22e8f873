import RpcTransport.Proofs.Json.Values

/-!
# A JSON value that was written is passed over

A member that nobody asked for is passed over by a machine with a stack of open brackets. On what
was written for a value it ends behind the value with the brackets that were open before
(`Passes`), whatever the value holds. Nested values go through one argument, since a container is a
row of items between two brackets and each round of the machine passes over one item.

The machine has fuel for two steps an octet. A scalar takes one step, a container one for each
bracket, and an item one more for what stands before it, so the fuel lasts (`skipValue_ofValue`).
-/

namespace RpcTransport.Json

/-! ## Scalars -/

theorem skipFraction_of_ends {b : UInt8} (hb : endsDocument b = true) (rest : Bytes) :
    skipFraction (b :: rest) = .ok (b :: rest) := by
  obtain ⟨-, hpoint, hexponent⟩ := not_numeral_of_endsDocument hb
  rw [skipFraction]
  · rw [skipExponentOrEnd, hexponent, if_neg Bool.false_ne_true]
  · rintro more heq
    exact hpoint (List.cons.inj heq).1

theorem skipDigits_append {digits rest : Bytes} (hdigits : ∀ b ∈ digits, isDigit b = true)
    (hrest : startsWithDigit rest = false) : skipDigits (digits ++ rest) = rest := by
  rw [skipDigits, List.dropWhile_append_of_pos hdigits]
  cases rest with
  | nil => rfl
  | cons b rest => exact List.dropWhile_cons_of_neg (Bool.eq_false_iff.mp hrest)

theorem skipNumber_toDigits (n : Nat) {b : UInt8} (hb : endsDocument b = true) (rest : Bytes) :
    skipNumber (ofChars (Nat.toDigits 10 n) ++ b :: rest) = .ok (b :: rest) := by
  have hstart : startsWithDigit (b :: rest) = false := (not_numeral_of_endsDocument hb).1
  rcases Nat.eq_zero_or_pos n with rfl | hpos
  · change skipNumber (0x30 :: b :: rest) = _
    rw [skipNumber, if_pos rfl, hstart, if_neg Bool.false_ne_true, skipFraction_of_ends hb]
  · obtain ⟨d, digits, heq, hzero⟩ := head?_toDigits hpos
    have hdigits : ∀ c ∈ d :: digits, isDigit c = true :=
      fun c hc ↦ isDigit_of_mem_ofChars (heq ▸ hc)
    rw [heq, List.cons_append, skipNumber, if_neg hzero, if_pos (hdigits d List.mem_cons_self),
      skipDigits_append (fun c hc ↦ hdigits c (List.mem_cons_of_mem d hc)) hstart,
      skipFraction_of_ends hb]

/-- One round passes over one octet, escaped or not. -/
theorem skipText_escape (b : UInt8) (fuel : Nat) (rest : Bytes) :
    skipText (fuel + 1) (escape b ++ rest) = skipText fuel rest := by
  rw [escape]
  iterate 7
    split
    · rfl
  split
  · next hcontrol =>
    change skipText (fuel + 1) (0x5c :: 0x75 :: ((escapeControl b).tail.tail ++ rest)) = _
    rw [skipText, if_neg (by decide), if_pos rfl, skipEscape, if_pos rfl,
      fourDigits_control hcontrol]
    rfl
  · next hquote hbackslash _ _ _ _ _ hcontrol =>
    change skipText (fuel + 1) (b :: rest) = _
    rw [skipText, if_neg hquote, if_neg hbackslash, if_neg hcontrol]

theorem skipText_flatMap_escape (octets : Bytes) {fuel : Nat} (h : octets.length < fuel)
    (rest : Bytes) : skipText fuel (octets.flatMap escape ++ 0x22 :: rest) = .ok rest := by
  obtain ⟨fuel, rfl⟩ := Nat.exists_eq_succ_of_ne_zero (Nat.ne_zero_of_lt h)
  induction octets generalizing fuel with
  | nil => rfl
  | cons b octets ih =>
    have hoctets : octets.length < fuel := Nat.lt_of_succ_lt_succ h
    obtain ⟨fuel, rfl⟩ := Nat.exists_eq_succ_of_ne_zero (Nat.ne_zero_of_lt hoctets)
    rw [List.flatMap_cons, List.append_assoc, skipText_escape]
    exact ih fuel hoctets

theorem skipText_ofText (s : String) {fuel : Nat} (h : (ofText s).length ≤ fuel) (rest : Bytes) :
    skipText fuel ((ofText s).tail ++ rest) = .ok rest := by
  have hlength : (utf8 s).length < fuel := Nat.lt_of_succ_lt (Nat.le_trans (length_ofText s) h)
  rw [ofText, quoted, List.tail_cons, List.append_assoc]
  exact skipText_flatMap_escape _ hlength rest

/-- A key goes with the colon behind it. -/
theorem skipKey_ofText (s : String) {fuel : Nat} (h : (ofText s).length ≤ fuel) (rest : Bytes) :
    skipKey fuel (ofText s ++ 0x3a :: rest) = .ok rest := by
  have htext := skipText_ofText s h (0x3a :: rest)
  have hquote : ofText s ++ 0x3a :: rest = 0x22 :: ((ofText s).tail ++ 0x3a :: rest) := rfl
  rw [skipKey, (starts_ofText s).skipSpace, hquote]
  dsimp only
  rewrite [if_pos rfl, htext]
  rfl

theorem skipScalar_ofValue {v : Value} (hwhole : v.Whole) (hdepth : v.depth = 0) {fuel : Nat}
    (hfuel : (ofValue v).length ≤ fuel) {b : UInt8} (hb : endsDocument b = true) (rest : Bytes) :
    ∃ c more, ofValue v = c :: more ∧ c ≠ 0x5b ∧ c ≠ 0x7b ∧
      skipScalar fuel c (more ++ b :: rest) = .ok (b :: rest) := by
  cases v with
  | null => exact ⟨0x6e, _, rfl, by decide, by decide, rfl⟩
  | bool b =>
    cases b with
    | true => exact ⟨0x74, _, rfl, by decide, by decide, rfl⟩
    | false => exact ⟨0x66, _, rfl, by decide, by decide, rfl⟩
  | number n =>
    cases n with
    | whole z lower upper =>
      cases z with
      | ofNat n =>
        obtain ⟨d, digits, heq, hd⟩ := exists_isDigit_toDigits n
        have hnot (c : UInt8) (hc : isDigit c = false) : d ≠ c := by
          rintro rfl
          exact Bool.noConfusion (hd.symm.trans hc)
        have hnumber := skipNumber_toDigits n hb rest
        rw [heq, List.cons_append] at hnumber
        refine ⟨d, digits, heq, hnot _ rfl, hnot _ rfl, ?_⟩
        rw [skipScalar, if_neg (hnot _ rfl), if_neg (hnot _ rfl), if_neg (hnot _ rfl),
          if_neg (hnot _ rfl), if_pos hd, hnumber]
      | negSucc n => exact ⟨0x2d, _, rfl, by decide, by decide, skipNumber_toDigits (n + 1) hb rest⟩
    | float => exact absurd hwhole id
  | string s => exact ⟨0x22, _, rfl, by decide, by decide, skipText_ofText s hfuel (b :: rest)⟩
  | array items => exact absurd hdepth (Nat.succ_ne_zero _)
  | object members => exact absurd hdepth (Nat.succ_ne_zero _)

/-! ## Containers -/

/-- The machine passes over a text, in fewer than two steps an octet. -/
def Passes (text : Bytes) : Prop :=
  ∃ steps, steps < 2 * text.length ∧
    ∀ textFuel, text.length ≤ textFuel → ∀ fuel enclosing b rest, endsDocument b = true →
      passOver textFuel (fuel + steps) .value enclosing (text ++ b :: rest) =
        passOver textFuel fuel .ended enclosing (b :: rest)

theorem passOver_value {textFuel : Nat} {c : UInt8} (hc : isSpace c = false) (fuel : Nat)
    (enclosing : List Bracket) (rest : Bytes) :
    passOver textFuel (fuel + 1) .value enclosing (c :: rest) =
      if c = 0x5b then passOver textFuel fuel .opened (.list :: enclosing) rest
      else if c = 0x7b then passOver textFuel fuel .opened (.object :: enclosing) rest
      else
        match skipScalar textFuel c rest with
        | .error e => .error e
        | .ok rest => passOver textFuel fuel .ended enclosing rest := by
  rewrite [passOver, skipSpace_cons hc]
  rfl

theorem passes_scalar {v : Value} (hwhole : v.Whole) (hdepth : v.depth = 0) :
    Passes (ofValue v) := by
  obtain ⟨c, more, heq, hblank, -⟩ := starts_ofValue hwhole
  refine ⟨1, by rw [heq, List.length_cons]; omega, ?_⟩
  intro textFuel hfuel fuel enclosing b rest hb
  obtain ⟨c', more', heq', hlist, hobject, hskip⟩ := skipScalar_ofValue hwhole hdepth hfuel hb rest
  obtain ⟨rfl, rfl⟩ := List.cons.inj (heq.symm.trans heq')
  rw [heq, List.cons_append, passOver_value (isSpace_of_not_blank hblank), if_neg hlist,
    if_neg hobject, hskip]

/-- One round passes over one piece of a row, with the comma before it. -/
def PassesPiece (bracket : Bracket) (piece : Bytes) : Prop :=
  ∃ steps, steps ≤ 2 * piece.length ∧
    ∀ textFuel, piece.length ≤ textFuel →
      ∀ fuel outer (first : Bool) b rest, endsDocument b = true →
        passOver textFuel (fuel + steps) (if first then .opened else .ended) (bracket :: outer)
            ((if first then [] else [0x2c]) ++ (piece ++ b :: rest)) =
          passOver textFuel fuel .ended (bracket :: outer) (b :: rest)

theorem passesPiece_item {text : Bytes} (h : Passes text) (hstart : Starts text) :
    PassesPiece .list text := by
  obtain ⟨steps, hsteps, hpass⟩ := h
  obtain ⟨c, more, rfl, hblank, hclosing⟩ := hstart
  refine ⟨steps + 1, hsteps, fun textFuel hfuel fuel outer first b rest hb ↦ ?_⟩
  rw [← hpass textFuel hfuel fuel (.list :: outer) b rest hb, ← Nat.add_assoc]
  cases first with
  | true =>
    change passOver textFuel (fuel + steps + 1) .opened (.list :: outer)
      (c :: (more ++ b :: rest)) = _
    rw [passOver, skipSpace_cons (isSpace_of_not_blank hblank)]
    · dsimp only
      rw [if_neg (show c ≠ Bracket.list.closing from hclosing)]
      rfl
    · nofun
  | false => rfl

theorem passOver_member (key : String) (first : Bool) (textFuel fuel : Nat) (outer : List Bracket)
    (rest : Bytes) :
    passOver textFuel (fuel + 1) (if first then .opened else .ended) (.object :: outer)
        ((if first then [] else [0x2c]) ++ (ofText key ++ 0x3a :: rest)) =
      match skipKey textFuel (ofText key ++ 0x3a :: rest) with
      | .error e => .error e
      | .ok rest => passOver textFuel fuel .value (.object :: outer) rest := by
  cases first with
  | true | false => rfl

theorem passesPiece_member {text : Bytes} (h : Passes text) (key : String) :
    PassesPiece .object (member key text) := by
  obtain ⟨steps, hsteps, hpass⟩ := h
  have hlength : (member key text).length = (ofText key).length + (text.length + 1) := by
    rw [member, List.length_append, List.length_cons]
  refine ⟨steps + 1, by omega, fun textFuel hfuel fuel outer first b rest hb ↦ ?_⟩
  have hkey : (ofText key).length ≤ textFuel := by omega
  have hpiece : member key text ++ b :: rest = ofText key ++ 0x3a :: (text ++ b :: rest) := by
    rw [member, List.append_assoc]
    rfl
  rw [← hpass textFuel (by omega) fuel (.object :: outer) b rest hb, ← Nat.add_assoc, hpiece]
  rewrite [passOver_member, skipKey_ofText key hkey]
  rfl

/-- The machine passes over a row and the bracket behind it. -/
theorem passOver_row {bracket : Bracket} {pieces : List Bytes}
    (hpieces : ∀ piece ∈ pieces, PassesPiece bracket piece) (first : Bool) :
    ∃ steps, steps ≤ 2 * (row first pieces).length + 1 ∧
      ∀ textFuel, (row first pieces).length ≤ textFuel → ∀ fuel outer rest,
        passOver textFuel (fuel + steps) (if first then .opened else .ended) (bracket :: outer)
            (row first pieces ++ bracket.closing :: rest) =
          passOver textFuel fuel .ended outer rest := by
  induction pieces generalizing first with
  | nil =>
    refine ⟨1, Nat.le_add_left 1 _, fun textFuel _ fuel outer rest ↦ ?_⟩
    cases first with
    | true | false =>
      cases bracket with
      | list | object => rfl
  | cons piece pieces ih =>
    obtain ⟨steps, hsteps, hpass⟩ := hpieces piece List.mem_cons_self
    obtain ⟨more, hmore, hrow⟩ := ih (fun p hp ↦ hpieces p (List.mem_cons_of_mem piece hp)) false
    have hlength : piece.length + (row false pieces).length ≤
        (row first (piece :: pieces)).length := by
      rw [row_cons, List.length_append, List.length_append]
      exact Nat.le_add_left _ _
    refine ⟨more + steps, by omega, fun textFuel hfuel fuel outer rest ↦ ?_⟩
    have hclosing : endsDocument bracket.closing = true := by
      cases bracket with
      | list | object => rfl
    obtain ⟨b, behind, heq, hb⟩ := row_false_append pieces bracket.closing hclosing rest
    rw [← hrow textFuel (by omega) fuel outer rest, row_cons, List.append_assoc, List.append_assoc,
      heq, ← Nat.add_assoc]
    exact hpass textFuel (by omega) (fuel + more) outer first b behind hb

theorem passes_enclose (bracket : Bracket) {opening : UInt8} {pieces : List Bytes}
    (hopening : opening = match bracket with | .list => 0x5b | .object => 0x7b)
    (hpieces : ∀ piece ∈ pieces, PassesPiece bracket piece) :
    Passes (enclose opening bracket.closing pieces) := by
  obtain ⟨steps, hsteps, hrow⟩ := passOver_row hpieces true
  refine ⟨steps + 1, by rw [length_enclose]; omega, ?_⟩
  intro textFuel hfuel fuel enclosing b rest _
  rw [length_enclose] at hfuel
  rw [enclose_append, ← hrow textFuel (by omega) fuel enclosing (b :: rest), ← Nat.add_assoc]
  cases bracket with
  | list | object =>
    subst hopening
    rfl

/-- **The machine passes over any value that was written.** -/
theorem passes_ofValue {v : Value} (hwhole : v.Whole) : Passes (ofValue v) := by
  induction hn : v.depth using Nat.strongRecOn generalizing v with
  | ind n ih =>
    cases v with
    | array items =>
      rw [ofValue_array]
      refine passes_enclose .list rfl fun piece hpiece ↦ ?_
      obtain ⟨w, hw, rfl⟩ := List.mem_map.mp hpiece
      have hwhole := Value.wholeItems_iff.mp hwhole w hw
      have hdepth : w.depth < n := hn ▸ Nat.lt_succ_of_le (Value.depth_le_depthItems hw)
      exact passesPiece_item (ih _ hdepth hwhole rfl) (starts_ofValue hwhole)
    | object members =>
      rw [ofValue_object]
      refine passes_enclose .object rfl fun piece hpiece ↦ ?_
      obtain ⟨m, hm, rfl⟩ := List.mem_map.mp hpiece
      have hdepth : m.2.depth < n := hn ▸ Nat.lt_succ_of_le (Value.depth_le_depthMembers hm)
      exact passesPiece_member (ih _ hdepth (Value.wholeMembers_iff.mp hwhole m hm) rfl) m.1
    | null | bool | number | string => exact passes_scalar hwhole rfl

/-- **A value that was written is passed over**, and nothing of what follows it. -/
theorem skipValue_ofValue {v : Value} (hwhole : v.Whole) {b : UInt8} (hb : endsDocument b = true)
    (rest : Bytes) : skipValue (ofValue v ++ b :: rest) = .ok (b :: rest) := by
  obtain ⟨steps, hsteps, hpass⟩ := passes_ofValue hwhole
  have hlength : (ofValue v ++ b :: rest).length = (ofValue v).length + (rest.length + 1) := by
    rw [List.length_append, List.length_cons]
  obtain ⟨fuel, hfuel⟩ : ∃ fuel, 2 * (ofValue v ++ b :: rest).length + 2 = fuel + 1 + steps :=
    ⟨2 * (ofValue v ++ b :: rest).length + 1 - steps, by omega⟩
  rw [skipValue, hfuel, hpass _ (by omega) (fuel + 1) [] b rest hb]
  rfl

end RpcTransport.Json
