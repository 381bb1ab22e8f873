import RpcTransport.Proofs.Json.Documents

/-!
# JSON documents that were cut off

A document whose end is missing is told apart from one that is wrong: given a proper part of what
was written, a reader finds the end of its input wherever the part ends, inside a word, an escape, a
key or a list (`NeedsAll`). Every reader of a type does so on what is written for it.

Digits are the exception, since a part of them is a number as well. All that can be said of them is
that the reader takes all that there is (`RunsOut`), and so, inside a list or an object, the comma
or the bracket is missing next. That is why both laws are carried through the loops together: items
that run out make a row that needs all of its octets.

A reader gets fuel for what it is given and not for what was written, so both laws are about parts
within the fuel.
-/

namespace RpcTransport

/-- A part of two texts ends in the first, or has all of the first and ends in the second. -/
theorem Bytes.prefix_append_cases {cut front back : Bytes} (h : cut <+: front ++ back) :
    cut <+: front ∧ cut ≠ front ∨ ∃ more, cut = front ++ more ∧ more <+: back := by
  obtain ⟨rest, hrest⟩ := h
  rcases List.append_eq_append_iff.mp hrest with ⟨missing, rfl, -⟩ | ⟨more, rfl, hmore⟩
  · rcases eq_or_ne missing [] with rfl | hne
    · exact .inr ⟨[], by simp, List.nil_prefix⟩
    · refine .inl ⟨List.prefix_append _ _, fun h ↦ hne ?_⟩
      exact List.append_right_eq_self.mp h.symm
  · exact .inr ⟨more, rfl, rest, hmore.symm⟩

/-- A part of two texts is a part of the first, or goes on into the second. -/
theorem Bytes.prefix_append_or {cut front back : Bytes} (h : cut <+: front ++ back) :
    cut <+: front ∨ ∃ b more, cut = front ++ b :: more ∧ b :: more <+: back := by
  rcases prefix_append_cases h with ⟨h, -⟩ | ⟨more, rfl, hmore⟩
  · exact .inl h
  · cases more with
    | nil =>
      rw [List.append_nil]
      exact .inl (List.prefix_refl front)
    | cons b more => exact .inr ⟨b, more, rfl, hmore⟩

namespace Json

variable {α β γ : Type} {fuel : Nat} {p : Parser α} {x : α} {text cut : Bytes}

/-- Given a part of a text, a reader takes all of it or finds that there is not enough. -/
def RunsOut (fuel : Nat) (p : Parser α) (text : Bytes) : Prop :=
  ∀ cut, cut <+: text → cut.length ≤ fuel →
    p cut = .error .endOfInput ∨ ∃ x, p cut = .ok (x, [])

/-- Given a proper part of a text, a reader finds that there is not enough. -/
def NeedsAll (fuel : Nat) (p : Parser α) (text : Bytes) : Prop :=
  ∀ cut, cut <+: text → cut ≠ text → cut.length ≤ fuel → p cut = .error .endOfInput

theorem NeedsAll.runsOut (h : NeedsAll fuel p text) {x : α}
    (hwhole : text.length ≤ fuel → p text = .ok (x, [])) : RunsOut fuel p text := by
  intro cut hcut hfuel
  rcases eq_or_ne cut text with rfl | hne
  · exact .inr ⟨x, hwhole hfuel⟩
  · exact .inl (h cut hcut hne hfuel)

/-! ## Words -/

theorem word_cut {expected : Bytes} (hcut : cut <+: expected) (hne : cut ≠ expected) :
    word expected cut = .error .endOfInput := by
  induction expected generalizing cut with
  | nil => exact absurd (List.prefix_nil.mp hcut) hne
  | cons e expected ih =>
    rcases List.prefix_cons_iff.mp hcut with rfl | ⟨more, rfl, hmore⟩
    · rfl
    · rw [word, if_pos rfl]
      exact ih hmore fun h ↦ hne (h ▸ rfl)

/-! ## Texts -/

theorem quotedOctets_nil (fuel : Nat) (done : Bytes) :
    quotedOctets fuel done [] = .error .endOfInput := by
  cases fuel with
  | zero | succ fuel => rfl

theorem escape_shape (b : UInt8) : escape b = [b] ∨ (∃ c, escape b = [0x5c, c]) ∨
    ∃ digits, escape b = 0x5c :: 0x75 :: digits ∧ digits.length = 4 := by
  rw [escape]
  iterate 7
    split
    · exact .inr (.inl ⟨_, rfl⟩)
  split
  · exact .inr (.inr ⟨_, rfl, rfl⟩)
  · exact .inl rfl

theorem fourDigits_short {bs : Bytes} (h : bs.length < 4) : fourDigits bs = .error .endOfInput := by
  match bs, h with
  | [], _ | [_], _ | [_, _], _ | [_, _, _], _ => rfl

/-- Nothing is read of a part of an escape. -/
theorem quotedOctets_escape_cut {b : UInt8} (hcut : cut <+: escape b) (hne : cut ≠ escape b)
    (fuel : Nat) (done : Bytes) : quotedOctets fuel done cut = .error .endOfInput := by
  -- A part that is not empty is a backslash, after which too little is left.
  have hbackslash {more : Bytes} (h : unescape more = .error .endOfInput) :
      quotedOctets fuel done (0x5c :: more) = .error .endOfInput := by
    cases fuel with
    | zero => rfl
    | succ fuel => rw [quotedOctets, if_neg (by decide), if_pos rfl, h]
  rcases escape_shape b with heq | ⟨c, heq⟩ | ⟨digits, heq, hlength⟩
  all_goals
    rw [heq] at hcut hne
    rcases List.prefix_cons_iff.mp hcut with rfl | ⟨more, rfl, hmore⟩
    · exact quotedOctets_nil fuel done
  · exact absurd (congrArg (b :: ·) (List.prefix_nil.mp hmore)) hne
  · rcases List.prefix_cons_iff.mp hmore with rfl | ⟨last, rfl, hlast⟩
    · exact hbackslash rfl
    · exact absurd (congrArg (0x5c :: c :: ·) (List.prefix_nil.mp hlast)) hne
  · rcases List.prefix_cons_iff.mp hmore with rfl | ⟨last, rfl, hlast⟩
    · exact hbackslash rfl
    · have hshort : last.length < 4 := by
        refine hlength ▸ Nat.lt_of_le_of_ne hlast.length_le fun h ↦ hne ?_
        rw [hlast.eq_of_length h]
      refine hbackslash ?_
      change unicodeEscape last = _
      rw [unicodeEscape, fourDigits_short hshort]
      rfl

theorem quotedOctets_cut {octets : Bytes} (hcut : cut <+: octets.flatMap escape)
    (fuel : Nat) (done : Bytes) : quotedOctets fuel done cut = .error .endOfInput := by
  induction octets generalizing fuel done cut with
  | nil =>
    obtain rfl := List.prefix_nil.mp hcut
    exact quotedOctets_nil fuel done
  | cons b octets ih =>
    rw [List.flatMap_cons] at hcut
    rcases Bytes.prefix_append_cases hcut with ⟨hpart, hne⟩ | ⟨more, rfl, hmore⟩
    · exact quotedOctets_escape_cut hpart hne fuel done
    · cases fuel with
      | zero => rfl
      | succ fuel =>
        rw [quotedOctets_escape]
        exact ih hmore fuel (b :: done)

/-- A text is not read before its closing quote. -/
theorem quotedText_cut {s : String} (hcut : cut <+: (ofText s).tail)
    (hne : cut ≠ (ofText s).tail) (fuel : Nat) : quotedText fuel cut = .error .endOfInput := by
  rw [ofText, quoted, List.tail_cons, List.prefix_concat_iff] at hcut
  rcases hcut with rfl | hcut
  · exact absurd rfl hne
  · rw [quotedText, quotedOctets_cut hcut]

theorem needsAll_textDocument (fuel : Nat) (s : String) :
    NeedsAll fuel (textDocument fuel) (ofText s) := by
  intro cut hcut hne _
  rcases List.prefix_cons_iff.mp hcut with rfl | ⟨more, rfl, hmore⟩
  · rfl
  · exact quotedText_cut hmore (fun h ↦ hne (congrArg (0x22 :: ·) h)) fuel

/-! ## Numbers -/

/-- Digits at the end of the input are a number. -/
theorem number_digits {d : UInt8} {digits : Bytes} (hdigits : ∀ c ∈ d :: digits, isDigit c = true)
    (hzero : d = 0x30 → digits = []) (negative : Bool)
    (hfit : numeral 0 (d :: digits) ≤ significandBound) :
    number negative (d :: digits) =
      afterDigits.wholeEnd negative (numeral 0 (d :: digits)) [] := by
  have htell : numeral 0 (d :: digits) = numeral (d.toNat - 48) digits := by
    simp [numeral]
  rw [number]
  split
  · next h =>
    obtain rfl := h
    rw [hzero rfl]
    rfl
  · have hmore : ∀ c ∈ digits, isDigit c = true := fun c hc ↦ hdigits c (List.mem_cons_of_mem d hc)
    have hgather := gather_append hmore (show startsWithDigit [] = false from rfl)
      (d.toNat - 48) 1 (htell ▸ hfit)
    rw [List.append_nil] at hgather
    rw [if_pos (hdigits d List.mem_cons_self), hgather, htell]
    rfl

theorem numeral_append (significand : Nat) (digits more : Bytes) :
    numeral significand (digits ++ more) = numeral (numeral significand digits) more :=
  List.foldl_append

/-- A part of the digits of a number tells a number that is not larger. -/
theorem exists_number_cut {n : Nat} (hcut : cut <+: ofChars (Nat.toDigits 10 n))
    (hne : cut ≠ []) (hfit : n ≤ significandBound) (negative : Bool) :
    ∃ m ≤ n, number negative cut = afterDigits.wholeEnd negative m [] := by
  obtain ⟨more, hmore⟩ := hcut
  obtain ⟨d, digits, rfl⟩ := List.exists_cons_of_ne_nil hne
  have hdigits : ∀ c ∈ d :: digits, isDigit c = true := fun c hc ↦
    isDigit_of_mem_ofChars (hmore ▸ List.mem_append_left more hc)
  have hle : numeral 0 (d :: digits) ≤ n := by
    have hwhole := numeral_toDigits n
    rw [← hmore, numeral_append] at hwhole
    exact hwhole ▸ le_numeral _ more
  refine ⟨_, hle, number_digits hdigits (fun h ↦ ?_) negative (Nat.le_trans hle hfit)⟩
  -- Only zero begins with a zero.
  rcases Nat.eq_zero_or_pos n with rfl | hpos
  · have hlength : ((d :: digits) ++ more).length = 1 := congrArg List.length hmore
    simp only [List.length_append, List.length_cons] at hlength
    exact List.eq_nil_of_length_eq_zero (by omega)
  · obtain ⟨c, rest, heq, hc⟩ := head?_toDigits hpos
    rw [heq] at hmore
    exact absurd ((List.cons.inj hmore).1.symm.trans h) hc

theorem exists_wholeEnd (negative : Bool) {n : Nat} {z : Int}
    (hz : z = if negative then -(n : Int) else n) (lower : -0x8000000000000000 ≤ z)
    (upper : z < 0x10000000000000000) :
    ∃ m, afterDigits.wholeEnd negative n [] = .ok (m, []) := by
  have hdigits : ∃ m, ofDigits negative n = some m := by
    rw [ofDigits]
    split
    · exact ⟨_, rfl⟩
    · rw [← hz, Number.ofInt?, dif_pos ⟨lower, upper⟩]
      exact ⟨_, rfl⟩
  obtain ⟨m, hm⟩ := hdigits
  exact ⟨m, by rw [afterDigits.wholeEnd, hm]⟩

theorem runsOut_ofInteger {z : Int} (lower : -0x8000000000000000 ≤ z)
    (upper : z < 0x10000000000000000) (fuel : Nat) (nested : Option (Parser Value)) :
    RunsOut fuel (valueWith fuel nested) (ofInteger z) := by
  intro cut hcut _
  rcases eq_or_ne cut [] with rfl | hne
  · exact .inl rfl
  cases z with
  | ofNat n =>
    have hn : (n : Int) < 0x10000000000000000 := upper
    obtain ⟨m, hm, hnumber⟩ :=
      exists_number_cut hcut hne (by rw [significandBound]; omega) false
    obtain ⟨x, hx⟩ := exists_wholeEnd false (z := m) rfl (by omega) (by omega)
    obtain ⟨d, digits, rfl⟩ := List.exists_cons_of_ne_nil hne
    refine .inr ⟨.number x, ?_⟩
    rw [valueWith_digit (isDigit_of_mem_ofChars (hcut.subset List.mem_cons_self)), hnumber, hx]
    rfl
  | negSucc n =>
    obtain ⟨digits, rfl, hdigits⟩ := (List.prefix_cons_iff.mp hcut).resolve_left hne
    change (number true digits).map _ = _ ∨ ∃ x, (number true digits).map _ = _
    rcases eq_or_ne digits [] with rfl | hne
    · exact .inl rfl
    · obtain ⟨m, hm, hnumber⟩ :=
        exists_number_cut hdigits hne (by rw [significandBound]; omega) true
      obtain ⟨x, hx⟩ := exists_wholeEnd true (z := -m) rfl (by omega) (by omega)
      exact .inr ⟨.number x, by rw [hnumber, hx]; rfl⟩

/-! ## Rows -/

theorem elements_nil {item : Parser α} (fuel : Nat) (done : List α) (first : Bool) :
    elements item fuel first done [] = .error .endOfInput := by
  cases fuel with
  | zero | succ fuel => rfl

theorem members_of_nil {step : String → γ → Parser γ} {textFuel : Nat} (fuel : Nat) (first : Bool)
    (known : γ) : members textFuel step fuel first known [] = .error .endOfInput := by
  cases fuel with
  | zero | succ fuel => rfl

/-- What stands in front of a piece of a row, if it is not all, is nothing or the comma. -/
theorem row_cut {first : Bool} {piece : Bytes} {pieces : List Bytes}
    (hcut : cut <+: row first (piece :: pieces)) :
    cut = [] ∨ first = false ∧ cut = [0x2c] ∨ ∃ more, more ≠ [] ∧
      cut = (if first then [] else [0x2c]) ++ more ∧ more <+: piece ++ row false pieces := by
  rw [row_cons] at hcut
  rcases eq_or_ne cut [] with rfl | hne
  · exact .inl rfl
  cases first with
  | true => exact .inr (.inr ⟨cut, hne, rfl, hcut⟩)
  | false =>
    obtain ⟨more, rfl, hmore⟩ := (List.prefix_cons_iff.mp hcut).resolve_left hne
    rcases eq_or_ne more [] with rfl | hne
    · exact .inr (.inl ⟨rfl, rfl⟩)
    · exact .inr (.inr ⟨more, hne, rfl, hmore⟩)

/-- Between two pieces of a row there is a comma. -/
theorem Reads.of_row (h : Reads p text x) {b : UInt8} {more : Bytes} {pieces : List Bytes}
    (hrow : b :: more <+: row false pieces) : p (text ++ b :: more) = .ok (x, b :: more) := by
  cases pieces with
  | nil => exact absurd (List.prefix_nil.mp hrow) nofun
  | cons piece pieces =>
    obtain ⟨rfl, -⟩ := List.cons_prefix_cons.mp hrow
    exact h 0x2c more rfl

/-- **A list is not read before its closing bracket.** -/
theorem elements_cut {item : Parser α} {text : α → Bytes} {xs : List α}
    (hitem : ∀ x ∈ xs, (text x).length ≤ fuel → Reads item (text x) x)
    (hout : ∀ x ∈ xs, RunsOut fuel item (text x)) (hstart : ∀ x ∈ xs, Starts (text x))
    {first : Bool} (hcut : cut <+: row first (xs.map text)) (hfuel : cut.length ≤ fuel)
    (rounds : Nat) (done : List α) :
    elements item rounds first done cut = .error .endOfInput := by
  induction xs generalizing first cut rounds done with
  | nil =>
    obtain rfl := List.prefix_nil.mp hcut
    exact elements_nil rounds done first
  | cons x xs ih =>
    cases rounds with
    | zero => rfl
    | succ rounds =>
      rcases row_cut hcut with rfl | ⟨rfl, rfl⟩ | ⟨more, hne, rfl, hmore⟩
      · rfl
      · rfl
      have hnext : nextElement first ((if first then [] else [0x2c]) ++ more) =
          .ok (.item more) := by
        obtain ⟨b, text', heq, hblank, hclosing⟩ := hstart x List.mem_cons_self
        obtain ⟨c, more, rfl⟩ := List.exists_cons_of_ne_nil hne
        rw [heq, List.cons_append] at hmore
        obtain ⟨rfl, -⟩ := List.cons_prefix_cons.mp hmore
        have h := nextElement_row ⟨c, more, rfl, hblank, hclosing⟩ first []
        rwa [List.append_nil] at h
      have hlength : more.length ≤ fuel := by
        rw [List.length_append] at hfuel
        omega
      rw [elements, hnext]
      dsimp only
      rcases Bytes.prefix_append_or hmore with hpart | ⟨b, more, rfl, hrest⟩
      · rcases hout x List.mem_cons_self more hpart hlength with h | ⟨y, h⟩
        · rw [h]
        · rw [h]
          exact elements_nil rounds _ false
      · rw [List.length_append] at hlength
        rw [(hitem x List.mem_cons_self (by omega)).of_row hrest]
        exact ih (fun y hy ↦ hitem y (List.mem_cons_of_mem x hy))
          (fun y hy ↦ hout y (List.mem_cons_of_mem x hy))
          (fun y hy ↦ hstart y (List.mem_cons_of_mem x hy)) hrest (by omega) rounds _

section Members

variable {step : String → γ → Parser γ} {known known' : γ} {key : String} {pieces : List Bytes}

/-- One round of the loop over an object is not finished, or leaves a part of the other members. -/
theorem members_cut_cons
    (hstep : (text.length + 1 ≤ fuel) → Reads (step key known) (0x3a :: text) known')
    (hout : RunsOut fuel (step key known) (0x3a :: text)) {first : Bool}
    (hcut : cut <+: row first (member key text :: pieces)) (hfuel : cut.length ≤ fuel)
    (rounds : Nat) :
    members fuel step rounds first known cut = .error .endOfInput ∨
      ∃ more rounds', more <+: row false pieces ∧ more.length ≤ fuel ∧
        members fuel step rounds first known cut = members fuel step rounds' false known' more := by
  cases rounds with
  | zero => exact .inl rfl
  | succ rounds =>
    rcases row_cut hcut with rfl | ⟨rfl, rfl⟩ | ⟨more, hne, rfl, hmore⟩
    · exact .inl rfl
    · exact .inl rfl
    have hlength : more.length ≤ fuel := by
      rw [List.length_append] at hfuel
      omega
    rw [member, List.append_assoc] at hmore
    obtain ⟨inside, rfl, hinside⟩ : ∃ inside, more = 0x22 :: inside ∧
        inside <+: (ofText key).tail ++ (0x3a :: text ++ row false pieces) :=
      (List.prefix_cons_iff.mp hmore).resolve_left hne
    have hnext : nextMember first ((if first then [] else [0x2c]) ++ 0x22 :: inside) =
        .ok (.item inside) := by
      cases first with
      | true | false => rfl
    rw [members, hnext]
    dsimp only
    rcases Bytes.prefix_append_cases hinside with ⟨hpart, hne⟩ | ⟨behind, rfl, hbehind⟩
    · rw [quotedText_cut hpart hne]
      exact .inl rfl
    have hsum : (ofText key).length + behind.length ≤ fuel := by
      rw [← List.cons_append, List.length_append] at hlength
      exact hlength
    rw [quotedText_ofText key (by omega)]
    dsimp only
    rcases Bytes.prefix_append_or hbehind with hpart | ⟨b, others, rfl, hothers⟩
    · rcases hout behind hpart (by omega) with h | ⟨known, h⟩
      · exact .inl (by rw [h])
      · rw [h]
        exact .inl (members_of_nil rounds false known)
    · rw [List.length_append, List.length_cons] at hsum
      rw [(hstep (by omega)).of_row hothers]
      exact .inr ⟨_, rounds, hothers, by omega, rfl⟩

/-- **An object is not read before its closing bracket.** -/
theorem members_cut {β : Type} {add : γ → β → γ} {keyOf : β → String} {textOf : β → Bytes}
    {entries : List β}
    (hstep : ∀ e ∈ entries, ∀ known, (textOf e).length + 1 ≤ fuel →
      Reads (step (keyOf e) known) (0x3a :: textOf e) (add known e))
    (hout : ∀ e ∈ entries, ∀ known, RunsOut fuel (step (keyOf e) known) (0x3a :: textOf e))
    {first : Bool} (hcut : cut <+: row first (entries.map fun e ↦ member (keyOf e) (textOf e)))
    (hfuel : cut.length ≤ fuel) (rounds : Nat) (known : γ) :
    members fuel step rounds first known cut = .error .endOfInput := by
  induction entries generalizing first cut rounds known with
  | nil =>
    obtain rfl := List.prefix_nil.mp hcut
    exact members_of_nil rounds first known
  | cons e entries ih =>
    rcases members_cut_cons (hstep e List.mem_cons_self known) (hout e List.mem_cons_self known)
      hcut hfuel rounds with h | ⟨more, rounds', hmore, hlength, h⟩
    · exact h
    · rw [h]
      exact ih (fun d hd ↦ hstep d (List.mem_cons_of_mem e hd))
        (fun d hd ↦ hout d (List.mem_cons_of_mem e hd)) hmore hlength rounds' _

end Members

/-- What a member has runs out if it does so behind the colon. -/
theorem RunsOut.behind_colon (h : RunsOut fuel p text) (f : α → β) :
    RunsOut fuel (fun bs ↦ do
      let (y, rest) ← p (← colon bs)
      return (f y, rest)) (0x3a :: text) := by
  intro cut hcut hfuel
  rcases List.prefix_cons_iff.mp hcut with rfl | ⟨more, rfl, hmore⟩
  · exact .inl rfl
  change (p more >>= fun q ↦ pure (f q.1, q.2)) = _ ∨
    ∃ x, (p more >>= fun q ↦ pure (f q.1, q.2)) = _
  rcases h more hmore (Nat.le_of_succ_le hfuel) with h | ⟨y, h⟩
  · exact .inl (by rw [h]; rfl)
  · exact .inr ⟨f y, by rw [h]; rfl⟩

/-! ## Values -/

/-- What stands between two brackets, if the closing one is missing. -/
theorem enclose_cut {opening closing : UInt8} {pieces : List Bytes}
    (hcut : cut <+: enclose opening closing pieces) (hne : cut ≠ enclose opening closing pieces) :
    cut = [] ∨ ∃ more, cut = opening :: more ∧ more <+: row true pieces := by
  rw [enclose_eq_row] at hcut hne
  rcases List.prefix_cons_iff.mp hcut with rfl | ⟨more, rfl, hmore⟩
  · exact .inl rfl
  · refine .inr ⟨more, rfl, (List.prefix_concat_iff.mp hmore).resolve_left ?_⟩
    rintro rfl
    exact hne rfl

theorem needsAll_list {item : Parser Value} {items : List Value}
    (hitem : ∀ v ∈ items, (ofValue v).length ≤ fuel → Reads item (ofValue v) v)
    (hout : ∀ v ∈ items, RunsOut fuel item (ofValue v))
    (hstart : ∀ v ∈ items, Starts (ofValue v)) :
    NeedsAll fuel (valueWith fuel (some item)) (ofValue (.array items)) := by
  intro cut hcut hne hfuel
  rw [ofValue_array] at hcut hne
  rcases enclose_cut hcut hne with rfl | ⟨more, rfl, hmore⟩
  · rfl
  · rw [valueWith_list,
      elements_cut hitem hout hstart hmore (Nat.le_of_succ_le hfuel) fuel []]
    rfl

theorem needsAll_object {item : Parser Value} {ms : List (String × Value)}
    (hitem : ∀ m ∈ ms, (ofValue m.2).length ≤ fuel → Reads item (ofValue m.2) m.2)
    (hout : ∀ m ∈ ms, RunsOut fuel item (ofValue m.2)) :
    NeedsAll fuel (valueWith fuel (some item)) (ofValue (.object ms)) := by
  intro cut hcut hne hfuel
  rw [ofValue_object] at hcut hne
  rcases enclose_cut hcut hne with rfl | ⟨more, rfl, hmore⟩
  · rfl
  have hstep : ∀ m ∈ ms, ∀ known, (ofValue m.2).length + 1 ≤ fuel →
      Reads (addMember item m.1 known) (0x3a :: ofValue m.2) (insertEntry m.1 m.2 known) :=
    fun m hm known hlength ↦
      reads_behind_colon (hitem m hm (Nat.le_of_succ_le hlength)) (insertEntry m.1 · known)
  have hcolon : ∀ m ∈ ms, ∀ known,
      RunsOut fuel (addMember item m.1 known) (0x3a :: ofValue m.2) :=
    fun m hm known ↦ (hout m hm).behind_colon (insertEntry m.1 · known)
  rw [valueWith_object, members_cut hstep hcolon hmore (Nat.le_of_succ_le hfuel) fuel []]
  rfl

theorem needsAll_scalar {v : Value} (hdepth : v.depth = 0) (hnumber : ∀ n, v ≠ .number n)
    (nested : Option (Parser Value)) : NeedsAll fuel (valueWith fuel nested) (ofValue v) := by
  intro cut hcut hne hfuel
  have hword (b : UInt8) (letters : Bytes) (w : Value)
      (hv : ofValue v = b :: letters)
      (hread : ∀ rest, valueWith fuel nested (b :: rest) =
        (word letters rest).map fun rest ↦ (w, rest)) :
      valueWith fuel nested cut = .error .endOfInput := by
    rw [hv] at hcut hne
    rcases List.prefix_cons_iff.mp hcut with rfl | ⟨more, rfl, hmore⟩
    · rfl
    · rw [hread, word_cut hmore fun h ↦ hne (congrArg (b :: ·) h)]
      rfl
  cases v with
  | null => exact hword 0x6e (Bytes.ofAscii "ull") .null rfl fun _ ↦ rfl
  | bool b =>
    cases b with
    | true => exact hword 0x74 (Bytes.ofAscii "rue") (.bool true) rfl fun _ ↦ rfl
    | false => exact hword 0x66 (Bytes.ofAscii "alse") (.bool false) rfl fun _ ↦ rfl
  | number n => exact absurd rfl (hnumber n)
  | string s =>
    rcases List.prefix_cons_iff.mp hcut with rfl | ⟨more, rfl, hmore⟩
    · rfl
    · change (quotedText fuel more).map _ = _
      rw [quotedText_cut hmore (fun h ↦ hne (congrArg (0x22 :: ·) h))]
      rfl
  | array items => exact absurd hdepth (Nat.succ_ne_zero _)
  | object members => exact absurd hdepth (Nat.succ_ne_zero _)

theorem runsOut_scalar {v : Value} (hwhole : v.Whole) (hdepth : v.depth = 0)
    (nested : Option (Parser Value)) : RunsOut fuel (valueWith fuel nested) (ofValue v) := by
  cases v with
  | null =>
    exact (needsAll_scalar (v := .null) rfl (fun _ ↦ nofun) nested).runsOut (x := .null) fun _ ↦ rfl
  | bool b =>
    refine (needsAll_scalar (v := .bool b) rfl (fun _ ↦ nofun) nested).runsOut (x := .bool b) ?_
    cases b with
    | true | false => exact fun _ ↦ rfl
  | number n =>
    cases n with
    | whole z lower upper => exact runsOut_ofInteger lower upper fuel nested
    | float => exact absurd hwhole id
  | string s =>
    refine (needsAll_scalar (v := .string s) rfl (fun _ ↦ nofun) nested).runsOut (x := .string s)
      fun hfuel ↦ ?_
    have htext := quotedText_ofText s hfuel []
    rw [List.append_nil] at htext
    change (quotedText fuel (ofText s).tail).map _ = _
    rw [htext]
    rfl
  | array items => exact absurd hdepth (Nat.succ_ne_zero _)
  | object members => exact absurd hdepth (Nat.succ_ne_zero _)

/-- A value that is no number, if the items of a container run out. -/
theorem needsAll_succ {depth : Nat}
    (hout : ∀ w : Value, w.Whole → w.Canonical → w.depth ≤ depth →
      RunsOut fuel (value fuel depth) (ofValue w))
    {v : Value} (hwhole : v.Whole) (hcanonical : v.Canonical) (hdepth : v.depth ≤ depth + 1)
    (hnumber : ∀ n, v ≠ .number n) :
    NeedsAll fuel (value fuel (depth + 1)) (ofValue v) := by
  cases v with
  | array items =>
    have hitem : ∀ w ∈ items, w.Whole ∧ w.Canonical ∧ w.depth ≤ depth := fun w hw ↦
      ⟨Value.wholeItems_iff.mp hwhole w hw, Value.canonicalItems_iff.mp hcanonical w hw,
        Nat.le_trans (Value.depth_le_depthItems hw) (Nat.le_of_succ_le_succ hdepth)⟩
    exact needsAll_list
      (fun w hw ↦ reads_value (hitem w hw).1 (hitem w hw).2.1 (hitem w hw).2.2)
      (fun w hw ↦ hout w (hitem w hw).1 (hitem w hw).2.1 (hitem w hw).2.2)
      fun w hw ↦ starts_ofValue (hitem w hw).1
  | object members =>
    have hitem : ∀ m ∈ members, m.2.Whole ∧ m.2.Canonical ∧ m.2.depth ≤ depth := fun m hm ↦
      ⟨Value.wholeMembers_iff.mp hwhole m hm, Value.canonicalMembers_iff.mp hcanonical.2 m hm,
        Nat.le_trans (Value.depth_le_depthMembers hm) (Nat.le_of_succ_le_succ hdepth)⟩
    exact needsAll_object
      (fun m hm ↦ reads_value (hitem m hm).1 (hitem m hm).2.1 (hitem m hm).2.2)
      fun m hm ↦ hout m.2 (hitem m hm).1 (hitem m hm).2.1 (hitem m hm).2.2
  | null | bool | number | string => exact needsAll_scalar rfl hnumber _

/-- A part of a value runs out, be it a part of digits or not. -/
theorem runsOut_value {v : Value} (hwhole : v.Whole) (hcanonical : v.Canonical) {depth : Nat}
    (hdepth : v.depth ≤ depth) : RunsOut fuel (value fuel depth) (ofValue v) := by
  induction depth generalizing v with
  | zero => exact runsOut_scalar hwhole (Nat.le_zero.mp hdepth) none
  | succ depth ih =>
    have hneeds := needsAll_succ (fun w hw hc hd ↦ ih hw hc hd) hwhole hcanonical hdepth
    cases v with
    | array items =>
      refine (hneeds fun _ ↦ nofun).runsOut (x := .array items) fun hfuel ↦ ?_
      have hread := valueWith_list_append
        (fun w hw ↦ reads_value (Value.wholeItems_iff.mp hwhole w hw)
          (Value.canonicalItems_iff.mp hcanonical w hw)
          (Nat.le_trans (Value.depth_le_depthItems hw) (Nat.le_of_succ_le_succ hdepth))
          (Nat.le_trans (length_item_le hw) hfuel))
        (fun w hw ↦ starts_ofValue (Value.wholeItems_iff.mp hwhole w hw)) hfuel []
      rwa [List.append_nil] at hread
    | object members =>
      refine (hneeds fun _ ↦ nofun).runsOut (x := .object members) fun hfuel ↦ ?_
      have hread := valueWith_object_append hcanonical.1
        (fun m hm ↦ reads_value (Value.wholeMembers_iff.mp hwhole m hm)
          (Value.canonicalMembers_iff.mp hcanonical.2 m hm)
          (Nat.le_trans (Value.depth_le_depthMembers hm) (Nat.le_of_succ_le_succ hdepth))
          (Nat.le_trans (length_member_le hm) hfuel)) hfuel []
      rwa [List.append_nil] at hread
    | null | bool | number | string => exact runsOut_scalar hwhole rfl _

/-- **A value that is no number is not read before its last octet.** -/
theorem needsAll_value {v : Value} (hwhole : v.Whole) (hcanonical : v.Canonical) {depth : Nat}
    (hdepth : v.depth ≤ depth) (hnumber : ∀ n, v ≠ .number n) :
    NeedsAll fuel (value fuel depth) (ofValue v) := by
  cases depth with
  | zero => exact needsAll_scalar (Nat.le_zero.mp hdepth) hnumber none
  | succ depth =>
    exact needsAll_succ (fun _ hw hc hd ↦ runsOut_value hw hc hd) hwhole hcanonical hdepth hnumber

/-! ## Maps and errors -/

theorem runsOut_textDocument (s : String) : RunsOut fuel (textDocument fuel) (ofText s) := by
  refine (needsAll_textDocument fuel s).runsOut (x := s) fun hfuel ↦ ?_
  have hread := quotedText_ofText s hfuel []
  rwa [List.append_nil] at hread

theorem needsAll_textMapDocument (entries : List (String × String)) :
    NeedsAll fuel (textMapDocument fuel) (ofEntries entries) := by
  intro cut hcut hne hfuel
  rw [ofEntries] at hcut hne
  rcases enclose_cut hcut hne with rfl | ⟨more, rfl, hmore⟩
  · rfl
  have hstep : ∀ e ∈ entries, ∀ known, (ofText e.2).length + 1 ≤ fuel →
      Reads (addTextEntry fuel e.1 known) (0x3a :: ofText e.2) (known.insert e.1 e.2) :=
    fun e _ known hlength ↦
      reads_behind_colon (reads_textDocument e.2 (Nat.le_of_succ_le hlength)) (known.insert e.1)
  have hout : ∀ e ∈ entries, ∀ known,
      RunsOut fuel (addTextEntry fuel e.1 known) (0x3a :: ofText e.2) :=
    fun e _ known ↦ (runsOut_textDocument e.2).behind_colon (known.insert e.1)
  exact members_cut hstep hout hmore (Nat.le_of_succ_le hfuel) fuel .empty

theorem needsAll_remoteErrorDocument (e : RemoteError) :
    NeedsAll fuel (remoteErrorDocument fuel) (ofError e) := by
  intro cut hcut hne hfuel
  rcases enclose_cut hcut hne with rfl | ⟨more, rfl, hmore⟩
  · rfl
  have hkind : RunsOut fuel (addErrorField fuel "kind" .none) (0x3a :: ofText e.kind) :=
    (runsOut_textDocument e.kind).behind_colon fun s ↦ ErrorFields.mk (some s) none
  have hmessage : RunsOut fuel (addErrorField fuel "message" ⟨some e.kind, none⟩)
      (0x3a :: ofText e.message) :=
    (runsOut_textDocument e.message).behind_colon fun s ↦ ErrorFields.mk (some e.kind) (some s)
  have hfields : members fuel (addErrorField fuel) fuel true .none more = .error .endOfInput := by
    rcases members_cut_cons
      (fun hlength ↦ reads_addErrorField_kind (Nat.le_of_succ_le hlength)) hkind hmore
      (Nat.le_of_succ_le hfuel) fuel with h | ⟨more, rounds, hmore, hlength, h⟩
    · exact h
    rw [h]
    rcases members_cut_cons
      (fun hlength ↦ reads_addErrorField_message e.kind (Nat.le_of_succ_le hlength)) hmessage hmore
      hlength rounds with h | ⟨more, rounds, hmore, -, h⟩
    · exact h
    rw [h, List.prefix_nil.mp hmore]
    exact members_of_nil rounds false _
  change (members fuel (addErrorField fuel) fuel true .none more >>= _) = _
  rw [hfields]
  rfl

/-! ## Documents in a body -/

/-- **The end of a body that was cut off is the end of the stream**, and the reader stays before the
document that is not all there. -/
theorem runOn_read_cut {p : Nat → Parser α} (hstart : Starts text)
    (hneeds : ∀ fuel, NeedsAll fuel (p fuel) text) (hcut : cut <+: text) (hne : cut ≠ text)
    {body : Bytes} (hbody : body = cut ∨ body = 0x0a :: cut) :
    (read p).runOn body = (.error .endOfStream, body) := by
  rw [runOn_read]
  rcases eq_or_ne cut [] with rfl | hnil
  · have hexhausted : isExhausted body = true := by
      rcases hbody with rfl | rfl
      · rfl
      · rfl
    rw [if_pos hexhausted]
  obtain ⟨b, more, heq, hblank, -⟩ := hstart
  obtain ⟨c, rest, rfl⟩ := List.exists_cons_of_ne_nil hnil
  obtain rfl : c = b := (List.cons_prefix_cons.mp (heq ▸ hcut)).1
  have hskip : skipSpace body = c :: rest := by
    have hspace := skipSpace_cons (isSpace_of_not_blank hblank) rest
    rcases hbody with rfl | rfl
    · exact hspace
    · exact hspace
  have hlength : (c :: rest).length ≤ body.length + 1 := by
    rcases hbody with rfl | rfl
    · omega
    · exact Nat.le_add_right_of_le (Nat.le_succ _)
  have hnext : nextDocument (p (body.length + 1)) body = .error .endOfInput := by
    rw [nextDocument, hskip]
    dsimp only
    rw [hneeds _ _ hcut hne hlength]
  -- Whether or not more than blanks are left, the input ends.
  have hends : (if isExhausted body then .error .endOfStream
      else (Except.error Fault.endOfInput).mapError (Fault.toError body)) =
        (.error .endOfStream : Except SerializationError (α × Bytes)) := ite_self _
  rewrite [hnext, hends]
  rfl

end Json

end RpcTransport
