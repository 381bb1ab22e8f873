import RpcTransport.Proofs.Json.Numbers
import RpcTransport.Proofs.Json.Text
import RpcTransport.Proofs.Serialization.Contents
import RpcTransport.Text.Blank

/-!
# JSON values are read as they were written

What was written is read in the presence of whatever may follow a document (`Reads`): a comma, a
closing bracket or the line feed that ends every document of a body. Lists and objects are rows of
items between two brackets, and one round of a loop reads one item of the row with the comma before
it, so that nested values are an induction on the depth that the reader admits (`reads_value`).

The fuel of a reader need not exceed the length of what it reads.
-/

namespace RpcTransport.Json

variable {α β γ : Type}

/-- A reader takes a text for `x`, and nothing of what follows it. -/
def Reads (p : Parser α) (text : Bytes) (x : α) : Prop :=
  ∀ b rest, endsDocument b = true → p (text ++ b :: rest) = .ok (x, b :: rest)

/-- A text has something in front that is neither blank nor the end of a list. -/
def Starts (text : Bytes) : Prop :=
  ∃ b more, text = b :: more ∧ isBlankOctet b = false ∧ b ≠ 0x5d

theorem isSpace_of_not_blank {b : UInt8} (h : isBlankOctet b = false) : isSpace b = false := by
  simp only [isBlankOctet, Bool.or_eq_false_iff] at h
  obtain ⟨⟨⟨⟨h20, h09⟩, h0a⟩, -⟩, h0d⟩ := h
  rw [isSpace, h20, h09, h0a, h0d]
  rfl

theorem Starts.skipSpace {text : Bytes} (h : Starts text) (rest : Bytes) :
    skipSpace (text ++ rest) = text ++ rest := by
  obtain ⟨b, more, rfl, hblank, -⟩ := h
  exact skipSpace_cons (isSpace_of_not_blank hblank) _

/-! ## Rows -/

/-- Pieces as they stand after an opening bracket, or after another piece. -/
def row : (first : Bool) → List Bytes → Bytes
  | _, [] => []
  | true, piece :: pieces => piece ++ row false pieces
  | false, piece :: pieces => 0x2c :: (piece ++ row false pieces)

theorem row_cons (first : Bool) (piece : Bytes) (pieces : List Bytes) :
    row first (piece :: pieces) =
      (if first then [] else [0x2c]) ++ (piece ++ row false pieces) := by
  cases first with
  | true => rfl
  | false => rfl

theorem enclose_eq_row (opening closing : UInt8) (pieces : List Bytes) :
    enclose opening closing pieces = opening :: (row true pieces ++ [closing]) := by
  have hrow : List.intercalate [0x2c] pieces = row true pieces := by
    cases pieces with
    | nil => rfl
    | cons piece pieces =>
      rw [row]
      induction pieces generalizing piece with
      | nil => rw [List.intercalate_singleton, row, List.append_nil]
      | cons next pieces ih =>
        rw [List.intercalate_cons_cons, ih, row, List.append_assoc]
        rfl
  rw [enclose, hrow]

theorem length_le_length_row (first : Bool) {pieces : List Bytes} {piece : Bytes}
    (h : piece ∈ pieces) : piece.length ≤ (row first pieces).length := by
  induction pieces generalizing first with
  | nil => exact nomatch h
  | cons head pieces ih =>
    rw [row_cons, List.length_append, List.length_append]
    rcases List.mem_cons.mp h with rfl | h
    · omega
    · have hle := ih false h
      omega

/-- There is a comma between any two pieces. -/
theorem length_le_succ_length_row (first : Bool) (pieces : List Bytes) :
    pieces.length ≤ (row first pieces).length + 1 := by
  have hcommas (pieces : List Bytes) : pieces.length ≤ (row false pieces).length := by
    induction pieces with
    | nil => exact Nat.le_refl _
    | cons piece pieces ih =>
      rw [row, List.length_cons, List.length_cons, List.length_append]
      omega
  cases pieces with
  | nil => exact Nat.zero_le _
  | cons piece pieces =>
    have hle := hcommas pieces
    rw [row_cons, List.length_cons, List.length_append, List.length_append]
    omega

theorem enclose_append (opening closing : UInt8) (pieces : List Bytes) (rest : Bytes) :
    enclose opening closing pieces ++ rest = opening :: (row true pieces ++ closing :: rest) := by
  rw [enclose_eq_row, List.cons_append, List.append_assoc]
  rfl

theorem length_enclose (opening closing : UInt8) (pieces : List Bytes) :
    (enclose opening closing pieces).length = (row true pieces).length + 2 := by
  rw [enclose_eq_row, List.length_cons, List.length_append, List.length_singleton]

/-- There are more octets than pieces between the brackets. -/
theorem length_lt_length_enclose (opening closing : UInt8) (pieces : List Bytes) :
    pieces.length < (enclose opening closing pieces).length := by
  have hcount := length_le_succ_length_row true pieces
  rw [length_enclose]
  omega

theorem length_le_length_enclose (opening closing : UInt8) {pieces : List Bytes} {piece : Bytes}
    (h : piece ∈ pieces) : piece.length ≤ (enclose opening closing pieces).length := by
  have hrow := length_le_length_row true h
  rw [length_enclose]
  omega

/-- An object is longer than its members are many, and no member is longer than it. -/
theorem length_object_le (keyOf : β → String) (textOf : β → Bytes) {entries : List β} {fuel : Nat}
    (h : (enclose 0x7b 0x7d (entries.map fun e ↦ member (keyOf e) (textOf e))).length ≤ fuel) :
    entries.length < fuel ∧
      ∀ e ∈ entries, (ofText (keyOf e)).length + ((textOf e).length + 1) ≤ fuel := by
  have hcount := length_lt_length_enclose 0x7b 0x7d
    (entries.map fun e ↦ member (keyOf e) (textOf e))
  rw [List.length_map] at hcount
  refine ⟨Nat.lt_of_lt_of_le hcount h, fun e he ↦ ?_⟩
  have hmember : (member (keyOf e) (textOf e)).length =
      (ofText (keyOf e)).length + ((textOf e).length + 1) := by
    rw [member, List.length_append, List.length_cons]
  rw [← hmember]
  exact Nat.le_trans (length_le_length_enclose 0x7b 0x7d
    (List.mem_map_of_mem (f := fun e ↦ member (keyOf e) (textOf e)) he)) h

/-- Behind a piece comes an octet that may follow a document. -/
theorem row_false_append (pieces : List Bytes) (closing : UInt8)
    (h : endsDocument closing = true) (rest : Bytes) :
    ∃ b more, row false pieces ++ closing :: rest = b :: more ∧ endsDocument b = true := by
  cases pieces with
  | nil => exact ⟨closing, rest, rfl, h⟩
  | cons piece pieces => exact ⟨0x2c, _, rfl, rfl⟩

theorem nextElement_row {piece : Bytes} (h : Starts piece) (first : Bool) (rest : Bytes) :
    nextElement first ((if first then [] else [0x2c]) ++ (piece ++ rest)) =
      .ok (.item (piece ++ rest)) := by
  obtain ⟨b, more, rfl, hblank, hclosing⟩ := h
  have hspace := skipSpace_cons (isSpace_of_not_blank hblank) (more ++ rest)
  cases first with
  | true =>
    change nextElement true (b :: (more ++ rest)) = _
    rw [nextElement, hspace]
    dsimp only
    rw [if_neg hclosing]
    rfl
  | false =>
    change nextElement false (0x2c :: b :: (more ++ rest)) = _
    rw [nextElement, skipSpace_cons rfl]
    dsimp only
    rw [if_neg (by decide), if_neg (by decide), if_pos rfl, hspace]
    dsimp only
    rw [if_neg hclosing]
    rfl

/-- **The loop over a list reads its items.** -/
theorem elements_row {item : Parser α} {text : α → Bytes} {xs : List α}
    (hitem : ∀ x ∈ xs, Reads item (text x) x) (hstart : ∀ x ∈ xs, Starts (text x)) {fuel : Nat}
    (hfuel : xs.length < fuel) (first : Bool) (done : List α) (rest : Bytes) :
    elements item fuel first done (row first (xs.map text) ++ 0x5d :: rest) =
      .ok (done.reverse ++ xs, rest) := by
  obtain ⟨fuel, rfl⟩ := Nat.exists_eq_succ_of_ne_zero (Nat.ne_zero_of_lt hfuel)
  induction xs generalizing fuel first done with
  | nil =>
    rw [List.append_nil]
    rfl
  | cons x xs ih =>
    obtain ⟨fuel, rfl⟩ :=
      Nat.exists_eq_succ_of_ne_zero (Nat.ne_zero_of_lt (Nat.lt_of_succ_lt_succ hfuel))
    obtain ⟨b, more, heq, hb⟩ := row_false_append (xs.map text) 0x5d rfl rest
    have hread := hitem x List.mem_cons_self b more hb
    rw [← heq] at hread
    rw [List.map_cons, row_cons, List.append_assoc, List.append_assoc, elements,
      nextElement_row (hstart x List.mem_cons_self)]
    dsimp only
    rw [hread]
    dsimp only
    rw [ih (fun y hy ↦ hitem y (List.mem_cons_of_mem x hy))
      (fun y hy ↦ hstart y (List.mem_cons_of_mem x hy)) _ _ fuel (Nat.lt_of_succ_lt_succ hfuel),
      List.reverse_cons, List.append_assoc]
    rfl

theorem nextMember_row (key : String) (rest : Bytes) (first : Bool) :
    nextMember first ((if first then [] else [0x2c]) ++ (ofText key ++ rest)) =
      .ok (.item ((ofText key).tail ++ rest)) := by
  cases first with
  | true => rfl
  | false => rfl

section Members

variable {step : String → γ → Parser γ} {known known' : γ} {key : String} {text : Bytes}
  {textFuel : Nat}

theorem members_nil (fuel : Nat) (first : Bool) (rest : Bytes) :
    members textFuel step (fuel + 1) first known (0x7d :: rest) = .ok (known, rest) := rfl

/-- One round of the loop over an object. -/
theorem members_cons (hkey : (ofText key).length ≤ textFuel)
    (hstep : Reads (step key known) (0x3a :: text) known') (fuel : Nat) (first : Bool)
    (pieces : List Bytes) (rest : Bytes) :
    members textFuel step (fuel + 1) first known
        (row first (member key text :: pieces) ++ 0x7d :: rest) =
      members textFuel step fuel false known' (row false pieces ++ 0x7d :: rest) := by
  obtain ⟨b, more, heq, hb⟩ := row_false_append pieces 0x7d rfl rest
  have hread := hstep b more hb
  rw [← heq] at hread
  rw [row_cons, List.append_assoc, List.append_assoc, member, List.append_assoc, members,
    nextMember_row]
  dsimp only
  rw [quotedText_ofText key hkey]
  dsimp only
  rw [hread]

/-- **The loop over an object reads its members**, if one round adds one member. -/
theorem members_row {add : γ → β → γ} {keyOf : β → String} {textOf : β → Bytes} {entries : List β}
    (hkey : ∀ e ∈ entries, (ofText (keyOf e)).length ≤ textFuel)
    (hstep : ∀ e ∈ entries, ∀ known, Reads (step (keyOf e) known) (0x3a :: textOf e) (add known e))
    {fuel : Nat} (hfuel : entries.length < fuel) (first : Bool) (known : γ) (rest : Bytes) :
    members textFuel step fuel first known
        (row first (entries.map fun e ↦ member (keyOf e) (textOf e)) ++ 0x7d :: rest) =
      .ok (entries.foldl add known, rest) := by
  obtain ⟨fuel, rfl⟩ := Nat.exists_eq_succ_of_ne_zero (Nat.ne_zero_of_lt hfuel)
  induction entries generalizing fuel first known with
  | nil => exact members_nil fuel first rest
  | cons e entries ih =>
    obtain ⟨fuel, rfl⟩ :=
      Nat.exists_eq_succ_of_ne_zero (Nat.ne_zero_of_lt (Nat.lt_of_succ_lt_succ hfuel))
    rw [List.map_cons, members_cons (hkey e List.mem_cons_self) (hstep e List.mem_cons_self known)]
    exact ih (fun d hd ↦ hkey d (List.mem_cons_of_mem e hd))
      (fun d hd ↦ hstep d (List.mem_cons_of_mem e hd)) _ _ fuel (Nat.lt_of_succ_lt_succ hfuel)

end Members

/-! ## Values -/

theorem starts_ofText (s : String) : Starts (ofText s) :=
  ⟨0x22, _, rfl, rfl, by decide⟩

theorem starts_ofInteger (z : Int) : Starts (ofInteger z) := by
  cases z with
  | ofNat n =>
    obtain ⟨b, digits, heq, hb⟩ := exists_isDigit_toDigits n
    refine ⟨b, digits, heq, ?_, ?_⟩
    · by_contra hblank
      simp only [isBlankOctet, Bool.not_eq_false, Bool.or_eq_true, beq_iff_eq] at hblank
      obtain (((rfl | rfl) | rfl) | rfl) | rfl := hblank
      all_goals exact absurd hb (by decide)
    · rintro rfl
      exact absurd hb (by decide)
  | negSucc n => exact ⟨0x2d, _, rfl, rfl, by decide⟩

theorem starts_ofValue {v : Value} (h : v.Whole) : Starts (ofValue v) := by
  cases v with
  | null => exact ⟨0x6e, _, rfl, rfl, by decide⟩
  | bool b =>
    cases b with
    | true => exact ⟨0x74, _, rfl, rfl, by decide⟩
    | false => exact ⟨0x66, _, rfl, rfl, by decide⟩
  | number n =>
    cases n with
    | whole z => exact starts_ofInteger z
    | float => exact absurd h id
  | string s => exact starts_ofText s
  | array items => exact ⟨0x5b, _, rfl, rfl, by decide⟩
  | object members => exact ⟨0x7b, _, rfl, rfl, by decide⟩

/-- A value without items is read whatever the reader of items is. -/
theorem reads_scalar {v : Value} (hwhole : v.Whole) (hdepth : v.depth = 0) {fuel : Nat}
    (hfuel : (ofValue v).length ≤ fuel) (nested : Option (Parser Value)) :
    Reads (valueWith fuel nested) (ofValue v) v := by
  intro b rest hb
  cases v with
  | null => rfl
  | bool b =>
    cases b with
    | true => rfl
    | false => rfl
  | number n =>
    cases n with
    | whole z lower upper => exact valueWith_ofInteger lower upper hb fuel nested rest
    | float => exact absurd hwhole id
  | string s =>
    change (quotedText fuel ((ofText s).tail ++ b :: rest)).map _ = _
    rw [quotedText_ofText s hfuel]
    rfl
  | array items => exact absurd hdepth (Nat.succ_ne_zero _)
  | object members => exact absurd hdepth (Nat.succ_ne_zero _)

theorem valueWith_list (fuel : Nat) (item : Parser Value) (bs : Bytes) :
    valueWith fuel (some item) (0x5b :: bs) =
      (elements item fuel true [] bs).map fun (vs, rest) ↦ (.array vs, rest) := rfl

theorem valueWith_object (fuel : Nat) (item : Parser Value) (bs : Bytes) :
    valueWith fuel (some item) (0x7b :: bs) =
      (members fuel (addMember item) fuel true [] bs).map fun (ms, rest) ↦ (.object ms, rest) := rfl

/-- What a member has is read behind the colon. -/
theorem reads_behind_colon {p : Parser α} {text : Bytes} {x : α} (h : Reads p text x)
    (f : α → β) :
    Reads (fun bs ↦ do
      let (y, rest) ← p (← colon bs)
      return (f y, rest)) (0x3a :: text) (f x) := by
  intro b rest hb
  change (p (text ++ b :: rest) >>= fun q ↦ pure (f q.1, q.2)) = _
  rw [h b rest hb]
  rfl

theorem ofValue_array (items : List Value) :
    ofValue (.array items) = enclose 0x5b 0x5d (items.map ofValue) := by
  rw [ofValue, itemPieces_eq, List.reverse_nil, List.nil_append]

theorem ofValue_object (ms : List (String × Value)) :
    ofValue (.object ms) = enclose 0x7b 0x7d (ms.map fun m ↦ member m.1 (ofValue m.2)) := by
  rw [ofValue, memberPieces_eq, List.reverse_nil, List.nil_append]

/-- A list is read through its closing bracket, whatever follows. -/
theorem valueWith_list_append {fuel : Nat} {item : Parser Value} {items : List Value}
    (hitem : ∀ v ∈ items, Reads item (ofValue v) v) (hstart : ∀ v ∈ items, Starts (ofValue v))
    (hfuel : (ofValue (.array items)).length ≤ fuel) (rest : Bytes) :
    valueWith fuel (some item) (ofValue (.array items) ++ rest) = .ok (.array items, rest) := by
  rw [ofValue_array] at hfuel ⊢
  have hcount := length_lt_length_enclose 0x5b 0x5d (items.map ofValue)
  rw [List.length_map] at hcount
  rw [enclose_append, valueWith_list,
    elements_row hitem hstart (Nat.lt_of_lt_of_le hcount hfuel)]
  rfl

/-- An object is read through its closing bracket, whatever follows. -/
theorem valueWith_object_append {fuel : Nat} {item : Parser Value} {ms : List (String × Value)}
    (hsorted : SortedKeys ms) (hitem : ∀ m ∈ ms, Reads item (ofValue m.2) m.2)
    (hfuel : (ofValue (.object ms)).length ≤ fuel) (rest : Bytes) :
    valueWith fuel (some item) (ofValue (.object ms) ++ rest) = .ok (.object ms, rest) := by
  rw [ofValue_object] at hfuel ⊢
  obtain ⟨hcount, hlength⟩ := length_object_le Prod.fst (fun m ↦ ofValue m.2) hfuel
  have hkey : ∀ m ∈ ms, (ofText m.1).length ≤ fuel :=
    fun m hm ↦ Nat.le_trans (Nat.le_add_right _ _) (hlength m hm)
  have hstep : ∀ m ∈ ms, ∀ known, Reads (addMember item m.1 known) (0x3a :: ofValue m.2)
      (insertEntry m.1 m.2 known) :=
    fun m hm known ↦ reads_behind_colon (hitem m hm) (insertEntry m.1 · known)
  rw [enclose_append, valueWith_object, members_row hkey hstep hcount]
  change Except.ok (Value.object (insertAll ms []), rest) = _
  rw [insertAll_of_perm hsorted (.refl _)]

theorem length_item_le {items : List Value} {v : Value} (h : v ∈ items) :
    (ofValue v).length ≤ (ofValue (.array items)).length := by
  rw [ofValue_array]
  exact length_le_length_enclose 0x5b 0x5d (List.mem_map_of_mem (f := ofValue) h)

theorem length_member_le {ms : List (String × Value)} {m : String × Value} (h : m ∈ ms) :
    (ofValue m.2).length ≤ (ofValue (.object ms)).length := by
  have hmember := length_le_length_enclose 0x7b 0x7d
    (List.mem_map_of_mem (f := fun m : String × Value ↦ member m.1 (ofValue m.2)) h)
  rw [member, List.length_append, List.length_cons] at hmember
  rw [ofValue_object]
  omega

/-- **A value is read as it was written**, if its numbers are whole and the reader admits its
depth. -/
theorem reads_value {v : Value} (hwhole : v.Whole) (hcanonical : v.Canonical) {depth fuel : Nat}
    (hdepth : v.depth ≤ depth) (hfuel : (ofValue v).length ≤ fuel) :
    Reads (value fuel depth) (ofValue v) v := by
  induction depth generalizing v with
  | zero => exact reads_scalar hwhole (Nat.le_zero.mp hdepth) hfuel none
  | succ depth ih =>
    -- Only the depth decreases: an item is not longer than its container, so the fuel may stay.
    cases v with
    | array items =>
      have hitem : ∀ w ∈ items, Reads (value fuel depth) (ofValue w) w := fun w hw ↦
        ih (Value.wholeItems_iff.mp hwhole w hw) (Value.canonicalItems_iff.mp hcanonical w hw)
          (Nat.le_trans (Value.depth_le_depthItems hw) (Nat.le_of_succ_le_succ hdepth))
          (Nat.le_trans (length_item_le hw) hfuel)
      have hstart : ∀ w ∈ items, Starts (ofValue w) :=
        fun w hw ↦ starts_ofValue (Value.wholeItems_iff.mp hwhole w hw)
      exact fun b rest _ ↦ valueWith_list_append hitem hstart hfuel (b :: rest)
    | object members =>
      have hitem : ∀ m ∈ members, Reads (value fuel depth) (ofValue m.2) m.2 := fun m hm ↦
        ih (Value.wholeMembers_iff.mp hwhole m hm)
          (Value.canonicalMembers_iff.mp hcanonical.2 m hm)
          (Nat.le_trans (Value.depth_le_depthMembers hm) (Nat.le_of_succ_le_succ hdepth))
          (Nat.le_trans (length_member_le hm) hfuel)
      exact fun b rest _ ↦ valueWith_object_append hcanonical.1 hitem hfuel (b :: rest)
    | null => exact reads_scalar hwhole rfl hfuel _
    | bool => exact reads_scalar hwhole rfl hfuel _
    | number => exact reads_scalar hwhole rfl hfuel _
    | string => exact reads_scalar hwhole rfl hfuel _

end RpcTransport.Json
