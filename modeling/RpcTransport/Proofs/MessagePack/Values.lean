import RpcTransport.Proofs.MessagePack.Heads
import RpcTransport.Proofs.Serialization.Contents

/-!
# MessagePack values are read as they were written

There is nothing between two values, and every value says where it ends: what was written is read in
the presence of anything (`Reads`). A size is told by four octets at most, so texts and containers
must not be larger (`Value.Sized`); whatever fits a frame is not. Arrays and maps are as many items
as they say, and nested values are an induction on the depth that the reader admits (`reads_value`).
-/

namespace RpcTransport

namespace Value

mutual

/-- Every text and every container inside has a size that four octets can tell. -/
def Sized : Value → Prop
  | .string s => (utf8 s).length < 2 ^ 32
  | .array items => items.length < 2 ^ 32 ∧ SizedItems items
  | .object members => members.length < 2 ^ 32 ∧ SizedMembers members
  | _ => True

def SizedItems : List Value → Prop
  | [] => True
  | v :: vs => v.Sized ∧ SizedItems vs

def SizedMembers : List (String × Value) → Prop
  | [] => True
  | (k, v) :: vs => (utf8 k).length < 2 ^ 32 ∧ v.Sized ∧ SizedMembers vs

end

theorem sizedItems_iff {items : List Value} : SizedItems items ↔ ∀ v ∈ items, v.Sized := by
  induction items with
  | nil => simp [SizedItems]
  | cons v items ih => simp [SizedItems, ih]

theorem sizedMembers_iff {members : List (String × Value)} :
    SizedMembers members ↔ ∀ m ∈ members, (utf8 m.1).length < 2 ^ 32 ∧ m.2.Sized := by
  induction members with
  | nil => simp [SizedMembers]
  | cons m members ih => simp [SizedMembers, ih, and_assoc]

end Value

namespace MessagePack

variable {α β γ : Type}

/-- A reader takes some octets for `x`, and nothing of what follows them. -/
def Reads (p : Parser α) (octets : Bytes) (x : α) : Prop :=
  ∀ rest, p (octets ++ rest) = .ok (x, rest)

/-! ## Loops -/

/-- **The loop over an array reads its items.** -/
theorem elements_flatMap {item : Parser α} {octets : α → Bytes} {xs : List α}
    (hitem : ∀ x ∈ xs, Reads item (octets x) x) (done : List α) (rest : Bytes) :
    elements item xs.length done (xs.flatMap octets ++ rest) = .ok (done.reverse ++ xs, rest) := by
  induction xs generalizing done with
  | nil =>
    rw [List.append_nil]
    rfl
  | cons x xs ih =>
    rw [List.length_cons, List.flatMap_cons, List.append_assoc, elements,
      hitem x List.mem_cons_self]
    dsimp only
    rw [ih fun y hy ↦ hitem y (List.mem_cons_of_mem x hy), List.reverse_cons, List.append_assoc]
    rfl

/-- **The loop over a map reads its members**, if one round adds one member. -/
theorem members_flatMap {step : γ → Parser γ} {add : γ → β → γ} {octets : β → Bytes}
    {entries : List β}
    (hstep : ∀ e ∈ entries, ∀ known, Reads (step known) (octets e) (add known e))
    (known : γ) (rest : Bytes) :
    members step entries.length known (entries.flatMap octets ++ rest) =
      .ok (entries.foldl add known, rest) := by
  induction entries generalizing known with
  | nil => rfl
  | cons e entries ih =>
    rw [List.length_cons, List.flatMap_cons, List.append_assoc, members,
      hstep e List.mem_cons_self known]
    exact ih (fun d hd ↦ hstep d (List.mem_cons_of_mem e hd)) (add known e)

/-! ## Texts -/

theorem reads_textOf (s : String) : Reads (textOf (utf8 s).length) (utf8 s) s := by
  intro rest
  rw [textOf, take_append]
  dsimp only
  rw [ofUtf8?_utf8]

/-- **A text is read as it was written**, whether octets would do as well or not. -/
theorem reads_stringAs {s : String} (h : (utf8 s).length < 2 ^ 32) (depth : Nat)
    (octetsToo : Bool) (wanted : String) :
    Reads (stringAs depth octetsToo wanted) (ofText s) s := by
  intro rest
  rw [ofText, List.append_assoc, stringAs, head_textHead h]
  exact reads_textOf s rest

/-! ## Values -/

/-- A value without items is read at every depth. -/
theorem reads_scalar {v : Value} (hsized : v.Sized) (hdepth : v.depth = 0) (depth : Nat)
    (nested : Parser Value) : Reads (valueWith depth nested) (ofValue v) v := by
  intro rest
  cases v with
  | null =>
    have hhead : head (0xc0 :: rest) = .ok (.null, rest) := by rfl
    change valueWith depth nested (0xc0 :: rest) = _
    rw [valueWith, hhead]
  | bool b =>
    cases b with
    | true =>
      have hhead : head (0xc3 :: rest) = .ok (.bool true, rest) := by rfl
      change valueWith depth nested (0xc3 :: rest) = _
      rw [valueWith, hhead]
    | false =>
      have hhead : head (0xc2 :: rest) = .ok (.bool false, rest) := by rfl
      change valueWith depth nested (0xc2 :: rest) = _
      rw [valueWith, hhead]
  | number n =>
    cases n with
    | whole z lower upper =>
      change valueWith depth nested (ofInteger z ++ rest) = _
      have hwhole := Head.whole?_ofInteger lower upper
      rw [valueWith, head_ofInteger lower upper]
      cases z with
      | ofNat n =>
        have hn : (UInt64.ofNat n).toNat = n := Int.ofNat.inj (Option.some.inj hwhole)
        simp only [Head.ofInteger, Number.ofUInt64, hn]
        rfl
      | negSucc n =>
        have hn : (Int64.ofInt (.negSucc n)).toInt = .negSucc n := Option.some.inj hwhole
        simp only [Head.ofInteger, Number.ofInt64, hn]
    | float x finite =>
      change valueWith depth nested (ofFloat x ++ rest) = _
      rw [valueWith, head_ofFloat]
      dsimp only
      rw [Value.ofFloat, Number.ofFloat?, dif_pos finite]
  | string s =>
    rw [ofValue, ofText, List.append_assoc, valueWith, head_textHead hsized]
    dsimp only
    rw [reads_textOf]
    rfl
  | array items => exact absurd hdepth (Nat.succ_ne_zero _)
  | object members => exact absurd hdepth (Nat.succ_ne_zero _)

theorem reads_addMember {item : Parser Value} {key : String} {v : Value}
    (hkey : (utf8 key).length < 2 ^ 32) (h : Reads item (ofValue v) v) (depth : Nat)
    (first : Bool) (known : List (String × Value)) :
    Reads (addMember depth item first known) (ofText key ++ ofValue v)
      (insertEntry key v known) := by
  intro rest
  have hmember : memberKey depth first (ofText key ++ (ofValue v ++ rest)) =
      .ok (key, ofValue v ++ rest) := by
    rw [memberKey]
    split
    · exact reads_stringAs hkey depth false _ _
    · exact reads_stringAs hkey depth true _ _
  change (memberKey depth first (ofText key ++ ofValue v ++ rest) >>= fun p ↦
    item p.2 >>= fun q ↦ pure (insertEntry p.1 q.1 known, q.2)) = _
  rw [List.append_assoc, hmember]
  change (item (ofValue v ++ rest) >>= fun q ↦ pure (insertEntry key q.1 known, q.2)) = _
  rw [h rest]
  rfl

/-- The first member is read apart from the others. -/
theorem objectMembers_flatMap {item : Parser Value} {entries : List (String × Value)}
    (hkey : ∀ e ∈ entries, (utf8 e.1).length < 2 ^ 32)
    (hitem : ∀ e ∈ entries, Reads item (ofValue e.2) e.2) (depth : Nat) (rest : Bytes) :
    objectMembers depth item entries.length
        (entries.flatMap (fun e ↦ ofText e.1 ++ ofValue e.2) ++ rest) =
      .ok (insertAll entries [], rest) := by
  have hstep (first : Bool) : ∀ e ∈ entries, ∀ known, Reads (addMember depth item first known)
      (ofText e.1 ++ ofValue e.2) (insertEntry e.1 e.2 known) :=
    fun e he ↦ reads_addMember (hkey e he) (hitem e he) depth first
  cases entries with
  | nil => rfl
  | cons e entries =>
    -- The loop starts with the second member.
    rw [List.length_cons, List.flatMap_cons, List.append_assoc, objectMembers,
      hstep true e List.mem_cons_self]
    exact members_flatMap (fun d hd ↦ hstep false d (List.mem_cons_of_mem e hd)) _ rest

/-- **A value is read as it was written**, if the reader admits its depth. -/
theorem reads_value {v : Value} (hsized : v.Sized) (hcanonical : v.Canonical) {depth : Nat}
    (hdepth : v.depth ≤ depth) : Reads (value depth) (ofValue v) v := by
  induction depth generalizing v with
  | zero => exact reads_scalar hsized (Nat.le_zero.mp hdepth) 0 _
  | succ depth ih =>
    cases v with
    | array items =>
      intro rest
      have hitem : ∀ w ∈ items, Reads (value depth) (ofValue w) w := fun w hw ↦
        ih (Value.sizedItems_iff.mp hsized.2 w hw) (Value.canonicalItems_iff.mp hcanonical w hw)
          (Nat.le_trans (Value.depth_le_depthItems hw) (Nat.le_of_succ_le_succ hdepth))
      rw [ofValue, itemPieces_eq, List.reverse_nil, List.nil_append, List.append_assoc, value,
        valueWith, head_arrayHead hsized.1, ← List.flatMap_def]
      dsimp only
      rw [elements_flatMap hitem]
      rfl
    | object members =>
      intro rest
      have hmembers := Value.sizedMembers_iff.mp hsized.2
      have hitem : ∀ m ∈ members, Reads (value depth) (ofValue m.2) m.2 := fun m hm ↦
        ih (hmembers m hm).2 (Value.canonicalMembers_iff.mp hcanonical.2 m hm)
          (Nat.le_trans (Value.depth_le_depthMembers hm) (Nat.le_of_succ_le_succ hdepth))
      rw [ofValue, memberPieces_eq, List.reverse_nil, List.nil_append, List.append_assoc, value,
        valueWith, head_mapHead hsized.1, ← List.flatMap_def]
      dsimp only
      rw [objectMembers_flatMap (fun m hm ↦ (hmembers m hm).1) hitem]
      change Except.ok (Value.object (insertAll members []), rest) = _
      rw [insertAll_of_perm hcanonical.1 (.refl _)]
    | null => exact reads_scalar hsized rfl _ _
    | bool => exact reads_scalar hsized rfl _ _
    | number => exact reads_scalar hsized rfl _ _
    | string => exact reads_scalar hsized rfl _ _

end MessagePack

end RpcTransport
