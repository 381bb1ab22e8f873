import RpcTransport.Proofs.Json.Documents
import RpcTransport.Proofs.Json.Skipping

/-!
# JSON documents of another type are told as such

The reader of a type that is given a whole value of another one finds a mismatch, and neither a
fault in the text nor the end of its input (`Mismatches`). The first octet of a value tells its
class (`first_octet`), so most readers decide there; what they then read is only for the message.

Maps and errors are decided member by member. The loop over an object goes on as long as members
suit, and whatever it has then come to know is kept as an invariant (`members_decided`): of an error
it is that each field found is a text of the object, so an object that lacks a field is a mismatch
at the end if not before.
-/

namespace RpcTransport.Json

variable {α β γ : Type} {fuel : Nat} {p : Parser α} {text : Bytes} {v : Value}

/-- A reader finds that a text is of another type, whatever follows it. -/
def Mismatches (p : Parser α) (text : Bytes) : Prop :=
  ∀ b rest, endsDocument b = true → ∃ detail, p (text ++ b :: rest) = .error (.mismatch detail)

/-! ## Scalars -/

/-- The first octet of a value tells its class. -/
theorem first_octet (hwhole : v.Whole) :
    ∃ c more, ofValue v = c :: more ∧ (c = 0x22 → ∃ s, v = .string s) ∧
      (c = 0x5b → ∃ items, v = .array items) ∧ (c = 0x7b → ∃ ms, v = .object ms) ∧
      (c = 0x2d ∨ isDigit c = true → ∃ n, v = .number n) := by
  cases v with
  | null => exact ⟨0x6e, _, rfl, nofun, nofun, nofun, fun h ↦ absurd h (by decide)⟩
  | bool b =>
    cases b with
    | true => exact ⟨0x74, _, rfl, nofun, nofun, nofun, fun h ↦ absurd h (by decide)⟩
    | false => exact ⟨0x66, _, rfl, nofun, nofun, nofun, fun h ↦ absurd h (by decide)⟩
  | number n =>
    cases n with
    | whole z =>
      cases z with
      | ofNat n =>
        obtain ⟨d, digits, heq, hd⟩ := exists_isDigit_toDigits n
        have hnot (c : UInt8) (hc : isDigit c = false) : d ≠ c := by
          rintro rfl
          exact Bool.noConfusion (hd.symm.trans hc)
        exact ⟨d, digits, heq, fun h ↦ absurd h (hnot _ rfl), fun h ↦ absurd h (hnot _ rfl),
          fun h ↦ absurd h (hnot _ rfl), fun _ ↦ ⟨_, rfl⟩⟩
      | negSucc n => exact ⟨0x2d, _, rfl, nofun, nofun, nofun, fun _ ↦ ⟨_, rfl⟩⟩
    | float => exact absurd hwhole id
  | string s => exact ⟨0x22, _, rfl, fun _ ↦ ⟨s, rfl⟩, nofun, nofun, fun h ↦ absurd h (by decide)⟩
  | array items =>
    exact ⟨0x5b, _, rfl, nofun, fun _ ↦ ⟨items, rfl⟩, nofun, fun h ↦ absurd h (by decide)⟩
  | object ms => exact ⟨0x7b, _, rfl, nofun, nofun, fun _ ↦ ⟨ms, rfl⟩, fun h ↦ absurd h (by decide)⟩

/-- A whole value is refused for its type alone. -/
theorem wrongType_ofValue (hwhole : v.Whole) (hfuel : (ofValue v).length ≤ fuel) {c : UInt8}
    {more : Bytes} (heq : ofValue v = c :: more) (wanted : String) {b : UInt8}
    (hb : endsDocument b = true) (rest : Bytes) :
    ∃ detail, (wrongType fuel wanted c (more ++ b :: rest) : Except Fault α) =
      .error (.mismatch detail) := by
  have hscalar (hdepth : v.depth = 0) :
      ∃ detail, (wrongType fuel wanted c (more ++ b :: rest) : Except Fault α) =
        .error (.mismatch detail) := by
    have hread := reads_scalar hwhole hdepth hfuel none b rest hb
    rw [heq, List.cons_append] at hread
    rw [wrongType]
    split
    · exact ⟨_, rfl⟩
    split
    · exact ⟨_, rfl⟩
    rw [hread]
    cases v with
    | null | bool | number | string | array | object => exact ⟨_, rfl⟩
  cases v with
  | null | bool | number | string => exact hscalar rfl
  | array | object =>
    obtain ⟨rfl, -⟩ := List.cons.inj heq
    exact ⟨_, rfl⟩

/-- **A value that is no whole number within bounds is a mismatch.** -/
theorem mismatches_wholeWithin (hwhole : v.Whole) (hfuel : (ofValue v).length ≤ fuel)
    {lower upper : Int} (hvalue : ∀ n, v.whole? = some n → ¬ (lower ≤ n ∧ n ≤ upper))
    (wanted : String) : Mismatches (wholeWithin fuel wanted lower upper) (ofValue v) := by
  intro b rest hb
  obtain ⟨c, more, heq, -, -, -, hnumber⟩ := first_octet hwhole
  rw [wholeWithin, (starts_ofValue hwhole).skipSpace, heq, List.cons_append]
  dsimp only
  split
  · next hc =>
    obtain ⟨n, rfl⟩ := hnumber hc
    have hread := reads_scalar hwhole rfl hfuel none b rest hb
    rw [heq, List.cons_append] at hread
    rw [hread]
    dsimp only
    cases hw : (Value.number n).whole? with
    | none => exact ⟨_, rfl⟩
    | some n =>
      dsimp only
      rw [if_neg (hvalue n hw)]
      exact ⟨_, rfl⟩
  · exact wrongType_ofValue hwhole hfuel heq wanted hb rest

/-- **A value that is no text is a mismatch.** -/
theorem mismatches_textDocument (hwhole : v.Whole) (hfuel : (ofValue v).length ≤ fuel)
    (htext : v.text? = none) : Mismatches (textDocument fuel) (ofValue v) := by
  intro b rest hb
  obtain ⟨c, more, heq, hquote, -⟩ := first_octet hwhole
  rw [textDocument, (starts_ofValue hwhole).skipSpace, heq, List.cons_append]
  dsimp only
  split
  · next hc =>
    obtain ⟨s, rfl⟩ := hquote hc
    exact nomatch htext
  · exact wrongType_ofValue hwhole hfuel heq "a string" hb rest

/-! ## Members -/

/-- What a member has is refused behind the colon. -/
theorem Mismatches.behind_colon (h : Mismatches p text) (f : α → β) :
    Mismatches (fun bs ↦ do
      let (y, rest) ← p (← colon bs)
      return (f y, rest)) (0x3a :: text) := by
  intro b rest hb
  obtain ⟨detail, hmismatch⟩ := h b rest hb
  refine ⟨detail, ?_⟩
  change (p (text ++ b :: rest) >>= fun q ↦ pure (f q.1, q.2)) = _
  rw [hmismatch]
  rfl

section Members

variable {step : String → γ → Parser γ} {known : γ} {key : String}

/-- A member that is refused ends the loop over an object. -/
theorem members_cons_mismatch (hkey : (ofText key).length ≤ fuel)
    (hstep : Mismatches (step key known) (0x3a :: text)) (rounds : Nat) (first : Bool)
    (pieces : List Bytes) (rest : Bytes) :
    ∃ detail, members fuel step (rounds + 1) first known
      (row first (member key text :: pieces) ++ 0x7d :: rest) = .error (.mismatch detail) := by
  obtain ⟨b, more, heq, hb⟩ := row_false_append pieces 0x7d rfl rest
  obtain ⟨detail, hmismatch⟩ := hstep b more hb
  rw [← heq] at hmismatch
  refine ⟨detail, ?_⟩
  rw [row_cons, List.append_assoc, List.append_assoc, member, List.append_assoc, members,
    nextMember_row]
  dsimp only
  rw [quotedText_ofText key hkey]
  dsimp only
  rw [hmismatch]

/-- **The loop over an object finds a mismatch or accepts every member**, and what it has come to
know then keeps an invariant that no accepted member breaks. -/
theorem members_decided {Accepted : β → Prop} {Inv : γ → Prop} {keyOf : β → String}
    {textOf : β → Bytes} {entries : List β}
    (hkey : ∀ e ∈ entries, (ofText (keyOf e)).length ≤ fuel)
    (hstep : ∀ e ∈ entries, ∀ known, Inv known →
      Mismatches (step (keyOf e) known) (0x3a :: textOf e) ∨
        Accepted e ∧ ∃ known', Inv known' ∧ Reads (step (keyOf e) known) (0x3a :: textOf e) known')
    {rounds : Nat} (hrounds : entries.length < rounds) (first : Bool) (hknown : Inv known)
    (rest : Bytes) :
    (∃ detail, members fuel step rounds first known
        (row first (entries.map fun e ↦ member (keyOf e) (textOf e)) ++ 0x7d :: rest) =
          .error (.mismatch detail)) ∨
      (∀ e ∈ entries, Accepted e) ∧ ∃ known', Inv known' ∧
        members fuel step rounds first known
          (row first (entries.map fun e ↦ member (keyOf e) (textOf e)) ++ 0x7d :: rest) =
            .ok (known', rest) := by
  obtain ⟨rounds, rfl⟩ := Nat.exists_eq_succ_of_ne_zero (Nat.ne_zero_of_lt hrounds)
  induction entries generalizing rounds first known with
  | nil => exact .inr ⟨nofun, known, hknown, members_nil rounds first rest⟩
  | cons e entries ih =>
    obtain ⟨rounds, rfl⟩ :=
      Nat.exists_eq_succ_of_ne_zero (Nat.ne_zero_of_lt (Nat.lt_of_succ_lt_succ hrounds))
    rw [List.map_cons]
    rcases hstep e List.mem_cons_self known hknown with h | ⟨haccepted, known', hknown', hread⟩
    · exact .inl (members_cons_mismatch (hkey e List.mem_cons_self) h _ first _ rest)
    · rw [members_cons (hkey e List.mem_cons_self) hread]
      refine (ih (fun d hd ↦ hkey d (List.mem_cons_of_mem e hd))
        (fun d hd ↦ hstep d (List.mem_cons_of_mem e hd)) false hknown' rounds
        (Nat.lt_of_succ_lt_succ hrounds)).imp_right fun h ↦ ?_
      exact ⟨List.forall_mem_cons.mpr ⟨haccepted, h.1⟩, h.2⟩

end Members

/-! ## Maps and errors -/

/-- **A value that is no object of texts is a mismatch.** -/
theorem mismatches_textMapDocument (hwhole : v.Whole) (hfuel : (ofValue v).length ≤ fuel)
    (hobject : ∀ ms, v = .object ms → ∃ m ∈ ms, m.2.text? = none) :
    Mismatches (textMapDocument fuel) (ofValue v) := by
  intro b rest hb
  obtain ⟨c, more, heq, -, -, hbrace, -⟩ := first_octet hwhole
  rw [textMapDocument, (starts_ofValue hwhole).skipSpace]
  by_cases hc : c = 0x7b
  · obtain ⟨ms, rfl⟩ := hbrace hc
    obtain ⟨m, hm, hnone⟩ := hobject ms rfl
    rw [ofValue_object] at hfuel ⊢
    obtain ⟨hcount, hlength⟩ := length_object_le Prod.fst (fun m ↦ ofValue m.2) hfuel
    have hstep : ∀ m ∈ ms, ∀ known, True →
        Mismatches (addTextEntry fuel m.1 known) (0x3a :: ofValue m.2) ∨ m.2.text? ≠ none ∧
          ∃ known', True ∧ Reads (addTextEntry fuel m.1 known) (0x3a :: ofValue m.2) known' := by
      intro m hm known _
      have hfits : (ofValue m.2).length ≤ fuel :=
        Nat.le_of_succ_le (Nat.le_trans (Nat.le_add_left _ _) (hlength m hm))
      cases htext : m.2.text? with
      | none =>
        have hmember := Value.wholeMembers_iff.mp hwhole m hm
        exact .inl ((mismatches_textDocument hmember hfits htext).behind_colon (known.insert m.1))
      | some s =>
        rw [Value.eq_string_of_text? htext] at hfits ⊢
        exact .inr ⟨nofun, known.insert m.1 s, trivial,
          reads_behind_colon (reads_textDocument s hfits) (known.insert m.1)⟩
    rw [enclose_append]
    refine (members_decided (fun m hm ↦ Nat.le_trans (Nat.le_add_right _ _) (hlength m hm)) hstep
      hcount true trivial (b :: rest)).resolve_right fun h ↦ h.1 m hm hnone
  · rw [heq, List.cons_append]
    dsimp only
    rw [if_neg hc]
    exact wrongType_ofValue hwhole hfuel heq "a map" hb rest

/-- A member of an error is refused, or passed over, or a field that was missing. -/
theorem addErrorField_decided {ms : List (String × Value)} {m : String × Value} (hm : m ∈ ms)
    (hwhole : m.2.Whole) (hfuel : (ofValue m.2).length ≤ fuel) {known : ErrorFields}
    (hknown : known.Within ms) :
    Mismatches (addErrorField fuel m.1 known) (0x3a :: ofValue m.2) ∨
      ∃ known', known'.Within ms ∧
        Reads (addErrorField fuel m.1 known) (0x3a :: ofValue m.2) known' := by
  obtain ⟨key, v⟩ := m
  dsimp only at hwhole hfuel ⊢
  -- Both fields go the same way.
  have hfield (set : String → ErrorFields)
      (hset : ∀ s, v = .string s → (set s).Within ms)
      (hadd : ∀ bs, addErrorField fuel key known bs =
        colon bs >>= fun rest ↦ textDocument fuel rest >>= fun y ↦ pure (set y.1, y.2)) :
      Mismatches (addErrorField fuel key known) (0x3a :: ofValue v) ∨
        ∃ known', known'.Within ms ∧
          Reads (addErrorField fuel key known) (0x3a :: ofValue v) known' := by
    rw [funext hadd]
    cases htext : v.text? with
    | none => exact .inl ((mismatches_textDocument hwhole hfuel htext).behind_colon set)
    | some s =>
      obtain rfl := Value.eq_string_of_text? htext
      exact .inr ⟨set s, hset s rfl, reads_behind_colon (reads_textDocument s hfuel) set⟩
  by_cases hkind : key = "kind"
  · subst hkind
    cases hsome : known.kind with
    | none =>
      refine hfield (fun s ↦ { known with kind := some s }) (fun s hs ↦ ⟨?_, hknown.2⟩) fun bs ↦ ?_
      · rintro t ⟨⟩
        exact hs ▸ hm
      · rw [addErrorField, if_pos rfl, if_neg (by rw [hsome]; simp)]
    | some s =>
      refine .inl fun b rest _ ↦ ⟨"duplicate field `kind`", ?_⟩
      rw [addErrorField, if_pos rfl, if_pos (by rw [hsome]; rfl)]
  by_cases hmessage : key = "message"
  · subst hmessage
    cases hsome : known.message with
    | none =>
      refine hfield (fun s ↦ { known with message := some s }) (fun s hs ↦ ⟨hknown.1, ?_⟩)
        fun bs ↦ ?_
      · rintro t ⟨⟩
        exact hs ▸ hm
      · rw [addErrorField, if_neg hkind, if_pos rfl, if_neg (by rw [hsome]; simp)]
    | some s =>
      refine .inl fun b rest _ ↦ ⟨"duplicate field `message`", ?_⟩
      rw [addErrorField, if_neg hkind, if_pos rfl, if_pos (by rw [hsome]; rfl)]
  · refine .inr ⟨known, hknown, fun b rest hb ↦ ?_⟩
    rw [addErrorField, if_neg hkind, if_neg hmessage]
    change (skipValue (ofValue v ++ b :: rest) >>= fun rest ↦ pure (known, rest)) = _
    rw [skipValue_ofValue hwhole hb]
    rfl

/-- **A value that is neither a list nor an object with both fields is a mismatch.** -/
theorem mismatches_remoteErrorDocument (hwhole : v.Whole) (hfuel : (ofValue v).length ≤ fuel)
    (harray : ∀ items, v ≠ .array items)
    (hobject : ∀ ms, v = .object ms →
      ∃ name ∈ ["kind", "message"], ∀ s, (name, Value.string s) ∉ ms) :
    Mismatches (remoteErrorDocument fuel) (ofValue v) := by
  intro b rest hb
  obtain ⟨c, more, heq, -, hbracket, hbrace, -⟩ := first_octet hwhole
  rw [remoteErrorDocument, (starts_ofValue hwhole).skipSpace]
  by_cases hc : c = 0x7b
  · obtain ⟨ms, rfl⟩ := hbrace hc
    rw [ofValue_object] at hfuel ⊢
    obtain ⟨hcount, hlength⟩ := length_object_le Prod.fst (fun m ↦ ofValue m.2) hfuel
    have hstep : ∀ m ∈ ms, ∀ known : ErrorFields, known.Within ms →
        Mismatches (addErrorField fuel m.1 known) (0x3a :: ofValue m.2) ∨ True ∧
          ∃ known' : ErrorFields, known'.Within ms ∧
            Reads (addErrorField fuel m.1 known) (0x3a :: ofValue m.2) known' := by
      intro m hm known hknown
      have hfits := hlength m hm
      exact (addErrorField_decided hm (Value.wholeMembers_iff.mp hwhole m hm) (by omega)
        hknown).imp_right (⟨trivial, ·⟩)
    have hmembers := members_decided (fun m hm ↦ Nat.le_trans (Nat.le_add_right _ _) (hlength m hm))
      hstep hcount true (ErrorFields.within_none ms) (b :: rest)
    rw [enclose_append]
    change ∃ detail, (members fuel (addErrorField fuel) fuel true .none _ >>=
      fun p ↦ p.1.complete.mapError .mismatch >>= fun e ↦ pure (e, p.2)) = _
    rcases hmembers with ⟨detail, h⟩ | ⟨-, fields, hwithin, h⟩
    · rw [h]
      exact ⟨detail, rfl⟩
    · obtain ⟨detail, hcomplete⟩ := hwithin.complete_error (hobject ms rfl)
      refine ⟨detail, ?_⟩
      rw [h]
      change (fields.complete.mapError Fault.mismatch >>= fun e ↦ pure (e, b :: rest)) = _
      rw [hcomplete]
      rfl
  · have hlist : c ≠ 0x5b := fun h ↦ by
      obtain ⟨items, hv⟩ := hbracket h
      exact harray items hv
    rw [heq, List.cons_append]
    dsimp only
    rw [if_neg hc, if_neg hlist]
    exact wrongType_ofValue hwhole hfuel heq "struct RemoteError" hb rest

/-! ## Documents in a body -/

/-- **A document of another type is a mismatch**, and the reader stays before it. -/
theorem runOn_read_mismatch {p : Nat → Parser α} (hstart : Starts text)
    (hp : ∀ fuel, text.length ≤ fuel → Mismatches (p fuel) text) {body rest : Bytes}
    (hbody : body = document text ++ rest ∨ body = 0x0a :: (document text ++ rest)) :
    ∃ detail, (read p).runOn body = (.error (.typeMismatch detail), body) := by
  obtain ⟨hexhausted, hskip, hlength⟩ := document_ahead hstart hbody
  obtain ⟨detail, hmismatch⟩ := hp _ hlength 0x0a rest rfl
  obtain ⟨b, more, rfl, -, -⟩ := hstart
  have hnext : nextDocument (p (body.length + 1)) body = .error (.mismatch detail) := by
    rw [nextDocument, hskip, List.cons_append]
    dsimp only
    rw [← List.cons_append, hmismatch]
  rw [runOn_read, hexhausted, if_neg Bool.false_ne_true, hnext]
  exact ⟨detail, rfl⟩

end RpcTransport.Json
