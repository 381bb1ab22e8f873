import RpcTransport.Proofs.MessagePack.Documents

/-!
# MessagePack values of another class are told as such

The head of a value tells its class, and a whole head of another class is a mismatch, whichever
reader finds it. Readers that would name what they found in their message read that too, and since
the value is whole they can. So what a reader says of a value follows from the head that the value
was written with (`head_ofValue`).

Maps and errors are decided member by member, as long as members suit (`members_decided`). Members
of an error that are no fields of it are passed over, with the limit on nesting one lower than for
the object: what fits the limit outside fits it inside.
-/

namespace RpcTransport.MessagePack

variable {α β γ : Type} {p : Parser α} {octets : Bytes} {v : Value}

/-- A reader finds that octets are of another class, whatever follows them. -/
def Mismatches (p : Parser α) (octets : Bytes) : Prop :=
  ∀ rest, ∃ detail, p (octets ++ rest) = .error (.typeMismatch detail)

theorem exists_mismatch (h : Head) (wanted : String) :
    ∃ detail, mismatch h wanted = .typeMismatch detail := by
  rw [mismatch]
  split
  · exact ⟨_, rfl⟩
  · exact ⟨_, rfl⟩

/-! ## Heads of values -/

def Head.ofValue : Value → Head
  | .null => .null
  | .bool b => .bool b
  | .number (.whole z _ _) => .ofInteger z
  | .number (.float x _) => .float x
  | .string s => .text (utf8 s).length
  | .array items => .array items.length
  | .object ms => .map ms.length

/-- What is written behind the head of a value. -/
def contents : Value → Bytes
  | .string s => utf8 s
  | .array items => items.flatMap ofValue
  | .object ms => ms.flatMap fun m ↦ ofText m.1 ++ ofValue m.2
  | _ => []

/-- **A value begins with its head**, and the head is read whole. -/
theorem head_ofValue (hsized : v.Sized) (rest : Bytes) :
    head (ofValue v ++ rest) = .ok (.ofValue v, contents v ++ rest) := by
  cases v with
  | null => rfl
  | bool b =>
    cases b with
    | true | false => rfl
  | number n =>
    cases n with
    | whole z lower upper => exact head_ofInteger lower upper rest
    | float x => exact head_ofFloat x rest
  | string s =>
    rw [ofValue, ofText, List.append_assoc]
    exact head_textHead hsized _
  | array items =>
    rw [ofValue, itemPieces_eq, List.reverse_nil, List.nil_append, ← List.flatMap_def,
      List.append_assoc]
    exact head_arrayHead hsized.1 _
  | object ms =>
    rw [ofValue, memberPieces_eq, List.reverse_nil, List.nil_append, ← List.flatMap_def,
      List.append_assoc]
    exact head_mapHead hsized.1 _

theorem Head.whole?_ofValue (v : Value) : (Head.ofValue v).whole? = v.whole? := by
  cases v with
  | number n =>
    cases n with
    | whole z lower upper => exact whole?_ofInteger lower upper
    | float => rfl
  | null | bool | string | array | object => rfl

/-- The head of a value tells its class. -/
theorem Head.class_ofValue (v : Value) :
    (∀ n, ofValue v = .text n → ∃ s, v = .string s) ∧ (∀ n, ofValue v ≠ .octets n) ∧
      (∀ n, ofValue v = .array n → ∃ items, v = .array items) ∧
      ∀ n, ofValue v = .map n → ∃ ms, v = .object ms := by
  cases v with
  | number n =>
    cases n with
    | whole z =>
      cases z with
      | ofNat | negSucc => exact ⟨nofun, nofun, nofun, nofun⟩
    | float => exact ⟨nofun, nofun, nofun, nofun⟩
  | null | bool => exact ⟨nofun, nofun, nofun, nofun⟩
  | string s => exact ⟨fun _ _ ↦ ⟨s, rfl⟩, nofun, nofun, nofun⟩
  | array items => exact ⟨nofun, nofun, fun _ _ ↦ ⟨items, rfl⟩, nofun⟩
  | object ms => exact ⟨nofun, nofun, nofun, fun _ _ ↦ ⟨ms, rfl⟩⟩

theorem head_octetsHead {n : Nat} (h : n < 2 ^ 32) (rest : Bytes) :
    head (octetsHead n ++ rest) = .ok (.octets n, rest) := by
  have hcounted (b : UInt8) (width : Nat) (hb : Marker.ofOctet b = .octets (.counted width))
      (hn : n < 256 ^ width) :
      head (b :: (Bytes.bigEndian width n ++ rest)) = .ok (.octets n, rest) :=
    operand_word hb (fun _ ↦ rfl) hn rest
  rw [octetsHead]
  split
  · next hn => exact hcounted 0xc4 1 (by decide) (by omega)
  split
  · next hn => exact hcounted 0xc5 2 (by decide) (by omega)
  · exact hcounted 0xc6 4 (by decide) (by omega)

/-! ## What readers say of a head -/

section Heads

variable {h : Head} {bs after : Bytes}

theorem wholeWithin_of_head (hhead : head bs = .ok (h, after)) {lower upper : Int}
    (hvalue : ∀ n, h.whole? = some n → ¬ (lower ≤ n ∧ n ≤ upper)) (wanted : String) :
    ∃ detail, wholeWithin wanted lower upper bs = .error (.typeMismatch detail) := by
  cases bs with
  | nil => exact nomatch hhead
  | cons b rest =>
    rw [wholeWithin]
    split
    · obtain ⟨detail, hmismatch⟩ := exists_mismatch h wanted
      refine ⟨detail, ?_⟩
      rw [show operand (.ofOctet b) rest = .ok (h, after) from hhead]
      dsimp only
      cases hw : h.whole? with
      | none => rw [hmismatch]
      | some n =>
        dsimp only
        rw [if_neg (hvalue n hw), hmismatch]
    · exact ⟨_, rfl⟩

theorem byteString_of_head (hhead : head bs = .ok (h, after)) (hoctets : ∀ n, h ≠ .octets n) :
    ∃ detail, byteString bs = .error (.typeMismatch detail) := by
  cases bs with
  | nil => exact nomatch hhead
  | cons b rest =>
    replace hhead : operand (.ofOctet b) rest = .ok (h, after) := hhead
    rw [byteString]
    cases hmarker : Marker.ofOctet b with
    | octets e =>
      rw [hmarker] at hhead
      change (size e rest).map (fun y ↦ (Head.octets y.1, y.2)) = .ok (h, after) at hhead
      rcases hsize : size e rest with err | ⟨n, more⟩
      · rw [hsize] at hhead
        cases hhead
      · rw [hsize] at hhead
        exact absurd (Prod.mk.inj (Except.ok.inj hhead)).1.symm (hoctets n)
    | null | reserved | bool | positive | negative | unsigned | signed | float | text | array
    | map | extension => exact ⟨_, rfl⟩

theorem string_of_head (hhead : head bs = .ok (h, after)) (htext : ∀ n, h ≠ .text n)
    (hoctets : ∀ n, h ≠ .octets n) :
    ∃ detail, string bs = .error (.typeMismatch detail) := by
  obtain ⟨detail, hmismatch⟩ := exists_mismatch h "a string"
  refine ⟨detail, ?_⟩
  rw [string, stringAs, hhead]
  cases h with
  | text n => exact absurd rfl (htext n)
  | octets n => exact absurd rfl (hoctets n)
  | null | reserved | bool | unsigned | signed | float => exact congrArg Except.error hmismatch
  | array | map | extension =>
    dsimp only
    rw [if_neg (by simp [depthLimit]), hmismatch]

theorem textMap_of_head (hhead : head bs = .ok (h, after)) (hmap : ∀ n, h ≠ .map n) :
    textMap bs = refuse h "a map" after := by
  rw [textMap, hhead]
  cases h with
  | map n => exact absurd rfl (hmap n)
  | null | reserved | bool | unsigned | signed | float | text | octets | array | extension => rfl

theorem remoteError_of_head (hhead : head bs = .ok (h, after)) (hmap : ∀ n, h ≠ .map n)
    (harray : ∀ n, h ≠ .array n) : remoteError bs = refuse h "struct RemoteError" after := by
  rw [remoteError, hhead]
  cases h with
  | map n => exact absurd rfl (hmap n)
  | array n => exact absurd rfl (harray n)
  | null | reserved | bool | unsigned | signed | float | text | octets | extension => rfl

theorem refuse_of_ne_text (htext : ∀ n, h ≠ .text n) (hoctets : ∀ n, h ≠ .octets n)
    (wanted : String) (bs : Bytes) :
    (refuse h wanted bs : Except _ α) = .error (mismatch h wanted) := by
  cases h with
  | text n => exact absurd rfl (htext n)
  | octets n => exact absurd rfl (hoctets n)
  | null | reserved | bool | unsigned | signed | float | array | map | extension => rfl

end Heads

/-- A value that is refused is read far enough to name it. -/
theorem refuse_ofValue (v : Value) (wanted : String) (rest : Bytes) :
    ∃ detail, (refuse (.ofValue v) wanted (contents v ++ rest) : Except _ α) =
      .error (.typeMismatch detail) := by
  obtain ⟨htext, hoctets, -, -⟩ := Head.class_ofValue v
  by_cases hstring : ∃ s, v = .string s
  · obtain ⟨s, rfl⟩ := hstring
    rw [Head.ofValue, contents, refuse, reads_textOf s rest]
    exact ⟨_, rfl⟩
  · obtain ⟨detail, hmismatch⟩ := exists_mismatch (.ofValue v) wanted
    refine ⟨detail, ?_⟩
    rw [refuse_of_ne_text (fun n hn ↦ hstring (htext n hn)) hoctets, hmismatch]

/-! ## Scalars -/

/-- **A value that is no whole number within bounds is a mismatch.** -/
theorem mismatches_wholeWithin (hsized : v.Sized) {lower upper : Int}
    (hvalue : ∀ n, v.whole? = some n → ¬ (lower ≤ n ∧ n ≤ upper)) (wanted : String) :
    Mismatches (wholeWithin wanted lower upper) (ofValue v) :=
  fun rest ↦ wholeWithin_of_head (head_ofValue hsized rest)
    (fun n hn ↦ hvalue n ((Head.whole?_ofValue v).symm.trans hn)) wanted

/-- **No value is octets**, and a text is not either. -/
theorem mismatches_byteString (hsized : v.Sized) : Mismatches byteString (ofValue v) :=
  fun rest ↦ byteString_of_head (head_ofValue hsized rest) (Head.class_ofValue v).2.1

/-- **A value that is no text is a mismatch.** -/
theorem mismatches_string (hsized : v.Sized) (htext : v.text? = none) :
    Mismatches string (ofValue v) := by
  obtain ⟨hstring, hoctets, -, -⟩ := Head.class_ofValue v
  refine fun rest ↦ string_of_head (head_ofValue hsized rest) (fun n hn ↦ ?_) hoctets
  obtain ⟨s, rfl⟩ := hstring n hn
  exact nomatch htext

/-! ## Passing over a value -/

/-- **A value is passed over as it was written**, if the reader admits its depth. -/
theorem reads_skip (hsized : v.Sized) {depth : Nat} (hdepth : v.depth ≤ depth) :
    Reads (skip depth) (ofValue v) () := by
  have hscalar (v : Value) (hsized : v.Sized) (hdepth : v.depth = 0)
      (nested : Option (Parser Unit)) : Reads (skipWith nested) (ofValue v) () := by
    intro rest
    rw [skipWith, head_ofValue hsized]
    cases v with
    | number n =>
      cases n with
      | whole z =>
        cases z with
        | ofNat | negSucc => rfl
      | float => rfl
    | string s =>
      change (take (utf8 s).length (utf8 s ++ rest)).map _ = _
      rw [take_append]
      rfl
    | null | bool => rfl
    | array | object => exact absurd hdepth (Nat.succ_ne_zero _)
  induction depth generalizing v with
  | zero => exact hscalar v hsized (Nat.le_zero.mp hdepth) none
  | succ depth ih =>
    cases v with
    | array items =>
      intro rest
      have hitem : ∀ w ∈ items, Unit → Reads (skip depth) (ofValue w) () := fun w hw _ ↦
        ih (Value.sizedItems_iff.mp hsized.2 w hw)
          (Nat.le_trans (Value.depth_le_depthItems hw) (Nat.le_of_succ_le_succ hdepth))
      rw [skip, skipWith, head_ofValue hsized]
      exact members_flatMap (fun w hw known ↦ hitem w hw known) () rest
    | object ms =>
      intro rest
      have hmembers := Value.sizedMembers_iff.mp hsized.2
      have hpair : ∀ m ∈ ms, Unit →
          Reads (skipPair (skip depth)) (ofText m.1 ++ ofValue m.2) () := by
        intro m hm _ more
        have hkey : Reads (skip depth) (ofText m.1) () :=
          ih (v := .string m.1) (hmembers m hm).1 (Nat.zero_le _)
        rw [skipPair, List.append_assoc, hkey]
        exact ih (hmembers m hm).2
          (Nat.le_trans (Value.depth_le_depthMembers hm) (Nat.le_of_succ_le_succ hdepth)) more
      rw [skip, skipWith, head_ofValue hsized]
      exact members_flatMap (fun m hm known ↦ hpair m hm known) () rest
    | null | bool | number | string => exact hscalar _ hsized rfl _

/-! ## Members -/

/-- **The loop over a map finds a mismatch or accepts every member**, and what it has come to know
then keeps an invariant that no accepted member breaks. -/
theorem members_decided {Accepted : β → Prop} {Inv : γ → Prop} {step : γ → Parser γ}
    {octets : β → Bytes} {entries : List β}
    (hstep : ∀ e ∈ entries, ∀ known, Inv known → Mismatches (step known) (octets e) ∨
      Accepted e ∧ ∃ known', Inv known' ∧ Reads (step known) (octets e) known')
    {known : γ} (hknown : Inv known) (rest : Bytes) :
    (∃ detail, members step entries.length known (entries.flatMap octets ++ rest) =
        .error (.typeMismatch detail)) ∨
      (∀ e ∈ entries, Accepted e) ∧ ∃ known', Inv known' ∧
        members step entries.length known (entries.flatMap octets ++ rest) =
          .ok (known', rest) := by
  induction entries generalizing known with
  | nil => exact .inr ⟨nofun, known, hknown, rfl⟩
  | cons e entries ih =>
    rw [List.length_cons, List.flatMap_cons, List.append_assoc, members]
    rcases hstep e List.mem_cons_self known hknown with h | ⟨haccepted, known', hknown', hread⟩
    · obtain ⟨detail, hmismatch⟩ := h (entries.flatMap octets ++ rest)
      exact .inl ⟨detail, by rw [hmismatch]⟩
    · rw [hread]
      refine (ih (fun d hd ↦ hstep d (List.mem_cons_of_mem e hd)) hknown').imp_right fun h ↦ ?_
      exact ⟨List.forall_mem_cons.mpr ⟨haccepted, h.1⟩, h.2⟩

theorem addTextEntry_decided {m : String × Value} (hkey : (utf8 m.1).length < 2 ^ 32)
    (hsized : m.2.Sized) (known : TextMap) :
    Mismatches (addTextEntry known) (ofText m.1 ++ ofValue m.2) ∨ m.2.text? ≠ none ∧
      ∃ known', Reads (addTextEntry known) (ofText m.1 ++ ofValue m.2) known' := by
  obtain ⟨key, v⟩ := m
  dsimp only at hkey hsized ⊢
  cases htext : v.text? with
  | none =>
    refine .inl fun rest ↦ ?_
    obtain ⟨detail, hmismatch⟩ := mismatches_string hsized htext rest
    refine ⟨detail, ?_⟩
    change (string (ofText key ++ ofValue v ++ rest) >>= fun p ↦
      string p.2 >>= fun q ↦ pure (known.insert p.1 q.1, q.2)) = _
    rw [List.append_assoc, reads_string hkey]
    change (string (ofValue v ++ rest) >>= fun q ↦ pure (known.insert key q.1, q.2)) = _
    rw [hmismatch]
    rfl
  | some s =>
    obtain rfl := Value.eq_string_of_text? htext
    exact .inr ⟨nofun, known.insert key s, reads_addTextEntry hkey hsized known⟩

/-- **A value that is no object of texts is a mismatch.** -/
theorem mismatches_textMap (hsized : v.Sized)
    (hobject : ∀ ms, v = .object ms → ∃ m ∈ ms, m.2.text? = none) :
    Mismatches textMap (ofValue v) := by
  intro rest
  have hhead := head_ofValue hsized rest
  by_cases hms : ∃ ms, v = .object ms
  · obtain ⟨ms, rfl⟩ := hms
    obtain ⟨m, hm, hnone⟩ := hobject ms rfl
    have hmembers := Value.sizedMembers_iff.mp hsized.2
    have hstep : ∀ m ∈ ms, ∀ known, True →
        Mismatches (addTextEntry known) (ofText m.1 ++ ofValue m.2) ∨ m.2.text? ≠ none ∧
          ∃ known', True ∧ Reads (addTextEntry known) (ofText m.1 ++ ofValue m.2) known' := by
      intro m hm known _
      refine (addTextEntry_decided (hmembers m hm).1 (hmembers m hm).2 known).imp_right ?_
      rintro ⟨htext, known', hread⟩
      exact ⟨htext, known', trivial, hread⟩
    rw [textMap, hhead]
    exact (members_decided hstep trivial rest).resolve_right fun h ↦ h.1 m hm hnone
  · rw [textMap_of_head hhead fun n hn ↦ hms ((Head.class_ofValue v).2.2.2 n hn)]
    exact refuse_ofValue v "a map" rest

/-! ## Errors -/

/-- A member of an error is refused, or passed over, or a field that was missing. -/
theorem addErrorField_decided {ms : List (String × Value)} {m : String × Value} (hm : m ∈ ms)
    (hkey : (utf8 m.1).length < 2 ^ 32) (hsized : m.2.Sized)
    (hdepth : m.2.depth ≤ depthLimit - 1) {known : ErrorFields} (hknown : known.Within ms) :
    Mismatches (addErrorField known) (ofText m.1 ++ ofValue m.2) ∨
      ∃ known', known'.Within ms ∧
        Reads (addErrorField known) (ofText m.1 ++ ofValue m.2) known' := by
  obtain ⟨key, v⟩ := m
  dsimp only at hkey hsized hdepth ⊢
  have hname (rest : Bytes) : errorField (ofText key ++ ofValue v ++ rest) =
      .ok (.ofName key, ofValue v ++ rest) := by
    rw [List.append_assoc, reads_errorField hkey]
  -- Both fields go the same way.
  have hfield (set : String → ErrorFields) (hset : ∀ s, v = .string s → (set s).Within ms)
      (hadd : ∀ rest, addErrorField known (ofText key ++ ofValue v ++ rest) =
        (string (ofValue v ++ rest)).map fun y ↦ (set y.1, y.2)) :
      Mismatches (addErrorField known) (ofText key ++ ofValue v) ∨
        ∃ known', known'.Within ms ∧
          Reads (addErrorField known) (ofText key ++ ofValue v) known' := by
    cases htext : v.text? with
    | none =>
      refine .inl fun rest ↦ ?_
      obtain ⟨detail, hmismatch⟩ := mismatches_string hsized htext rest
      exact ⟨detail, by rw [hadd, hmismatch]; rfl⟩
    | some s =>
      obtain rfl := Value.eq_string_of_text? htext
      refine .inr ⟨set s, hset s rfl, fun rest ↦ ?_⟩
      rw [hadd]
      change (string (ofText s ++ rest)).map _ = _
      rw [reads_string hsized]
      rfl
  by_cases hkind : key = "kind"
  · subst hkind
    have hofName : ErrorField.ofName "kind" = .kind := by decide
    cases hsome : known.kind with
    | none =>
      refine hfield (fun s ↦ { known with kind := some s }) (fun s hs ↦ ⟨?_, hknown.2⟩)
        fun rest ↦ ?_
      · rintro t ⟨⟩
        exact hs ▸ hm
      · rw [addErrorField, hname, hofName]
        dsimp only
        rw [if_neg (by rw [hsome]; simp)]
    | some s =>
      refine .inl fun rest ↦ ⟨"duplicate field `kind`", ?_⟩
      rw [addErrorField, hname, hofName]
      dsimp only
      rw [if_pos (by rw [hsome]; rfl)]
  by_cases hmessage : key = "message"
  · subst hmessage
    have hofName : ErrorField.ofName "message" = .message := by decide
    cases hsome : known.message with
    | none =>
      refine hfield (fun s ↦ { known with message := some s }) (fun s hs ↦ ⟨hknown.1, ?_⟩)
        fun rest ↦ ?_
      · rintro t ⟨⟩
        exact hs ▸ hm
      · rw [addErrorField, hname, hofName]
        dsimp only
        rw [if_neg (by rw [hsome]; simp)]
    | some s =>
      refine .inl fun rest ↦ ⟨"duplicate field `message`", ?_⟩
      rw [addErrorField, hname, hofName]
      dsimp only
      rw [if_pos (by rw [hsome]; rfl)]
  · have hofName : ErrorField.ofName key = .other := by
      rw [ErrorField.ofName, if_neg hkind, if_neg hmessage]
    refine .inr ⟨known, hknown, fun rest ↦ ?_⟩
    rw [addErrorField, hname, hofName]
    dsimp only
    rw [reads_skip hsized hdepth]
    rfl

/-- **A value that is neither a list nor an object with both fields is a mismatch.** -/
theorem mismatches_remoteError (hsized : v.Sized) (hdepth : v.depth ≤ depthLimit)
    (harray : ∀ items, v ≠ .array items)
    (hobject : ∀ ms, v = .object ms →
      ∃ name ∈ ["kind", "message"], ∀ s, (name, Value.string s) ∉ ms) :
    Mismatches remoteError (ofValue v) := by
  intro rest
  have hhead := head_ofValue hsized rest
  obtain ⟨-, -, hlist, hmap⟩ := Head.class_ofValue v
  by_cases hms : ∃ ms, v = .object ms
  · obtain ⟨ms, rfl⟩ := hms
    have hmembers := Value.sizedMembers_iff.mp hsized.2
    have hstep : ∀ m ∈ ms, ∀ known : ErrorFields, known.Within ms →
        Mismatches (addErrorField known) (ofText m.1 ++ ofValue m.2) ∨ True ∧
          ∃ known' : ErrorFields, known'.Within ms ∧
            Reads (addErrorField known) (ofText m.1 ++ ofValue m.2) known' := by
      intro m hm known hknown
      have hinner : m.2.depth ≤ depthLimit - 1 :=
        Nat.le_trans (Value.depth_le_depthMembers hm) (Nat.le_of_succ_le_succ hdepth)
      exact (addErrorField_decided hm (hmembers m hm).1 (hmembers m hm).2 hinner
        hknown).imp_right (⟨trivial, ·⟩)
    rw [remoteError, hhead]
    change ∃ detail, (members addErrorField ms.length .none
      (ms.flatMap (fun m ↦ ofText m.1 ++ ofValue m.2) ++ rest) >>=
        fun p ↦ p.1.complete.mapError .typeMismatch >>= fun e ↦ pure (e, p.2)) = _
    rcases members_decided hstep (ErrorFields.within_none ms) rest with
      ⟨detail, h⟩ | ⟨-, fields, hwithin, h⟩
    · rw [h]
      exact ⟨detail, rfl⟩
    · obtain ⟨detail, hcomplete⟩ := hwithin.complete_error (hobject ms rfl)
      refine ⟨detail, ?_⟩
      rw [h]
      change (fields.complete.mapError SerializationError.typeMismatch >>=
        fun e ↦ pure (e, rest)) = _
      rw [hcomplete]
      rfl
  · have harray (n : Nat) : Head.ofValue v ≠ .array n := fun hn ↦ by
      obtain ⟨items, hv⟩ := hlist n hn
      exact harray items hv
    rw [remoteError_of_head hhead (fun n hn ↦ hms (hmap n hn)) harray]
    exact refuse_ofValue v "struct RemoteError" rest

/-! ## Octets -/

theorem head_ofOctets (hsized : octets.length < 2 ^ 32) (rest : Bytes) :
    head (ofOctets octets ++ rest) = .ok (.octets octets.length, octets ++ rest) := by
  rw [ofOctets, List.append_assoc, head_octetsHead hsized]

theorem Head.class_octets (size : Nat) : (∀ n, (Head.octets size).whole? ≠ some n) ∧
    (∀ n, Head.octets size ≠ .array n) ∧ ∀ n, Head.octets size ≠ .map n :=
  ⟨nofun, nofun, nofun⟩

theorem refuse_octets (octets : Bytes) (wanted : String) (rest : Bytes) :
    ∃ detail, (refuse (.octets octets.length) wanted (octets ++ rest) : Except _ α) =
      .error (.typeMismatch detail) := by
  obtain ⟨detail, hmismatch⟩ := exists_mismatch (.octets octets.length) wanted
  exact ⟨detail, by rw [refuse, take_append, hmismatch]⟩

/-- **Octets are a mismatch for every other reader**, except that octets which are UTF-8 do for a
text. -/
theorem mismatches_ofOctets (hsized : octets.length < 2 ^ 32) (wanted : String)
    (lower upper : Int) :
    Mismatches (wholeWithin wanted lower upper) (ofOctets octets) ∧
      (ofUtf8? octets = none → Mismatches string (ofOctets octets)) ∧
      Mismatches (value depthLimit) (ofOctets octets) ∧
      Mismatches textMap (ofOctets octets) ∧ Mismatches remoteError (ofOctets octets) := by
  obtain ⟨hwhole, harray, hmap⟩ := Head.class_octets octets.length
  refine ⟨fun rest ↦ ?_, fun htext rest ↦ ?_, fun rest ↦ ?_, fun rest ↦ ?_, fun rest ↦ ?_⟩
  · exact wholeWithin_of_head (head_ofOctets hsized rest) (fun n hn ↦ absurd hn (hwhole n)) wanted
  · rw [string, stringAs, head_ofOctets hsized]
    dsimp only
    rw [take_append]
    dsimp only
    rw [htext]
    exact ⟨_, rfl⟩
  · obtain ⟨detail, hrefuse⟩ := refuse_octets (α := Value × Bytes) octets anyValue rest
    exact ⟨detail, by rw [depthLimit, value, valueWith, head_ofOctets hsized]; exact hrefuse⟩
  · rw [textMap_of_head (head_ofOctets hsized rest) hmap]
    exact refuse_octets octets "a map" rest
  · rw [remoteError_of_head (head_ofOctets hsized rest) hmap harray]
    exact refuse_octets octets "struct RemoteError" rest

end RpcTransport.MessagePack
