import RpcTransport.Proofs.MessagePack.Values

/-!
# MessagePack maps, errors and numbers are read as they were written

The readers of types go the same way as the reader of values. What is written in fewer than `2 ^ 32`
octets has no size inside that its head could not tell (`sized_of_length`).
-/

namespace RpcTransport.MessagePack

variable {β : Type}

/-! ## Sizes -/

theorem length_le_length_flatMap (octets : β → Bytes) {entries : List β} {e : β} (h : e ∈ entries) :
    (octets e).length ≤ (entries.flatMap octets).length := by
  rw [List.flatMap_def]
  exact (List.sublist_flatten_of_mem (List.mem_map_of_mem h)).length_le

theorem count_le_length_flatMap {octets : β → Bytes} (hpos : ∀ e, 1 ≤ (octets e).length)
    (entries : List β) : entries.length ≤ (entries.flatMap octets).length := by
  induction entries with
  | nil => exact Nat.le_refl _
  | cons e entries ih =>
    have he := hpos e
    rw [List.length_cons, List.flatMap_cons, List.length_append]
    omega

theorem length_ofText (s : String) :
    (utf8 s).length ≤ (ofText s).length ∧ 1 ≤ (ofText s).length := by
  have hhead : 1 ≤ (textHead (utf8 s).length).length := by
    rw [textHead]
    repeat' split
    all_goals exact Nat.le_add_left 1 _
  rw [ofText, List.length_append]
  omega

theorem length_ofText_le (s : String) : (ofText s).length ≤ (utf8 s).length + 5 := by
  have hhead : (textHead (utf8 s).length).length ≤ 5 := by
    rw [textHead]
    repeat' split
    all_goals
      simp only [List.length_cons, List.length_nil, Bytes.length_bigEndian]
      decide
  rw [ofText, List.length_append]
  omega

theorem length_arrayHead (n : Nat) : 1 ≤ (arrayHead n).length := by
  rw [arrayHead]
  repeat' split
  all_goals exact Nat.le_add_left 1 _

theorem length_mapHead (n : Nat) : 1 ≤ (mapHead n).length := by
  rw [mapHead]
  repeat' split
  all_goals exact Nat.le_add_left 1 _

theorem length_ofValue (v : Value) : 1 ≤ (ofValue v).length := by
  cases v with
  | null => exact Nat.le_refl _
  | bool b =>
    cases b with
    | true => exact Nat.le_refl _
    | false => exact Nat.le_refl _
  | number n =>
    cases n with
    | whole z lower upper =>
      obtain ⟨b, more, heq, -, -⟩ := operand_ofInteger lower upper []
      rw [List.append_nil] at heq
      change 1 ≤ (ofInteger z).length
      rw [heq]
      exact Nat.le_add_left 1 _
    | float => exact Nat.le_add_left 1 _
  | string s => exact (length_ofText s).2
  | array items =>
    rw [ofValue, List.length_append]
    exact Nat.le_add_right_of_le (length_arrayHead _)
  | object members =>
    rw [ofValue, List.length_append]
    exact Nat.le_add_right_of_le (length_mapHead _)

/-- **What is short has no size that is too large.** -/
theorem sized_of_length {v : Value} (h : (ofValue v).length < 2 ^ 32) : v.Sized := by
  induction hn : v.depth using Nat.strongRecOn generalizing v with
  | ind n ih =>
    cases v with
    | string s => exact Nat.lt_of_le_of_lt (length_ofText s).1 h
    | array items =>
      rw [ofValue, itemPieces_eq, List.reverse_nil, List.nil_append, List.length_append,
        ← List.flatMap_def] at h
      have hcount := count_le_length_flatMap length_ofValue items
      refine ⟨by omega, Value.sizedItems_iff.mpr fun w hw ↦ ?_⟩
      have hdepth : w.depth < n := hn ▸ Nat.lt_succ_of_le (Value.depth_le_depthItems hw)
      have hlength := length_le_length_flatMap ofValue hw
      exact ih _ hdepth (by omega) rfl
    | object members =>
      rw [ofValue, memberPieces_eq, List.reverse_nil, List.nil_append, List.length_append,
        ← List.flatMap_def] at h
      have hpos (m : String × Value) : 1 ≤ (ofText m.1 ++ ofValue m.2).length := by
        rw [List.length_append]
        exact Nat.le_add_right_of_le (length_ofText m.1).2
      have hcount := count_le_length_flatMap hpos members
      refine ⟨by omega, Value.sizedMembers_iff.mpr fun m hm ↦ ?_⟩
      have hdepth : m.2.depth < n := hn ▸ Nat.lt_succ_of_le (Value.depth_le_depthMembers hm)
      have hlength := length_le_length_flatMap
        (fun m : String × Value ↦ ofText m.1 ++ ofValue m.2) hm
      have hkey := (length_ofText m.1).1
      rw [List.length_append] at hlength
      exact ⟨by omega, ih _ hdepth (by omega) rfl⟩
    | null | bool | number => trivial

/-- The entries of a map have sizes that four octets can tell. -/
def SizedEntries (entries : List (String × String)) : Prop :=
  entries.length < 2 ^ 32 ∧ ∀ e ∈ entries, (utf8 e.1).length < 2 ^ 32 ∧ (utf8 e.2).length < 2 ^ 32

theorem sizedEntries_of_length {entries : List (String × String)}
    (h : (ofEntries entries).length < 2 ^ 32) : SizedEntries entries := by
  rw [ofEntries, List.length_append] at h
  have hpos (e : String × String) : 1 ≤ (ofText e.1 ++ ofText e.2).length := by
    rw [List.length_append]
    exact Nat.le_add_right_of_le (length_ofText e.1).2
  have hcount := count_le_length_flatMap hpos entries
  refine ⟨by omega, fun e he ↦ ?_⟩
  have hlength := length_le_length_flatMap
    (fun e : String × String ↦ ofText e.1 ++ ofText e.2) he
  have hkey := (length_ofText e.1).1
  have htext := (length_ofText e.2).1
  rw [List.length_append] at hlength
  omega

/-! ## Scalars -/

theorem exists_marker_ofText (s : String) :
    ∃ b more, ofText s = b :: more ∧ (Marker.ofOctet b).isNumeric = false := by
  rw [ofText, textHead]
  split
  · next hn =>
    have hmarker := ofOctet_inline_text ⟨(utf8 s).length, hn⟩
    exact ⟨_, utf8 s, rfl, hmarker ▸ rfl⟩
  split
  · exact ⟨0xd9, _, rfl, by decide⟩
  split
  · exact ⟨0xda, _, rfl, by decide⟩
  · exact ⟨0xdb, _, rfl, by decide⟩

theorem reads_wholeWithin {z lower upper : Int} (hz : lower ≤ z ∧ z ≤ upper)
    (hword : -0x8000000000000000 ≤ z ∧ z < 0x10000000000000000) (wanted : String) :
    Reads (wholeWithin wanted lower upper) (ofInteger z) z := by
  intro rest
  obtain ⟨b, more, heq, hnumeric, hoperand⟩ := operand_ofInteger hword.1 hword.2 rest
  rw [heq, wholeWithin, if_pos hnumeric, hoperand]
  dsimp only
  rw [Head.whole?_ofInteger hword.1 hword.2]
  dsimp only
  rw [if_pos hz]

/-- A text has no marker of a number. -/
theorem wholeWithin_ofText (wanted : String) (lower upper : Int) (s : String) (rest : Bytes) :
    ∃ e, wholeWithin wanted lower upper (ofText s ++ rest) = .error e := by
  obtain ⟨b, more, heq, hmarker⟩ := exists_marker_ofText s
  rw [heq, List.cons_append, wholeWithin, if_neg (Bool.eq_false_iff.mp hmarker)]
  exact ⟨_, rfl⟩

theorem reads_string {s : String} (h : (utf8 s).length < 2 ^ 32) : Reads string (ofText s) s :=
  reads_stringAs h depthLimit true "a string"

/-- **Octets are read as they were written**, whatever follows them. -/
theorem reads_byteString {octets : Bytes} (h : octets.length < 2 ^ 32) :
    Reads byteString (ofOctets octets) octets := by
  intro rest
  have hcounted (b : UInt8) (width : Nat) (hb : Marker.ofOctet b = .octets (.counted width))
      (hn : octets.length < 256 ^ width) :
      byteString (b :: (Bytes.bigEndian width octets.length ++ (octets ++ rest))) =
        .ok (octets, rest) := by
    rw [byteString, hb]
    dsimp only
    rw [size, word_bigEndian hn]
    exact take_append octets rest
  rw [ofOctets, List.append_assoc, octetsHead]
  split
  · exact hcounted 0xc4 1 (by decide) (by omega)
  split
  · exact hcounted 0xc5 2 (by decide) (by omega)
  · exact hcounted 0xc6 4 (by decide) (by omega)

/-! ## Maps and errors -/

theorem reads_addTextEntry {key s : String} (hkey : (utf8 key).length < 2 ^ 32)
    (hs : (utf8 s).length < 2 ^ 32) (known : TextMap) :
    Reads (addTextEntry known) (ofText key ++ ofText s) (known.insert key s) := by
  intro rest
  change (string (ofText key ++ ofText s ++ rest) >>= fun p ↦
    string p.2 >>= fun q ↦ pure (known.insert p.1 q.1, q.2)) = _
  rw [List.append_assoc, reads_string hkey]
  change (string (ofText s ++ rest) >>= fun q ↦ pure (known.insert key q.1, q.2)) = _
  rw [reads_string hs]
  rfl

/-- **A map is read as it was written**, in whatever order. -/
theorem reads_textMap {m : TextMap} {entries : List (String × String)}
    (hentries : entries.Perm m.entries) (hsized : SizedEntries entries) :
    Reads textMap (ofEntries entries) m := by
  intro rest
  have hstep : ∀ e ∈ entries, ∀ known, Reads (addTextEntry known) (ofText e.1 ++ ofText e.2)
      (known.insert e.1 e.2) :=
    fun e he ↦ reads_addTextEntry (hsized.2 e he).1 (hsized.2 e he).2
  rw [ofEntries, List.append_assoc, textMap, head_mapHead hsized.1]
  dsimp only
  rw [members_flatMap hstep]
  change Except.ok (TextMap.ofList entries, rest) = _
  rw [TextMap.ofList_of_perm hentries]

theorem reads_errorField {name : String} (h : (utf8 name).length < 2 ^ 32) :
    Reads errorField (ofText name) (.ofName name) := by
  intro rest
  rw [ofText, List.append_assoc, errorField, head_textHead h]
  dsimp only
  rw [take_append]
  change Except.ok (((ofUtf8? (utf8 name)).map ErrorField.ofName).getD ErrorField.other, rest) = _
  rw [ofUtf8?_utf8]
  rfl

theorem reads_addErrorField_kind {s : String} (h : (utf8 s).length < 2 ^ 32) :
    Reads (addErrorField .none) (ofText "kind" ++ ofText s) ⟨some s, none⟩ := by
  intro rest
  have hfield : ErrorField.ofName "kind" = .kind := by decide
  rw [List.append_assoc, addErrorField, reads_errorField (by decide), hfield]
  dsimp only
  rw [if_neg (by simp [ErrorFields.none]), reads_string h]
  rfl

theorem reads_addErrorField_message (kind : String) {s : String} (h : (utf8 s).length < 2 ^ 32) :
    Reads (addErrorField ⟨some kind, none⟩) (ofText "message" ++ ofText s)
      ⟨some kind, some s⟩ := by
  intro rest
  have hfield : ErrorField.ofName "message" = .message := by decide
  rw [List.append_assoc, addErrorField, reads_errorField (by decide), hfield]
  dsimp only
  rw [if_neg (by simp), reads_string h]
  rfl

theorem reads_remoteError {e : RemoteError} (hkind : (utf8 e.kind).length < 2 ^ 32)
    (hmessage : (utf8 e.message).length < 2 ^ 32) : Reads remoteError (ofError e) e := by
  intro rest
  have hfields : members addErrorField 2 .none
      (ofText "kind" ++ ofText e.kind ++ (ofText "message" ++ ofText e.message ++ rest)) =
        .ok (⟨some e.kind, some e.message⟩, rest) := by
    rw [members, reads_addErrorField_kind hkind]
    dsimp only
    rw [members, reads_addErrorField_message e.kind hmessage]
    rfl
  have hentries : ofError e ++ rest = mapHead 2 ++
      (ofText "kind" ++ ofText e.kind ++ (ofText "message" ++ ofText e.message ++ rest)) := by
    rw [ofError, ofEntries, List.append_assoc, List.flatMap_cons, List.flatMap_cons,
      List.flatMap_nil, List.append_nil, List.append_assoc]
    rfl
  rw [hentries, remoteError, head_mapHead (by decide)]
  change (members addErrorField 2 .none _ >>= fun p ↦
    p.1.complete.mapError .typeMismatch >>= fun e ↦ pure (e, p.2)) = _
  rw [hfields]
  rfl

end RpcTransport.MessagePack
