import RpcTransport.Proofs.MessagePack.Documents

/-!
# MessagePack readers decide on what they have seen

Given any octets, well formed or not, a reader has one of three answers (`Decided`). They are too
few, and it says that the stream has ended. Or it refuses them, and would do so whatever came after
them. Or some of them in front are a value, which it reads in the presence of anything. There is no
fourth case: no reader looks at how many octets are left, nor takes a value on account of the end of
its input.

Readers that go on one after the other decide if each of them does (`Decides.bind`), which carries
the law from heads through the loops to nested values. Two things follow for whoever cuts a stream
anywhere: a part of a document is never taken for a document (`Decides.endOfStream_of_cut`), and
a reader that succeeds has moved past the octets that it read and not further (`Decides.of_ok`).
-/

namespace RpcTransport.MessagePack

variable {α β : Type} {p : Parser α}

/-- What a reader answers to some octets, and to all longer ones. -/
inductive Decided (p : Parser α) : Bytes → Prop where
  | short {bs : Bytes} (h : p bs = .error .endOfStream) : Decided p bs
  | refused {bs : Bytes} {e : SerializationError} (h : ∀ more, p (bs ++ more) = .error e) :
    Decided p bs
  | read {octets : Bytes} {x : α} (h : Reads p octets x) (rest : Bytes) : Decided p (octets ++ rest)

def Decides (p : Parser α) : Prop := ∀ bs, Decided p bs

/-- **A part of what a reader reads is too short for it.** -/
theorem Decides.endOfStream_of_cut (hp : Decides p) {octets cut : Bytes} {x : α}
    (hread : Reads p octets x) (hcut : cut <+: octets) (hne : cut ≠ octets) :
    p cut = .error .endOfStream := by
  obtain ⟨more, rfl⟩ := hcut
  have hwhole : p (cut ++ more) = .ok (x, []) := by
    simpa using hread []
  cases hp cut with
  | short h => exact h
  | refused h => exact nomatch (h more).symm.trans hwhole
  | @read used y h rest =>
    -- The reader would have stopped within the part, and left the octets that were cut off.
    rw [List.append_assoc, h] at hwhole
    have hrest : rest ++ more = [] := (Prod.mk.inj (Except.ok.inj hwhole)).2
    rw [(List.append_eq_nil_iff.mp hrest).2, List.append_nil] at hne
    exact absurd rfl hne

/-- **A reader that succeeds has read the octets that are no longer left.** -/
theorem Decides.of_ok (hp : Decides p) {bs rest : Bytes} {x : α} (h : p bs = .ok (x, rest)) :
    ∃ octets, bs = octets ++ rest ∧ Reads p octets x := by
  cases hp bs with
  | short h' => exact nomatch h'.symm.trans h
  | refused h' =>
    have hrefused := h' []
    rw [List.append_nil] at hrefused
    exact nomatch hrefused.symm.trans h
  | @read octets y h' rest' =>
    obtain ⟨rfl, rfl⟩ := Prod.mk.inj (Except.ok.inj ((h' rest').symm.trans h))
    exact ⟨octets, rfl, h'⟩

/-! ## Readers one after the other -/

theorem reads_pure (x : α) : Reads (fun bs ↦ .ok (x, bs)) [] x := fun _ ↦ rfl

theorem decides_pure (x : α) : Decides fun bs ↦ .ok (x, bs) := fun bs ↦ .read (reads_pure x) bs

theorem decides_error (e : SerializationError) : Decides (α := α) fun _ ↦ .error e :=
  fun _ ↦ .refused fun _ ↦ rfl

/-- A reader that begins as `p`, and goes on in some way for each value that `p` has read. -/
theorem Decides.bind (hp : Decides p) {r : Parser β}
    (herror : ∀ {bs e}, p bs = .error e → r bs = .error e)
    (hok : ∀ x, ∃ q, Decides q ∧ ∀ {bs rest}, p bs = .ok (x, rest) → r bs = q rest) :
    Decides r := by
  intro bs
  cases hp bs with
  | short h => exact .short (herror h)
  | refused h => exact .refused fun more ↦ herror (h more)
  | @read octets x h rest =>
    obtain ⟨q, hq, hthen⟩ := hok x
    have hgoes (more : Bytes) : r (octets ++ more) = q more := hthen (h more)
    cases hq rest with
    | short h' => exact .short (by rw [hgoes, h'])
    | refused h' => exact .refused fun more ↦ by rw [List.append_assoc, hgoes, h']
    | @read octets' y h' rest' =>
      rw [← List.append_assoc]
      exact .read (fun more ↦ by rw [List.append_assoc, hgoes, h']) rest'

theorem Decides.map (hp : Decides p) (f : α → β) :
    Decides fun bs ↦ (p bs).map fun y ↦ (f y.1, y.2) :=
  hp.bind (fun h ↦ by rw [h]; rfl) fun x ↦ ⟨_, decides_pure (f x), fun h ↦ by rw [h]; rfl⟩

/-- A reader that takes one octet first. -/
theorem decides_octet (hnil : p [] = .error .endOfStream)
    (hcons : ∀ b, Decides fun rest ↦ p (b :: rest)) : Decides p := by
  intro bs
  cases bs with
  | nil => exact .short hnil
  | cons b rest =>
    cases hcons b rest with
    | short h => exact .short h
    | refused h => exact .refused h
    | @read octets x h rest =>
      have hreads : Reads p (b :: octets) x := h
      exact .read hreads rest

/-! ## Heads -/

theorem decides_take (n : Nat) : Decides (take n) := by
  intro bs
  by_cases hn : n ≤ bs.length
  · have hlength : (bs.take n).length = n := by
      rw [List.length_take, Nat.min_eq_left hn]
    have hread : Reads (take n) (bs.take n) (bs.take n) := by
      intro rest
      have h := take_append (bs.take n) rest
      rwa [hlength] at h
    have hdecided := Decided.read hread (bs.drop n)
    rwa [List.take_append_drop] at hdecided
  · refine .short ?_
    have hlength : (bs.take n).length ≠ n := by
      rw [List.length_take]
      omega
    rw [take, Bytes.splitAt?, if_neg hlength]

theorem decides_word (width : Nat) : Decides (word width) :=
  (decides_take width).bind (fun h ↦ by rw [word, h]) fun front ↦
    ⟨_, decides_pure (Bytes.ofBigEndian front), fun h ↦ by rw [word, h]⟩

theorem decides_size (e : Extent) : Decides (size e) := by
  cases e with
  | inline n => exact decides_pure n
  | counted width => exact decides_word width

theorem decides_operand (marker : Marker) : Decides (operand marker) := by
  cases marker with
  | null | reserved | bool | positive | negative => exact decides_pure _
  | unsigned width => exact (decides_word width).map fun n ↦ Head.unsigned (UInt64.ofNat n)
  | signed width =>
    exact (decides_word width).map fun n ↦ Head.signed (Int64.ofInt (complement width n))
  | float width => exact (decides_word width).map fun n ↦ Head.float (floatOfWord width n)
  | text e => exact (decides_size e).map Head.text
  | octets e => exact (decides_size e).map Head.octets
  | array e => exact (decides_size e).map Head.array
  | map e => exact (decides_size e).map Head.map
  | extension e => exact (decides_size e).map Head.extension

theorem decides_head : Decides head :=
  decides_octet rfl fun b ↦ decides_operand (.ofOctet b)

/-! ## Numbers, text and octets -/

theorem decides_textOf (n : Nat) : Decides (textOf n) := by
  refine (decides_take n).bind (fun h ↦ by rw [textOf, h]) fun front ↦ ?_
  cases htext : ofUtf8? front with
  | some s => exact ⟨_, decides_pure s, fun h ↦ by rw [textOf, h]; simp only [htext]⟩
  | none =>
    let fault := (Utf8.fault? front).map Utf8.Fault.message
    exact ⟨_, decides_error (.decode s!"string found to be invalid utf8: {fault.getD default}"),
      fun h ↦ by rw [textOf, h]; simp only [htext, fault]⟩

theorem decides_refuse (h : Head) (wanted : String) :
    Decides (α := α) fun bs ↦ refuse h wanted bs := by
  cases h with
  | text n =>
    exact (decides_textOf n).bind (fun h ↦ by rw [refuse, h]) fun s ↦
      ⟨_, decides_error (.typeMismatch s!"invalid type: string {s}, expected {wanted}"),
        fun h ↦ by rw [refuse, h]⟩
  | octets n =>
    exact (decides_take n).bind (fun h ↦ by rw [refuse, h]) fun _ ↦
      ⟨_, decides_error (mismatch (.octets n) wanted), fun h ↦ by rw [refuse, h]⟩
  | null | reserved | bool | unsigned | signed | float | array | map | extension =>
    exact decides_error _

theorem decides_wholeWithin (wanted : String) (lower upper : Int) :
    Decides (wholeWithin wanted lower upper) := by
  refine decides_octet rfl fun b ↦ ?_
  by_cases hnumeric : (Marker.ofOctet b).isNumeric = true
  · refine (decides_operand (.ofOctet b)).bind
      (fun h ↦ by rw [wholeWithin, if_pos hnumeric, h]) fun h ↦ ?_
    cases hwhole : h.whole? with
    | none =>
      exact ⟨_, decides_error (mismatch h wanted), fun hread ↦ by
        rw [wholeWithin, if_pos hnumeric, hread]; simp only [hwhole]⟩
    | some n =>
      by_cases hn : lower ≤ n ∧ n ≤ upper
      · exact ⟨_, decides_pure n, fun hread ↦ by
          rw [wholeWithin, if_pos hnumeric, hread]; simp only [hwhole, if_pos hn]⟩
      · exact ⟨_, decides_error (mismatch h wanted), fun hread ↦ by
          rw [wholeWithin, if_pos hnumeric, hread]; simp only [hwhole, if_neg hn]⟩
  · simp only [wholeWithin, if_neg hnumeric]
    exact decides_error _

theorem decides_stringAs (depth : Nat) (octetsToo : Bool) (wanted : String) :
    Decides (stringAs depth octetsToo wanted) := by
  refine decides_head.bind (fun h ↦ by rw [stringAs, h]) fun h ↦ ?_
  cases h with
  | text n => exact ⟨_, decides_textOf n, fun hread ↦ by rw [stringAs, hread]⟩
  | octets n =>
    refine ⟨_, ?_, fun hread ↦ by rw [stringAs, hread]⟩
    refine (decides_take n).bind (fun h ↦ by simp only [h]) fun front ↦ ?_
    cases octetsToo with
    | false => exact ⟨_, decides_error _, fun h ↦ by dsimp only; rw [h]⟩
    | true =>
      cases htext : ofUtf8? front with
      | some s => exact ⟨_, decides_pure s, fun h ↦ by simp only [h, htext]⟩
      | none => exact ⟨_, decides_error _, fun h ↦ by dsimp only; rw [h]; simp only [htext]; rfl⟩
  | null | reserved | bool | unsigned | signed | float | array | map | extension =>
    exact ⟨_, decides_error _, fun hread ↦ by rw [stringAs, hread]⟩

theorem decides_string : Decides string := decides_stringAs depthLimit true "a string"

theorem decides_byteString : Decides byteString := by
  refine decides_octet rfl fun b ↦ ?_
  cases hmarker : Marker.ofOctet b with
  | octets e =>
    exact (decides_size e).bind (fun h ↦ by simp only [byteString, hmarker, h]) fun n ↦
      ⟨_, decides_take n, fun h ↦ by simp only [byteString, hmarker, h]⟩
  | null | reserved | bool | positive | negative | unsigned | signed | float | text | array | map
  | extension =>
    simp only [byteString, hmarker]
    exact decides_error _

/-! ## Loops -/

theorem decides_elements {item : Parser α} (hitem : Decides item) (count : Nat) (done : List α) :
    Decides (elements item count done) := by
  induction count generalizing done with
  | zero => exact decides_pure done.reverse
  | succ count ih =>
    exact hitem.bind (fun h ↦ by rw [elements, h]) fun x ↦
      ⟨_, ih (x :: done), fun h ↦ by rw [elements, h]⟩

theorem decides_members {step : α → Parser α} (hstep : ∀ known, Decides (step known)) (count : Nat)
    (known : α) : Decides (members step count known) := by
  induction count generalizing known with
  | zero => exact decides_pure known
  | succ count ih =>
    exact (hstep known).bind (fun h ↦ by rw [members, h]) fun known' ↦
      ⟨_, ih known', fun h ↦ by rw [members, h]⟩

/-! ## Values -/

theorem decides_memberKey (depth : Nat) (first : Bool) : Decides (memberKey depth first) := by
  cases first with
  | true => exact decides_stringAs depth false _
  | false => exact decides_stringAs depth true _

section Values

variable {depth : Nat} {item nested : Parser Value}

theorem decides_addMember (hitem : Decides item) (depth : Nat) (first : Bool)
    (known : List (String × Value)) : Decides (addMember depth item first known) :=
  (decides_memberKey depth first).bind (fun h ↦ by rw [addMember, h]; rfl) fun key ↦
    ⟨_, hitem.map fun v ↦ insertEntry key v known, fun h ↦ by
      rw [addMember, h]
      rfl⟩

theorem decides_objectMembers (hitem : Decides item) (depth count : Nat) :
    Decides (objectMembers depth item count) := by
  cases count with
  | zero => exact decides_pure []
  | succ count =>
    exact (decides_addMember hitem depth true []).bind (fun h ↦ by rw [objectMembers, h])
      fun known ↦ ⟨_, decides_members (decides_addMember hitem depth false) count known,
        fun h ↦ by rw [objectMembers, h]⟩

theorem decides_valueWith (hnested : Decides nested) (depth : Nat) :
    Decides (valueWith depth nested) := by
  refine decides_head.bind (fun h ↦ by rw [valueWith, h]) fun h ↦ ?_
  cases h with
  | null | bool | unsigned | signed | float =>
    exact ⟨_, decides_pure _, fun hread ↦ by rw [valueWith, hread]⟩
  | text n =>
    exact ⟨_, (decides_textOf n).map Value.string, fun hread ↦ by rw [valueWith, hread]⟩
  | octets n =>
    exact ⟨_, decides_refuse (.octets n) anyValue, fun hread ↦ by
      rw [valueWith, hread]; cases depth <;> rfl⟩
  | reserved =>
    exact ⟨_, decides_error _, fun hread ↦ by rw [valueWith, hread]; cases depth <;> rfl⟩
  | array n =>
    cases depth with
    | zero => exact ⟨_, decides_error tooDeep, fun hread ↦ by rw [valueWith, hread]⟩
    | succ depth =>
      exact ⟨_, (decides_elements hnested n []).map Value.array, fun hread ↦ by
        rw [valueWith, hread]⟩
  | map n =>
    cases depth with
    | zero => exact ⟨_, decides_error tooDeep, fun hread ↦ by rw [valueWith, hread]⟩
    | succ depth =>
      exact ⟨_, (decides_objectMembers hnested depth n).map Value.object, fun hread ↦ by
        rw [valueWith, hread]⟩
  | extension n =>
    cases depth with
    | zero => exact ⟨_, decides_error tooDeep, fun hread ↦ by rw [valueWith, hread]⟩
    | succ depth => exact ⟨_, decides_error _, fun hread ↦ by rw [valueWith, hread]; rfl⟩

/-- **The reader of values decides**, however deep it may nest. -/
theorem decides_value (depth : Nat) : Decides (value depth) := by
  induction depth with
  | zero => exact decides_valueWith (decides_error tooDeep) 0
  | succ depth ih => exact decides_valueWith ih (depth + 1)

end Values

/-! ## Maps and errors -/

theorem decides_addTextEntry (known : TextMap) : Decides (addTextEntry known) :=
  decides_string.bind (fun h ↦ by rw [addTextEntry, h]; rfl) fun key ↦
    ⟨_, decides_string.map fun s ↦ known.insert key s, fun h ↦ by rw [addTextEntry, h]; rfl⟩

theorem decides_textMap : Decides textMap := by
  refine decides_head.bind (fun h ↦ by rw [textMap, h]) fun h ↦ ?_
  cases h with
  | map n =>
    exact ⟨_, decides_members decides_addTextEntry n .empty, fun hread ↦ by rw [textMap, hread]⟩
  | null | reserved | bool | unsigned | signed | float | text | octets | array | extension =>
    exact ⟨_, decides_refuse _ "a map", fun hread ↦ by rw [textMap, hread]⟩

theorem decides_skipWith {nested : Option (Parser Unit)} (h : ∀ item ∈ nested, Decides item) :
    Decides (skipWith nested) := by
  refine decides_head.bind (fun h ↦ by rw [skipWith, h]) fun head ↦ ?_
  cases head with
  | null | bool | unsigned | signed | float =>
    exact ⟨_, decides_pure (), fun hread ↦ by rw [skipWith, hread]⟩
  | reserved => exact ⟨_, decides_error _, fun hread ↦ by rw [skipWith, hread]⟩
  | text n | octets n =>
    exact ⟨_, (decides_take n).map fun _ ↦ (), fun hread ↦ by rw [skipWith, hread]⟩
  | extension n =>
    cases nested with
    | none => exact ⟨_, decides_error tooDeep, fun hread ↦ by rw [skipWith, hread]; rfl⟩
    | some item =>
      exact ⟨_, (decides_take (n + 1)).map fun _ ↦ (), fun hread ↦ by rw [skipWith, hread]; rfl⟩
  | array n =>
    cases nested with
    | none => exact ⟨_, decides_error tooDeep, fun hread ↦ by rw [skipWith, hread]⟩
    | some item =>
      exact ⟨_, decides_members (fun _ ↦ h item rfl) n (), fun hread ↦ by rw [skipWith, hread]⟩
  | map n =>
    cases nested with
    | none => exact ⟨_, decides_error tooDeep, fun hread ↦ by rw [skipWith, hread]⟩
    | some item =>
      have hpair : Decides (skipPair item) :=
        (h item rfl).bind (fun h ↦ by rw [skipPair, h]) fun _ ↦
          ⟨_, h item rfl, fun h ↦ by rw [skipPair, h]⟩
      exact ⟨_, decides_members (fun _ ↦ hpair) n (), fun hread ↦ by rw [skipWith, hread]⟩

theorem decides_skip (depth : Nat) : Decides (skip depth) := by
  induction depth with
  | zero => exact decides_skipWith nofun
  | succ depth ih => exact decides_skipWith fun _ hitem ↦ Option.some.inj hitem ▸ ih

theorem decides_errorField : Decides errorField := by
  refine decides_head.bind (fun h ↦ by rw [errorField, h]) fun h ↦ ?_
  cases h with
  | text n | octets n =>
    exact ⟨_, (decides_take n).map fun name ↦ ((ofUtf8? name).map ErrorField.ofName).getD .other,
      fun hread ↦ by rw [errorField, hread]⟩
  | unsigned n => exact ⟨_, decides_pure _, fun hread ↦ by rw [errorField, hread]⟩
  | null | reserved | bool | signed | float | array | map | extension =>
    exact ⟨_, decides_error _, fun hread ↦ by rw [errorField, hread]⟩

theorem decides_addErrorField (known : ErrorFields) : Decides (addErrorField known) := by
  refine decides_errorField.bind (fun h ↦ by rw [addErrorField, h]) fun field ↦ ?_
  cases field with
  | kind =>
    cases hsome : known.kind.isSome with
    | true =>
      exact ⟨_, decides_error _, fun hread ↦ by rw [addErrorField, hread]; simp only [hsome]; rfl⟩
    | false =>
      exact ⟨_, decides_string.map fun s ↦ { known with kind := some s }, fun hread ↦ by
        rw [addErrorField, hread]; simp only [hsome]; rfl⟩
  | message =>
    cases hsome : known.message.isSome with
    | true =>
      exact ⟨_, decides_error _, fun hread ↦ by rw [addErrorField, hread]; simp only [hsome]; rfl⟩
    | false =>
      exact ⟨_, decides_string.map fun s ↦ { known with message := some s }, fun hread ↦ by
        rw [addErrorField, hread]; simp only [hsome]; rfl⟩
  | other =>
    exact ⟨_, (decides_skip (depthLimit - 1)).map fun _ ↦ known,
      fun hread ↦ by rw [addErrorField, hread]⟩

theorem decides_errorElements (count : Nat) : Decides (errorElements count) := by
  match count with
  | 0 => exact decides_error _
  | 1 =>
    exact decides_string.bind (fun h ↦ by rw [errorElements, h]; rfl) fun _ ↦
      ⟨_, decides_error _, fun h ↦ by rw [errorElements, h]; rfl⟩
  | n + 2 =>
    refine decides_string.bind (fun h ↦ by rw [errorElements, h]; rfl) fun kind ↦
      ⟨fun rest ↦ string rest >>= fun q ↦
        if n = 0 then .ok (⟨kind, q.1⟩, q.2) else .error (.decode "array had incorrect length"),
        ?_, fun h ↦ by rw [errorElements, h]; rfl⟩
    refine decides_string.bind (fun h ↦ by rw [h]; rfl) fun message ↦ ?_
    by_cases hn : n = 0
    · exact ⟨_, decides_pure ⟨kind, message⟩, fun h ↦ by rw [h]; exact if_pos hn⟩
    · exact ⟨_, decides_error _, fun h ↦ by rw [h]; exact if_neg hn⟩

theorem decides_remoteError : Decides remoteError := by
  refine decides_head.bind (fun h ↦ by rw [remoteError, h]) fun h ↦ ?_
  cases h with
  | map n =>
    refine ⟨fun rest ↦ members addErrorField n .none rest >>= fun p ↦
      p.1.complete.mapError .typeMismatch >>= fun e ↦ pure (e, p.2), ?_,
      fun hread ↦ by rw [remoteError, hread]⟩
    refine (decides_members decides_addErrorField n .none).bind (fun h ↦ by rw [h]; rfl)
      fun fields ↦ ?_
    cases hcomplete : fields.complete.mapError SerializationError.typeMismatch with
    | error e =>
      exact ⟨_, decides_error e, fun h ↦ by
        rw [h]
        exact congrArg (· >>= fun e ↦ pure (e, _)) hcomplete⟩
    | ok e =>
      exact ⟨_, decides_pure e, fun h ↦ by
        rw [h]
        exact congrArg (· >>= fun e ↦ pure (e, _)) hcomplete⟩
  | array n => exact ⟨_, decides_errorElements n, fun hread ↦ by rw [remoteError, hread]⟩
  | null | reserved | bool | unsigned | signed | float | text | octets | extension =>
    exact ⟨_, decides_refuse _ "struct RemoteError", fun hread ↦ by rw [remoteError, hread]⟩

end RpcTransport.MessagePack
