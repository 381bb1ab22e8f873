import RpcTransport.Arena
import RpcTransport.Proofs.Serialization.Replay
import RpcTransport.Proofs.Serialization.Results

/-!
# Bodies of results

Two laws of the bodies that carry results. A result comes back from its body (`ofBody_toBody`),
whatever its outcome, whether it has attachments, and in whatever order these were written
(`ofBody_toBodyAs`). And the tag, which is read first, rules over the rest: a tag of 6 or more is
refused before anything else is looked at (`ofBody_of_unknown_tag`), and what is returned for one of
the other six has the outcome that the tag names, and attachments only if the tag admits them
(`Obeys`).

The first law is about the results that the format can tell (`CarriesResult`): it is a matter of the
numbers and the nesting of a value, and nothing else in JSON. MessagePack puts the size of each text
and each container into four octets, so there they have to fit.
-/

namespace RpcTransport

/-- A result that a format gives back. Its value nests at most 127 containers in JSON and 1023 in
MessagePack, and in JSON its numbers are whole (every `Number` is finite, and a whole one is within
a signed or an unsigned word). An error and attachments may be any; only MessagePack tells the sizes
of their texts, in four octets. -/
structure Format.CarriesResult (f : Format) (r : CallResult) : Prop where
  value : ∀ v, r.outcome = .value v → f.Carries v
  error : ∀ e, r.outcome = .error e → f.CarriesItem (.error e)
  attachments : f.CarriesItem (.map r.attachments)

namespace CallResult

variable {registry : Registry} {id : UInt8} {b : Backend} {f : Format} {r : CallResult}
  {entries : List (String × String)} {tag : UInt8} {body left : Bytes}

/-! ## A result comes back -/

/-- `toBody` of a result whose attachments are iterated in this order. A body that is built here is
not counted in any arena. -/
def toBodyAs (r : CallResult) (registry : Registry) (id : UInt8)
    (entries : List (String × String)) : Except SerializationError Body :=
  (registry.encode id fun f ↦ r.writeAs f entries).map Body.detached

theorem toBody_eq_toBodyAs (r : CallResult) (registry : Registry) (id : UInt8) :
    (r.toBody registry id).map Body.detached =
      r.toBodyAs registry id r.attachments.entries := rfl

theorem ofBody_eq (hget : registry.get id = .ok b) (body : Bytes) :
    ofBody registry id body = ((read b.format).runOn body).1 := by
  rw [ofBody, hget]
  rfl

theorem reads_writeAs (hentries : entries.Perm r.attachments.entries) (h : f.CarriesResult r) :
    f.Reads (read f) (r.writeAs f entries) r := by
  have htag := r.tag_spec.2.1
  refine reads_parts ?_ fun _ ↦ f.reads_map hentries fun hf ↦ ?_
  · rw [readOutcome, htag]
    cases houtcome : r.outcome with
    | error e => exact (f.reads_error (h.error e houtcome)).map Outcome.error
    | value v => exact (f.reads_value (h.value v houtcome)).map Outcome.value
    | null => exact f.reads_pure Outcome.null
  · obtain ⟨hcount, hsized⟩ := h.attachments hf
    exact ⟨hentries.length_eq ▸ hcount, fun e he ↦ hsized e (hentries.mem_iff.mp he)⟩

theorem ofBody_toBodyAs (hget : registry.get id = .ok b)
    (hentries : entries.Perm r.attachments.entries) (h : b.format.CarriesResult r) :
    ∃ body, r.toBodyAs registry id entries = .ok body ∧ body.tracked = false ∧
      ofBody registry id body.octets = .ok r := by
  refine ⟨.detached (r.writeAs b.format entries), ?_, rfl, ?_⟩
  · rw [toBodyAs, Registry.encode, hget]
    rfl
  · obtain ⟨left, hread, -⟩ := reads_writeAs hentries h [] _ (.inl (List.append_nil _).symm)
    rw [ofBody_eq hget, Body.detached, hread]

theorem ofBody_toBody (hget : registry.get id = .ok b) (h : b.format.CarriesResult r) :
    ∃ octets, r.toBody registry id = .ok octets ∧ ofBody registry id octets = .ok r := by
  obtain ⟨body, hbody, -, hback⟩ := ofBody_toBodyAs hget (.refl r.attachments.entries) h
  rw [← toBody_eq_toBodyAs] at hbody
  cases hoctets : r.toBody registry id with
  | error e =>
    rw [hoctets] at hbody
    cases hbody
  | ok octets =>
    rw [hoctets] at hbody
    obtain rfl := Except.ok.inj hbody
    exact ⟨octets, rfl, hback⟩

/-! ## The tag rules -/

/-- A result has the outcome that a tag names, and attachments only if the tag admits them. -/
structure Obeys (r : CallResult) (tag : UInt8) : Prop where
  known : tag < 6
  outcome : Outcome.tag r.outcome = tag % 3
  attachments : tag < 3 → r.attachments = .empty

theorem read_of_unknown_tag (hread : f.readOctet.runOn body = (.ok tag, left)) (htag : 6 ≤ tag) :
    (read f).runOn body = (.error (.decode s!"unknown result kind {tag.toNat}"), left) := by
  rw [read, Reader.runOn_bind_ok hread, if_pos (show 2 * attachmentsTag ≤ tag from htag)]
  rfl

theorem ofBody_of_unknown_tag (hget : registry.get id = .ok b)
    (hread : b.format.readOctet.runOn body = (.ok tag, left)) (htag : 6 ≤ tag) :
    ofBody registry id body = .error (.decode s!"unknown result kind {tag.toNat}") := by
  rw [ofBody_eq hget, read_of_unknown_tag hread htag]

theorem tag_of_readOutcome {outcome : Outcome} {rest : Bytes}
    (h : (readOutcome f tag).runOn body = (.ok outcome, rest)) :
    Outcome.tag outcome = tag % 3 := by
  rw [readOutcome] at h
  split at h
  · next hzero =>
    obtain ⟨e, _, _, hpure⟩ := Reader.exists_of_runOn_bind h
    cases hpure
    exact hzero.symm
  · split at h
    · next hone =>
      obtain ⟨v, _, _, hpure⟩ := Reader.exists_of_runOn_bind h
      cases hpure
      exact hone.symm
    · next hzero hone =>
      cases h
      -- The one remainder by three that is left.
      have hlt : tag % 3 < 3 := UInt8.mod_lt tag (by decide)
      rw [attachmentsTag] at hzero hone
      rw [Outcome.tag]
      grind

theorem obeys_of_read {rest : Bytes} (h : (read f).runOn body = (.ok r, rest)) :
    ∃ tag left, f.readOctet.runOn body = (.ok tag, left) ∧ r.Obeys tag := by
  obtain ⟨tag, left, htag, h⟩ := Reader.exists_of_runOn_bind h
  refine ⟨tag, left, htag, ?_⟩
  dsimp only at h
  split at h
  · exact nomatch h
  · next hknown =>
    obtain ⟨outcome, middle, houtcome, h⟩ := Reader.exists_of_runOn_bind h
    have hobeys := tag_of_readOutcome houtcome
    split at h
    · next hmore =>
      obtain ⟨attachments, last, -, h⟩ := Reader.exists_of_runOn_bind h
      cases h
      exact ⟨UInt8.not_le.mp hknown, hobeys, fun hlt ↦ absurd hmore (UInt8.not_le.mpr hlt)⟩
    · cases h
      exact ⟨UInt8.not_le.mp hknown, hobeys, fun _ ↦ rfl⟩

theorem obeys_of_ofBody (hget : registry.get id = .ok b) (h : ofBody registry id body = .ok r) :
    ∃ tag left, b.format.readOctet.runOn body = (.ok tag, left) ∧ r.Obeys tag := by
  rw [ofBody_eq hget] at h
  exact obeys_of_read (Prod.ext h rfl)

/-! ## Both laws -/

/-- **Results come back from their bodies, and the tag rules.** With either backend, every result
that its format can tell is given a body, and this body gives back the result. It is a body that is
not counted, and the same holds of those in which the attachments stand in another order. A body
whose first value is an octet of 6 or more gives a decoding error, whatever follows. And every
result that a body gives has the outcome named by the remainder by three of the tag that was read,
which is below 6, and no attachments if it is below 3. -/
theorem bodies_of_results (hget : registry.get id = .ok b) :
    (∀ r, b.format.CarriesResult r →
      ∃ octets, r.toBody registry id = .ok octets ∧ ofBody registry id octets = .ok r) ∧
    (∀ r : CallResult, (r.toBody registry id).map Body.detached =
      r.toBodyAs registry id r.attachments.entries) ∧
    (∀ r entries, entries.Perm r.attachments.entries → b.format.CarriesResult r →
      ∃ body, r.toBodyAs registry id entries = .ok body ∧ body.tracked = false ∧
        ofBody registry id body.octets = .ok r) ∧
    (∀ body tag left, b.format.readOctet.runOn body = (.ok tag, left) → 6 ≤ tag →
      ofBody registry id body = .error (.decode s!"unknown result kind {tag.toNat}")) ∧
    ∀ body r, ofBody registry id body = .ok r →
      ∃ tag left, b.format.readOctet.runOn body = (.ok tag, left) ∧ r.Obeys tag :=
  ⟨fun _ ↦ ofBody_toBody hget, fun r ↦ r.toBody_eq_toBodyAs registry id,
    fun _ _ ↦ ofBody_toBodyAs hget, fun _ _ _ ↦ ofBody_of_unknown_tag hget,
    fun _ _ ↦ obeys_of_ofBody hget⟩

/-- In JSON: an error with its attachments written the other way round, a body that begins with 6,
and a null result with an attachment. -/
theorem bodies_of_results_json :
    let error : CallResult :=
      ⟨.error ⟨"Code", "no \"such\" key"⟩, .ofList [("a", "1"), ("b", "2")]⟩
    Registry.standard.get 6 = .ok .json ∧
    (∃ octets, error.toBody .standard 6 = .ok octets ∧
      ofBody .standard 6 octets = .ok error) ∧
    (∃ body, error.toBodyAs .standard 6 [("b", "2"), ("a", "1")] = .ok body ∧
      body.tracked = false ∧ ofBody .standard 6 body.octets = .ok error) ∧
    ofBody .standard 6 (Bytes.ofAscii "6 null") = .error (.decode "unknown result kind 6") ∧
    ∃ tag left, Format.json.readOctet.runOn (Bytes.ofAscii "5\n\x7b\"a\":\"1\"\x7d") =
        (.ok tag, left) ∧
      (CallResult.mk .null (.ofList [("a", "1")])).Obeys tag := by
  intro error
  have hget : Registry.standard.get 6 = .ok .json := rfl
  obtain ⟨hback, -, hreordered, hunknown, hobeys⟩ := bodies_of_results hget
  have hcarries : Format.json.CarriesResult error := ⟨nofun, fun _ _ ↦ nofun, nofun⟩
  exact ⟨hget, hback error hcarries, hreordered error _ (.swap _ _ _) hcarries,
    hunknown _ 6 (Bytes.ofAscii " null") rfl (by decide), hobeys _ _ rfl⟩

end CallResult

end RpcTransport
