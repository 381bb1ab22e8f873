import RpcTransport.Heartbeat
import RpcTransport.Proofs.Frame.RoundTrip

/-!
# Heartbeats and what registries remember

A heartbeat is told from an event by its body alone: it is one if the body is the null of its
backend, as the registry of the reader has it. A registry writes this null when it is first asked
for and remembers it, and it may be asked before the backend is there, between registrations and
while others are refused. What it says never depends on that (`Registry.Coherent`): a null is
remembered only for a backend that is there, and no backend is ever replaced. So two registries with
the same backend under an id agree on its null, and each knows the heartbeats of the other.
-/

namespace RpcTransport

namespace Registry

/-! ## Histories -/

inductive Call where
  | register (b : Backend)
  | null (id : UInt8)
  | isNull (id : UInt8) (body : Bytes)
  | get (id : UInt8)
  | encode (id : UInt8) (write : Format → Bytes)

/-- The registry after a call. -/
def after (r : Registry) : Call → Registry
  | .register b =>
    match r.register b with
    | .ok r => r
    | .error _ => r
  | .null id | .isNull id _ => r.remember id
  | .get _ | .encode _ _ => r

def afterAll (r : Registry) (calls : List Call) : Registry := calls.foldl after r

/-- Ids fit the header and are not shared, and what is remembered are the nulls of backends. -/
structure Coherent (r : Registry) : Prop where
  nodup : (r.backends.map (·.id)).Nodup
  le_maxId : ∀ b ∈ r.backends, b.id ≤ maxId
  null_of_lookup : ∀ id octets, r.nulls.lookup id = some octets →
    ∃ b, r.find? id = some b ∧ octets = b.null

variable {r r' : Registry}

theorem coherent_empty : empty.Coherent :=
  ⟨List.nodup_nil, List.forall_mem_nil _, fun _ _ h ↦ nomatch h⟩

theorem coherent_standard : standard.Coherent :=
  ⟨by decide, by decide, fun _ _ h ↦ nomatch h⟩

/-! ## Backends -/

theorem id_of_find? {id : UInt8} {b : Backend} (h : r.find? id = some b) :
    b.id = id ∧ b ∈ r.backends := by
  refine ⟨?_, List.mem_of_find?_eq_some h⟩
  simpa using List.find?_some h

theorem register_eq_ok {b : Backend} (h : r.register b = .ok r') :
    b.id ≤ maxId ∧ r.contains b.id = false ∧ r' = { r with backends := r.backends ++ [b] } := by
  rw [register] at h
  split at h
  · exact nomatch h
  · next hle =>
    split at h
    · exact nomatch h
    · next hfree =>
      exact ⟨UInt8.not_lt.mp hle, by simpa using hfree, (Except.ok.inj h).symm⟩

/-- Asked for a null, a registry remembers it if there is a backend, and if it has not before. -/
theorem remember_cases (r : Registry) (id : UInt8) :
    r.remember id = r ∨ ∃ b, r.find? id = some b ∧ r.nulls.lookup id = none ∧
      r.remember id = { r with nulls := r.nulls ++ [(id, b.null)] } := by
  rw [remember, null]
  cases hlookup : r.nulls.lookup id with
  | some octets => exact .inl rfl
  | none =>
    rw [encode, get]
    cases hfound : r.find? id with
    | none => exact .inl rfl
    | some b => exact .inr ⟨b, rfl, rfl, rfl⟩

/-- **No backend is replaced.** -/
theorem find?_after {id : UInt8} {b : Backend} (h : r.find? id = some b) (call : Call) :
    (r.after call).find? id = some b := by
  cases call with
  | register b' =>
    rw [after]
    split
    · next r' hregister =>
      obtain ⟨-, -, rfl⟩ := register_eq_ok hregister
      rw [find?, List.find?_append]
      exact congrArg (Option.or · _) h
    · exact h
  | null id' | isNull id' _ =>
    rcases r.remember_cases id' with heq | ⟨b', -, -, heq⟩
    · rw [after, heq]
      exact h
    · rw [after, heq]
      exact h
  | get | encode => exact h

theorem find?_afterAll {id : UInt8} {b : Backend} (h : r.find? id = some b) (calls : List Call) :
    (r.afterAll calls).find? id = some b := by
  induction calls generalizing r with
  | nil => exact h
  | cons call calls ih => exact ih (find?_after h call)

/-! ## What every history keeps -/

theorem Coherent.register (h : r.Coherent) {b : Backend} (hregister : r.register b = .ok r') :
    r'.Coherent := by
  obtain ⟨hle, hfree, rfl⟩ := register_eq_ok hregister
  refine ⟨?_, ?_, ?_⟩
  · rw [List.map_append, List.map_singleton]
    refine List.nodup_append.mpr ⟨h.nodup, List.pairwise_singleton _ _, ?_⟩
    rintro id hid _ hmem rfl
    obtain ⟨b', hb', heq⟩ := List.mem_map.mp hid
    rw [List.mem_singleton] at hmem
    rw [contains, Option.isSome_eq_false_iff, Option.isNone_iff_eq_none, find?,
      List.find?_eq_none] at hfree
    exact hfree b' hb' (decide_eq_true (heq.trans hmem))
  · intro b' hb'
    rcases List.mem_append.mp hb' with hold | hnew
    · exact h.le_maxId b' hold
    · rw [List.mem_singleton.mp hnew]
      exact hle
  · intro id octets hlookup
    obtain ⟨b', hfound, hnull⟩ := h.null_of_lookup id octets hlookup
    refine ⟨b', ?_, hnull⟩
    rw [find?, List.find?_append]
    exact congrArg (Option.or · _) hfound

theorem Coherent.remember (h : r.Coherent) (id : UInt8) : (r.remember id).Coherent := by
  rcases r.remember_cases id with heq | ⟨b, hfound, hlookup, heq⟩
  · rw [heq]
    exact h
  · rw [heq]
    refine ⟨h.nodup, h.le_maxId, fun id' octets hfound' ↦ ?_⟩
    rw [List.lookup_append] at hfound'
    cases hold : r.nulls.lookup id' with
    | some known =>
      rw [hold] at hfound'
      exact h.null_of_lookup id' octets (hold.trans hfound')
    | none =>
      rw [hold, Option.none_or, List.lookup_cons] at hfound'
      split at hfound'
      · next heq' =>
        obtain rfl := eq_of_beq heq'
        exact ⟨b, hfound, (Option.some.inj hfound').symm⟩
      · exact nomatch hfound'

theorem Coherent.after (h : r.Coherent) (call : Call) : (r.after call).Coherent := by
  cases call with
  | register b =>
    rw [Registry.after]
    split
    · next hregister => exact h.register hregister
    · exact h
  | null id | isNull id _ => exact h.remember id
  | get | encode => exact h

theorem Coherent.afterAll (h : r.Coherent) (calls : List Call) : (r.afterAll calls).Coherent := by
  induction calls generalizing r with
  | nil => exact h
  | cons call calls ih => exact ih (h.after call)

/-- **A null is what the backend writes**, whether it is remembered or not. -/
theorem Coherent.nullOctets_eq (h : r.Coherent) (id : UInt8) :
    r.nullOctets id = r.encode id fun f ↦ f.writeValue .null := by
  rw [nullOctets, null]
  cases hlookup : r.nulls.lookup id with
  | some octets =>
    obtain ⟨b, hfound, rfl⟩ := h.null_of_lookup id octets hlookup
    rw [encode, get, hfound]
    rfl
  | none =>
    dsimp only
    cases r.encode id fun f ↦ f.writeValue .null <;> rfl

theorem Coherent.nullOctets_of_find? (h : r.Coherent) {id : UInt8} {b : Backend}
    (hfound : r.find? id = some b) : r.nullOctets id = .ok b.null := by
  rw [h.nullOctets_eq, encode, get, hfound]
  rfl

/-- A call that is refused changes nothing. -/
theorem after_register_of_error {b : Backend} {e : SerializationError}
    (h : r.register b = .error e) : r.after (.register b) = r := by
  rw [after, h]

end Registry

/-! ## Heartbeats on the wire -/

namespace Frame

/-- A frame can be written, and however its octets are cut, the reader gives one frame, of which
something is true. -/
def Arrives (sent : Frame) (writeLimit readLimit : Nat) (registry : Registry)
    (P : Frame → Prop) : Prop :=
  ∃ wire, sent.encode writeLimit = .ok wire ∧
    ∀ chunks : List Bytes, chunks.flatten = wire →
      ∃ d got, FrameReader.readChunks registry (.ofLimit readLimit) chunks = some d ∧
        d.frames = [got] ∧ d.refusal = none ∧ P got

theorem arrives_of_received {sent : Frame} {writeLimit readLimit : Nat} {registry : Registry}
    {P : Frame → Prop} (hwrite : sent.body.octets.length ≤ clampLimit writeLimit)
    (hread : sent.body.octets.length ≤ clampLimit readLimit)
    (h : ∀ got, Received registry sent got → P got) :
    sent.Arrives writeLimit readLimit registry P := by
  refine ⟨_, encode_of_le hwrite, fun chunks hchunks ↦ ?_⟩
  obtain ⟨d, got, hd, hframes, hrefusal, hgot⟩ := readChunks_singleton registry hread hchunks
  exact ⟨d, got, hd, hframes, hrefusal, h got hgot⟩

end Frame

namespace Heartbeat

open Registry (Coherent Call)
open RpcTransport.Frame (Received)

private theorem masked_of_le : ∀ n : Fin 256, n ≤ 31 →
    (UInt8.ofNat n &&& 0x1f).toNat = n ∧ n.val % 32 = n.val := by
  decide +kernel

/-- The ids of backends fit the header. -/
theorem masked_of_find? {r : Registry} (h : r.Coherent) {s : UInt8} {b : Backend}
    (hfound : r.find? s = some b) : s &&& 0x1f = s ∧ s.toNat % 32 = s.toNat := by
  obtain ⟨rfl, hmem⟩ := Registry.id_of_find? hfound
  obtain ⟨hand, hmod⟩ := masked_of_le ⟨b.id.toNat, b.id.toNat_lt⟩ (h.le_maxId b hmem)
  rw [UInt8.ofNat_toNat] at hand
  exact ⟨UInt8.toNat_inj.mp hand, hmod⟩

/-- **An event with the null of its backend is read as a heartbeat.** -/
theorem received_null {r : Registry} (h : r.Coherent) {s : UInt8} {b : Backend}
    (hfound : r.find? s = some b) {sent got : Frame} (hgot : Received r sent got)
    (hevent : sent.isEvent = true) (hserialization : sent.serialization = s)
    (hnull : sent.body.octets = b.null) : got.isHeartbeat = true ∧ got.serialization = s := by
  have hsame : got.serialization = s := by
    refine UInt8.toNat_inj.mp ?_
    rw [hgot.serialization, hserialization, (masked_of_find? h hfound).2]
  refine ⟨hgot.isHeartbeat.mpr ⟨hevent, .inr ?_⟩, hsame⟩
  rw [hsame, hnull, h.nullOctets_of_find? hfound]

theorem probe_eq {r : Registry} (h : r.Coherent) {s : UInt8} {b : Backend}
    (hfound : r.find? s = some b) (id : UInt64) :
    probe r id s = .ok (.heartbeatRequest id s (.detached b.null)) := by
  rw [probe, h.nullOctets_of_find? hfound]
  rfl

theorem answer_eq {r : Registry} (h : r.Coherent) {f : Frame} {b : Backend}
    (hfound : r.find? f.serialization = some b) :
    answer r f = .ok (.heartbeatResponse f.id f.serialization (.detached b.null)) := by
  rw [answer, h.nullOctets_of_find? hfound]
  rfl

/-- **Heartbeats stay recognisable**, whatever either registry was asked before and between. -/
theorem recognised_after_any_history {r₁ r₂ : Registry} (h₁ : r₁.Coherent) (h₂ : r₂.Coherent)
    (calls₁ calls₂ : List Call) :
    ((r₁.afterAll calls₁).Coherent ∧
      (∀ s, (r₁.afterAll calls₁).nullOctets s =
        (r₁.afterAll calls₁).encode s fun f ↦ f.writeValue .null) ∧
      ∀ b e, (r₁.afterAll calls₁).register b = .error e →
        r₁.afterAll (calls₁ ++ [.register b]) = r₁.afterAll calls₁) ∧
    ∀ (s : UInt8) (b : Backend), (r₁.afterAll calls₁).find? s = some b →
      (r₂.afterAll calls₂).find? s = some b →
      ∀ (id : UInt64) (limit₁ limit₂ : Nat), b.null.length ≤ Frame.clampLimit limit₁ →
      b.null.length ≤ Frame.clampLimit limit₂ →
      ∃ probe, Heartbeat.probe (r₁.afterAll calls₁) id s = .ok probe ∧
        probe.Arrives limit₁ limit₂ (r₂.afterAll calls₂) fun heard ↦
          heard.isHeartbeat = true ∧ heard.isRequest = true ∧ heard.id = id ∧
          heard.serialization = s ∧
          ∀ later₁ later₂, ∃ answer,
            Heartbeat.answer (r₂.afterAll (calls₂ ++ later₂)) heard = .ok answer ∧
            answer.Arrives limit₂ limit₁ (r₁.afterAll (calls₁ ++ later₁)) fun got ↦
              got.isHeartbeat = true ∧ got.isRequest = false ∧ got.id = id ∧
              got.serialization = s := by
  refine ⟨⟨h₁.afterAll calls₁, (h₁.afterAll calls₁).nullOctets_eq, ?_⟩, ?_⟩
  · intro b e hrefused
    rw [Registry.afterAll, List.foldl_append]
    exact Registry.after_register_of_error hrefused
  · intro s b hfound₁ hfound₂ id limit₁ limit₂ hlimit₁ hlimit₂
    have hmasked := (masked_of_find? (h₁.afterAll calls₁) hfound₁).1
    refine ⟨_, probe_eq (h₁.afterAll calls₁) hfound₁ id, ?_⟩
    refine Frame.arrives_of_received hlimit₁ hlimit₂ fun heard hheard ↦ ?_
    obtain ⟨hheartbeat, hsame⟩ :=
      received_null (h₂.afterAll calls₂) hfound₂ hheard rfl hmasked rfl
    refine ⟨hheartbeat, hheard.isRequest, hheard.id, hsame, fun later₁ later₂ ↦ ?_⟩
    -- No backend has been replaced meanwhile.
    have hstill₁ : (r₁.afterAll (calls₁ ++ later₁)).find? s = some b := by
      rw [Registry.afterAll, List.foldl_append]
      exact Registry.find?_afterAll hfound₁ later₁
    have hstill₂ : (r₂.afterAll (calls₂ ++ later₂)).find? heard.serialization = some b := by
      rw [hsame, Registry.afterAll, List.foldl_append]
      exact Registry.find?_afterAll hfound₂ later₂
    refine ⟨_, answer_eq (h₂.afterAll _) hstill₂, ?_⟩
    refine Frame.arrives_of_received hlimit₂ hlimit₁ fun got hgot ↦ ?_
    have hmasked' : heard.serialization &&& 0x1f = s := by rw [hsame, hmasked]
    obtain ⟨hheartbeat', hsame'⟩ := received_null (h₁.afterAll _) hstill₁ hgot rfl hmasked' rfl
    exact ⟨hheartbeat', hgot.isRequest, hgot.id.trans hheard.id, hsame'⟩

/-- One end asks for the null before the backend is there, and both try to register too much. -/
theorem recognised_after_refusals :
    let b : Backend := ⟨9, "alias", "text/alias", .json⟩
    let calls₁ : List Call := [.null 9, .isNull 9 [], .register b, .register b, .null 9]
    let calls₂ : List Call := [.register ⟨0x20, "wide", "text/wide", .json⟩, .register b, .get 9]
    (Registry.empty.Coherent ∧ Registry.standard.Coherent) ∧
    (Registry.empty.afterAll calls₁).Coherent ∧
    (Registry.empty.afterAll calls₁).find? 9 = some b ∧
    (Registry.standard.afterAll calls₂).find? 9 = some b ∧
    ∃ probe, Heartbeat.probe (Registry.empty.afterAll calls₁) 7 9 = .ok probe ∧
      probe.Arrives 5 8 (Registry.standard.afterAll calls₂) fun heard ↦
        heard.isHeartbeat = true ∧ heard.isRequest = true ∧ heard.id = 7 ∧
        heard.serialization = 9 ∧
        ∀ later₁ later₂, ∃ answer,
          Heartbeat.answer (Registry.standard.afterAll (calls₂ ++ later₂)) heard = .ok answer ∧
          answer.Arrives 8 5 (Registry.empty.afterAll (calls₁ ++ later₁)) fun got ↦
            got.isHeartbeat = true ∧ got.isRequest = false ∧ got.id = 7 ∧
            got.serialization = 9 := by
  intro b calls₁ calls₂
  obtain ⟨⟨hcoherent, -, -⟩, hrecognised⟩ := recognised_after_any_history
    Registry.coherent_empty Registry.coherent_standard calls₁ calls₂
  exact ⟨⟨Registry.coherent_empty, Registry.coherent_standard⟩, hcoherent, rfl, rfl,
    hrecognised 9 b rfl rfl 7 5 8 (by decide) (by decide)⟩

end Heartbeat

end RpcTransport
