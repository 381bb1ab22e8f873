import RpcTransport.Proofs.Frame.Grammar

/-!
# Reading a stream in chunks

A reader is fed chunk by chunk, and after each chunk it is asked for frames until it has none to
give. However the stream was cut, it gives the frames of `Frame.parse` and comes to the same end.

## The remembered size

A reader that has seen a header keeps the size of its frame, and later calls trust the size without
looking at the length field again. It is the size that the buffer still announces: octets are only
added behind the header, and the frame is taken out in the call that forgets the size. This is
`Coherent`, and under it a call of `decode` is one step of the grammar.
-/

open RpcTransport.Frame

namespace RpcTransport

namespace FrameReader

/-! ## Draining -/

/-- What came of asking a reader for frames. -/
structure Drained where
  frames : List Frame
  /-- The error of the last call, if it ended in one. -/
  refusal : Option CodecError
  reader : FrameReader
deriving DecidableEq, Repr

/-- Ask for frames until a call gives none or an error. None if that takes more than `fuel` calls.
-/
def drainFor (registry : Registry) : (fuel : Nat) → FrameReader → Option Drained
  | 0, _ => none
  | fuel + 1, r =>
    match r.decode registry with
    | (.error e, r) => some ⟨[], some e, r⟩
    | (.ok none, r) => some ⟨[], none, r⟩
    | (.ok (some f), r) =>
      (drainFor registry fuel r).map fun d ↦ { d with frames := f :: d.frames }

/-- A frame takes an octet at least, so there are fewer frames than calls. -/
def drain (registry : Registry) (r : FrameReader) : Option Drained :=
  r.drainFor registry (r.buffer.length + 1)

/-- Feed the next chunk and drain the reader. -/
def Drained.next (registry : Registry) (d : Drained) (chunk : Bytes) : Option Drained :=
  ((d.reader.feed chunk).drain registry).map fun e ↦ { e with frames := d.frames ++ e.frames }

/-- Feed all chunks, draining the reader after each. -/
def readChunks (registry : Registry) (r : FrameReader) (chunks : List Bytes) : Option Drained :=
  chunks.foldlM (Drained.next registry) ⟨[], none, r⟩

/-- How far a reader came, in the words of the grammar. -/
def Drained.ending (d : Drained) : Option StreamEnd :=
  match d.refusal with
  | none => some (if d.reader.buffer = [] then .done else .incomplete)
  | some (.unknownProtocol _ _) => some .unknownProtocol
  | some (.payloadTooLarge size limit) => some (.payloadTooLarge size limit)
  | some (.io _) => none

/-! ## One call -/

/-- The limit is the clamped one, and a size that is remembered is the one announced. -/
structure Coherent (limit : Nat) (r : FrameReader) : Prop where
  limit_eq : r.limit = min limit (2 ^ 32 - 1)
  awaited : ∀ n, r.awaited = some n → 16 ≤ r.buffer.length ∧ n = 16 + announcedSize r.buffer

theorem coherent_ofLimit (limit : Nat) : Coherent limit (.ofLimit limit) :=
  ⟨rfl, fun _ h ↦ nomatch h⟩

theorem Coherent.feed {limit : Nat} {r : FrameReader} (h : Coherent limit r) (chunk : Bytes) :
    Coherent limit (r.feed chunk) := by
  refine ⟨h.limit_eq, fun n hn ↦ ?_⟩
  obtain ⟨hlen, rfl⟩ := h.awaited n hn
  refine ⟨?_, ?_⟩
  · rw [FrameReader.feed, List.length_append]
    omega
  · rw [FrameReader.feed, announcedSize_append hlen]

private theorem magic_take_length (s : Bytes) :
    magic.take (s.take 2).length = [0xda, 0xbb].take s.length := by
  match s with
  | [] | [_] => rfl
  | _ :: _ :: _ => simp [magic]

private theorem length_take_header (s : Bytes) :
    (s.take headerSize).length = min 16 s.length := List.length_take

theorem checkHeader_of_foreign {s : Bytes} (limit : Nat)
    (h : s.take 2 ≠ [0xda, 0xbb].take s.length) :
    ∃ first second, checkHeader limit s = .error (.unknownProtocol first second) := by
  rw [checkHeader, if_pos (by rwa [magic_take_length])]
  exact ⟨_, _, rfl⟩

theorem checkHeader_of_large {s : Bytes} {limit : Nat} (h : s.take 2 = [0xda, 0xbb].take s.length)
    (hlen : 16 ≤ s.length) (hsize : limit < announcedSize s) :
    checkHeader limit s = .error (.payloadTooLarge (announcedSize s) limit) := by
  rw [checkHeader, if_neg (by rw [magic_take_length]; exact not_not.mpr h), if_pos]
  rw [length_take_header, headerSize]
  exact ⟨by omega, hsize⟩

theorem checkHeader_of_fitting {s : Bytes} {limit : Nat}
    (h : s.take 2 = [0xda, 0xbb].take s.length) (hsize : 16 ≤ s.length → announcedSize s ≤ limit) :
    checkHeader limit s = .ok () := by
  rw [checkHeader, if_neg (by rw [magic_take_length]; exact not_not.mpr h), if_neg]
  rw [length_take_header, headerSize]
  omega

theorem Coherent.frameSize?_of_short {limit : Nat} {r : FrameReader} (h : Coherent limit r)
    (hlen : r.buffer.length < 16) : r.frameSize? = none := by
  rw [frameSize?]
  split
  · next n hn => exact absurd (h.awaited n hn).1 (by omega)
  · rw [if_neg]
    rw [length_take_header, headerSize]
    omega

/-- Whether it was remembered or is read now, the size is the announced one. -/
theorem Coherent.frameSize?_eq {limit : Nat} {r : FrameReader} (h : Coherent limit r)
    (hlen : 16 ≤ r.buffer.length) : r.frameSize? = some (16 + announcedSize r.buffer) := by
  rw [frameSize?]
  split
  · next n hn => rw [(h.awaited n hn).2]
  · rw [if_pos]
    · rfl
    rw [length_take_header, headerSize]
    omega

/-- **A frame of the grammar is a frame of the reader.** The size is forgotten with it. -/
theorem Coherent.decode_of_frame {limit : Nat} {r : FrameReader} (h : Coherent limit r)
    (registry : Registry) {octets rest : Bytes}
    (hitem : nextItem limit r.buffer = .frame octets rest) :
    r.decode registry =
      (.ok (some (ofOctets registry octets)), { r with awaited := none, buffer := rest }) := by
  obtain ⟨hbuffer, hwhole⟩ := isWhole_of_nextItem hitem
  have hlen := hwhole.headerSize_le
  have hsame : announcedSize r.buffer = announcedSize octets := by
    rw [hbuffer, announcedSize_append hlen]
  have hlen' : 16 ≤ r.buffer.length := by rw [hbuffer, List.length_append]; omega
  have hne : ¬r.buffer.isEmpty := by
    rw [List.isEmpty_iff_length_eq_zero]
    omega
  have hmagic : r.buffer.take 2 = [0xda, 0xbb].take r.buffer.length := by
    rw [hbuffer, List.take_append_of_le_length (by omega), hwhole.magic, ← hbuffer,
      List.take_of_length_le (Nat.le_trans (by decide) hlen')]
  have hcheck : checkHeader r.limit r.buffer = .ok () :=
    checkHeader_of_fitting hmagic fun _ ↦ by rw [hsame, h.limit_eq]; exact hwhole.size_le
  have hsplit : Bytes.splitAt? (16 + announcedSize r.buffer) r.buffer = some (octets, rest) :=
    Bytes.splitAt?_eq_some_iff.mpr ⟨hbuffer, by rw [hsame, ← hwhole.length]⟩
  rw [decode, if_neg hne, hcheck, h.frameSize?_eq hlen']
  simp only [hsplit]

/-- **An end of the grammar is an end of the reader**: the call gives no frame, keeps the buffer and
says why. -/
theorem Coherent.drainFor_of_stop {limit : Nat} {r : FrameReader} (h : Coherent limit r)
    (registry : Registry) {e : StreamEnd} (hitem : nextItem limit r.buffer = .stop e) (fuel : Nat) :
    ∃ refusal awaited, r.drainFor registry (fuel + 1) =
        some ⟨[], refusal, { r with awaited := awaited }⟩ ∧
      Drained.ending ⟨[], refusal, r⟩ = some e ∧ Coherent limit { r with awaited := awaited } := by
  rw [nextItem, ← h.limit_eq] at hitem
  rw [drainFor, decode]
  split at hitem
  · next hnil =>
    cases hitem
    refine ⟨none, r.awaited, ?_, ?_, h⟩
    · rw [if_pos (List.isEmpty_iff.mpr hnil)]
    · rw [Drained.ending, if_pos hnil]
  next hne =>
  rw [if_neg (mt List.isEmpty_iff.mp hne)]
  have hopen : Drained.ending ⟨[], none, r⟩ = some .incomplete := by
    rw [Drained.ending, if_neg hne]
  split at hitem
  · next hmagic =>
    cases hitem
    obtain ⟨first, second, hcheck⟩ := checkHeader_of_foreign r.limit hmagic
    exact ⟨some (.unknownProtocol first second), r.awaited, by rw [hcheck], rfl, h⟩
  next hmagic =>
  have hmagic := not_not.mp hmagic
  split at hitem
  · next hlen =>
    cases hitem
    refine ⟨none, r.awaited, ?_, hopen, h⟩
    rw [checkHeader_of_fitting hmagic (by omega), h.frameSize?_of_short hlen]
  next hlen =>
  split at hitem
  · next hsize =>
    cases hitem
    refine ⟨some (.payloadTooLarge (announcedSize r.buffer) r.limit), r.awaited, ?_, rfl, h⟩
    rw [checkHeader_of_large hmagic (by omega) hsize]
  next hsize =>
  split at hitem
  -- The header is there and the body is not: this is where the reader remembers a size.
  · next hshort =>
    cases hitem
    have hsplit : Bytes.splitAt? (16 + announcedSize r.buffer) r.buffer = none := by
      rw [Bytes.splitAt?, if_neg]
      rw [List.length_take]
      omega
    refine ⟨none, some (16 + announcedSize r.buffer), ?_, hopen, h.limit_eq, fun n hn ↦ ?_⟩
    · rw [checkHeader_of_fitting hmagic (by omega), h.frameSize?_eq (by omega)]
      simp only [hsplit]
    · exact ⟨by dsimp only; omega, (Option.some.inj hn).symm⟩
  · cases hitem

/-! ## All calls -/

/-- Draining a reader takes its buffer apart as the grammar does. -/
theorem Coherent.drainFor_eq {limit : Nat} {r : FrameReader} (h : Coherent limit r)
    (registry : Registry) {fuel : Nat} (hfuel : r.buffer.length < fuel) :
    ∃ d, r.drainFor registry fuel = some d ∧
      d.frames = (parse limit r.buffer).frames.map (ofOctets registry) ∧
      d.ending = some (parse limit r.buffer).ending ∧
      d.reader.buffer = (parse limit r.buffer).rest ∧ Coherent limit d.reader := by
  induction fuel generalizing r with
  | zero => exact absurd hfuel (Nat.not_lt_zero _)
  | succ fuel ih =>
    cases hitem : nextItem limit r.buffer with
    | stop e =>
      obtain ⟨refusal, awaited, hd, hend, hc⟩ := h.drainFor_of_stop registry hitem fuel
      rw [parse_of_stop hitem]
      exact ⟨_, hd, rfl, hend, rfl, hc⟩
    | frame octets rest =>
      -- A frame shortens the buffer, so the calls that are left suffice for what is left.
      have hnext : Coherent limit { r with awaited := none, buffer := rest } :=
        ⟨h.limit_eq, fun _ hn ↦ nomatch hn⟩
      have hlt := length_rest_lt hitem
      obtain ⟨d, hd, hframes, hend, hrest, hc⟩ := ih hnext (by dsimp only; omega)
      rw [parse_of_frame hitem]
      refine ⟨{ d with frames := ofOctets registry octets :: d.frames }, ?_, ?_, hend, hrest, hc⟩
      · rw [drainFor, h.decode_of_frame registry hitem]
        simp only [hd, Option.map_some]
      · rw [hframes, List.map_cons]

/-- The state between two chunks: what was given so far are the frames of all octets seen, and the
buffer is what the grammar leaves of them. -/
structure Drained.After (registry : Registry) (limit : Nat) (seen : Bytes) (d : Drained) :
    Prop where
  frames_eq : d.frames = (parse limit seen).frames.map (ofOctets registry)
  ending_eq : d.ending = some (parse limit seen).ending
  buffer_eq : d.reader.buffer = (parse limit seen).rest
  coherent : Coherent limit d.reader

theorem Drained.After.next {registry : Registry} {limit : Nat} {seen : Bytes} {d : Drained}
    (h : d.After registry limit seen) (chunk : Bytes) :
    ∃ d', d.next registry chunk = some d' ∧ d'.After registry limit (seen ++ chunk) := by
  have hbuffer : (d.reader.feed chunk).buffer = (parse limit seen).rest ++ chunk := by
    rw [FrameReader.feed, h.buffer_eq]
  obtain ⟨e, he, hframes, hend, hrest, hc⟩ :=
    (h.coherent.feed chunk).drainFor_eq registry (Nat.lt_succ_self _)
  rw [hbuffer] at hframes hend hrest
  refine ⟨{ e with frames := d.frames ++ e.frames }, ?_, ?_, ?_, ?_, hc⟩
  · rw [Drained.next, drain, he, Option.map_some]
  · rw [parse_append, List.map_append, ← h.frames_eq, ← hframes]
  · rw [parse_append]
    exact hend
  · rw [parse_append]
    exact hrest

theorem Drained.After.foldlM {registry : Registry} {limit : Nat} {seen : Bytes} {d : Drained}
    (h : d.After registry limit seen) (chunks : List Bytes) :
    ∃ d', chunks.foldlM (Drained.next registry) d = some d' ∧
      d'.After registry limit (seen ++ chunks.flatten) := by
  induction chunks generalizing seen d with
  | nil => exact ⟨d, rfl, by rwa [List.flatten_nil, List.append_nil]⟩
  | cons chunk chunks ih =>
    obtain ⟨d', hd', hafter⟩ := h.next chunk
    obtain ⟨e, he, hafter'⟩ := ih hafter
    refine ⟨e, ?_, ?_⟩
    · rw [List.foldlM_cons, hd']
      exact he
    · rw [List.flatten_cons, ← List.append_assoc]
      exact hafter'

theorem readChunks_after (registry : Registry) (limit : Nat) (chunks : List Bytes) :
    ∃ d, readChunks registry (.ofLimit limit) chunks = some d ∧
      d.After registry limit chunks.flatten := by
  have hstart : Drained.After registry limit [] ⟨[], none, .ofLimit limit⟩ := by
    have hparse : parse limit [] = ⟨[], .done, []⟩ := parse_of_stop rfl
    refine ⟨?_, ?_, ?_, coherent_ofLimit limit⟩ <;> rw [hparse] <;> rfl
  have h := hstart.foldlM chunks
  simp only [List.nil_append] at h
  exact h

/-- An error that ended a call is a refusal of the grammar. -/
theorem Drained.After.isRefusal {registry : Registry} {limit : Nat} {seen : Bytes} {d : Drained}
    (h : d.After registry limit seen) (hd : d.refusal ≠ none) :
    (parse limit seen).ending.IsRefusal := by
  have hend := h.ending_eq
  rw [Drained.ending] at hend
  split at hend
  · next hnone => exact absurd hnone hd
  · rw [← Option.some.inj hend]
    trivial
  · rw [← Option.some.inj hend]
    trivial
  · cases hend

/-- **Chunks do not matter.** However a stream is cut, a reader that is fed chunk by chunk gives
exactly the frames of `parse`, comes to the same end and keeps what `parse` leaves, and nothing was
skipped. Whoever stops at the first error has lost nothing either: the frames and the end are there
already, and the chunks that were not fed are the end of what is left. -/
theorem readChunks_eq_parse (registry : Registry) (limit : Nat) (chunks : List Bytes) :
    ∃ d, readChunks registry (.ofLimit limit) chunks = some d ∧
      d.frames = (parse limit chunks.flatten).frames.map (ofOctets registry) ∧
      d.ending = some (parse limit chunks.flatten).ending ∧
      d.reader.buffer = (parse limit chunks.flatten).rest ∧
      (parse limit chunks.flatten).frames.flatten ++ d.reader.buffer = chunks.flatten ∧
      ∀ seen unseen, chunks = seen ++ unseen →
        ∃ d', readChunks registry (.ofLimit limit) seen = some d' ∧
          (d'.refusal ≠ none → d'.frames = d.frames ∧ d'.ending = d.ending ∧
            d'.reader.buffer ++ unseen.flatten = d.reader.buffer) := by
  obtain ⟨d, hd, h⟩ := readChunks_after registry limit chunks
  refine ⟨d, hd, h.frames_eq, h.ending_eq, h.buffer_eq, ?_, fun seen unseen hcut ↦ ?_⟩
  · rw [h.buffer_eq]
    exact flatten_parse limit _
  · obtain ⟨d', hd', h'⟩ := readChunks_after registry limit seen
    refine ⟨d', hd', fun hrefused ↦ ?_⟩
    have hall : parse limit chunks.flatten =
        { parse limit seen.flatten with
          rest := (parse limit seen.flatten).rest ++ unseen.flatten } := by
      rw [hcut, List.flatten_append]
      exact parse_append_of_refusal (h'.isRefusal hrefused) _
    refine ⟨?_, ?_, ?_⟩
    · rw [h'.frames_eq, h.frames_eq, hall]
    · rw [h'.ending_eq, h.ending_eq, hall]
    · rw [h'.buffer_eq, h.buffer_eq, hall]

end FrameReader

end RpcTransport
