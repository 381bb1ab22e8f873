import RpcTransport.Proofs.Frame.RoundTrip

/-!
# From reader to writer

A relay writes the frames that it has read. What it writes are the octets that were read, up to one:
a request has no status, so a reader passes over the octet that stands there and a writer puts a
zero (`canonical`). All else in the header comes back: the flags octet is full, for five bits are
the serialization id and three are flags, and a status without a name keeps its octet.

Hence octets in canonical form are what a writer writes, and reading them again gives the frames that
were read in the first place.
-/

open RpcTransport.FrameReader (readChunks readChunks_after coherent_ofLimit)

namespace RpcTransport

namespace Frame

variable {limit : Nat} {octets : Bytes}

/-- The octets of a frame, with a zero for the status if it is a request. -/
def canonical (octets : Bytes) : Bytes :=
  if (octets.drop 2).headD 0 &&& 1 ≠ 0 then octets.set 3 0 else octets

/-! ## The header, field by field -/

/-- The octets of a header and a body. -/
def assemble (flags status : UInt8) (id body : Bytes) : Bytes :=
  0xda :: 0xbb :: flags :: status :: (id ++ (Bytes.bigEndian 4 body.length ++ body))

private theorem eq_assemble {flags status : UInt8} {rest : Bytes} (hlength : 12 ≤ rest.length)
    (hsize : (rest.drop 12).length = Bytes.ofBigEndian ((rest.drop 8).take 4)) :
    0xda :: 0xbb :: flags :: status :: rest = assemble flags status (rest.take 8)
      (rest.drop 12) := by
  have hword : Bytes.bigEndian 4 (rest.drop 12).length = (rest.drop 8).take 4 := by
    have hfour : ((rest.drop 8).take 4).length = 4 := by
      rw [List.length_take, List.length_drop]
      omega
    have hread := Bytes.bigEndian_ofBigEndian ((rest.drop 8).take 4)
    rwa [hfour, ← hsize] at hread
  have hrest : rest.drop 12 = (rest.drop 8).drop 4 := by rw [List.drop_drop]
  rw [assemble, hword, hrest, List.take_append_drop, List.take_append_drop]

/-- **The octets of a whole frame are its fields**, and the length is the one of its body. -/
theorem IsWhole.exists_fields (h : IsWhole limit octets) : ∃ flags status id body,
    octets = assemble flags status id body ∧ id.length = 8 ∧ body.length ≤ clampLimit limit := by
  have hlength := h.length
  have hle := h.headerSize_le
  match octets, h with
  | first :: second :: flags :: status :: rest, h =>
    obtain ⟨rfl, rfl⟩ : first = 0xda ∧ second = 0xbb := by simpa using h.magic
    have hannounced : announcedSize (0xda :: 0xbb :: flags :: status :: rest) =
        Bytes.ofBigEndian ((rest.drop 8).take 4) := rfl
    simp only [List.length_cons] at hlength hle
    rw [hannounced] at hlength
    have hsize : (rest.drop 12).length = Bytes.ofBigEndian ((rest.drop 8).take 4) := by
      rw [List.length_drop]
      omega
    refine ⟨flags, status, rest.take 8, rest.drop 12, eq_assemble (by omega) hsize, ?_, ?_⟩
    · rw [List.length_take]
      omega
    · rw [hsize, ← hannounced]
      exact h.size_le
  | [], _ | [_], _ | [_, _], _ | [_, _, _], _ => simp at hle

theorem canonical_assemble (flags status : UInt8) (id body : Bytes) :
    canonical (assemble flags status id body) =
      assemble flags (if flags &&& 1 ≠ 0 then 0 else status) id body := by
  rw [canonical]
  change (if flags &&& 1 ≠ 0 then _ else _) = _
  split
  · rfl
  · rfl

theorem ofOctets_assemble (registry : Registry) (flags status : UInt8) {id : Bytes}
    (hid : id.length = 8) (body : Bytes) :
    ofOctets registry (assemble flags status id body) =
      ofParts registry flags status (Bytes.ofBigEndian id) body := by
  have hbody : (assemble flags status id body).drop headerSize = body := by
    rw [assemble, headerSize]
    simp only [List.drop_succ_cons]
    rw [← List.append_assoc]
    exact List.drop_left' (by rw [List.length_append, hid, Bytes.length_bigEndian])
  have hword : ((assemble flags status id body).drop 4).take 8 = id := List.take_left' hid
  rw [ofOctets, hbody, hword]
  rfl

private theorem repacked_flags : ∀ n : Fin 256,
    let octet := UInt8.ofNat n
    (((octet >>> 3) &&& 0x1f) <<< 3) ||| (if decide (octet &&& 1 ≠ 0) then 1 else 0) |||
      (if decide (octet &&& 2 ≠ 0) then 2 else 0) |||
        (if decide (octet &&& 4 ≠ 0) then 4 else 0) = octet := by
  -- Every flags octet, one by one.
  decide +kernel

/-- The flags octet is full: nothing of it is lost. -/
theorem flags_ofParts (registry : Registry) (octet status : UInt8) (id : Nat) (body : Bytes) :
    (ofParts registry octet status id body).flags = octet := by
  have h := repacked_flags ⟨octet.toNat, octet.toNat_lt⟩
  rwa [UInt8.ofNat_toNat] at h

theorem statusOctet_ofParts (registry : Registry) (octet status : UInt8) (id : Nat)
    (body : Bytes) :
    (ofParts registry octet status id body).statusOctet =
      if octet &&& 1 ≠ 0 then 0 else status := by
  rw [statusOctet, ofParts]
  by_cases hrequest : octet &&& 1 ≠ 0
  · simp only [hrequest, ne_eq, not_false_eq_true, decide_true, if_true]
  · simp only [hrequest, decide_false, Bool.false_eq_true, if_false, Status.toOctet_ofOctet]

/-- A status that stands where a request has none is not looked at. -/
theorem ofParts_statusOctet (registry : Registry) (octet status : UInt8) (id : Nat)
    (body : Bytes) :
    ofParts registry octet (if octet &&& 1 ≠ 0 then 0 else status) id body =
      ofParts registry octet status id body := by
  by_cases hrequest : octet &&& 1 ≠ 0
  · simp only [ofParts, if_pos hrequest, decide_eq_true hrequest]
  · rw [if_neg hrequest]

/-! ## One frame -/

/-- **A frame that was read is written as its octets in canonical form.** -/
theorem IsWhole.written_eq (h : IsWhole limit octets) (registry : Registry) :
    (ofOctets registry octets).header ++ (ofOctets registry octets).body.octets =
        canonical octets ∧
      (ofOctets registry octets).body.octets.length ≤ clampLimit limit := by
  obtain ⟨flags, status, id, body, rfl, hid, hbody⟩ := h.exists_fields
  have hword : Bytes.bigEndian 8 (UInt64.ofNat (Bytes.ofBigEndian id)).toNat = id := by
    have hlt := Bytes.ofBigEndian_lt id
    rw [hid] at hlt
    rw [UInt64.toNat_ofNat_of_lt' (Nat.lt_of_lt_of_le hlt (by decide)), ← hid,
      Bytes.bigEndian_ofBigEndian]
  rw [ofOctets_assemble registry flags status hid, header_append, flags_ofParts,
    statusOctet_ofParts, canonical_assemble]
  refine ⟨?_, hbody⟩
  change _ :: _ :: _ :: _ :: (Bytes.bigEndian 8 (UInt64.ofNat (Bytes.ofBigEndian id)).toNat ++ _) = _
  rw [hword]
  rfl

theorem IsWhole.encode_ofOctets (h : IsWhole limit octets) (registry : Registry) :
    (ofOctets registry octets).encode limit = .ok (canonical octets) := by
  obtain ⟨hwritten, hle⟩ := h.written_eq registry
  rw [encode_of_le hle, hwritten]

theorem IsWhole.canonical (h : IsWhole limit octets) : IsWhole limit (canonical octets) := by
  obtain ⟨hwritten, hle⟩ := h.written_eq .empty
  exact hwritten ▸ isWhole_encoded hle

theorem IsWhole.ofOctets_canonical (h : IsWhole limit octets) (registry : Registry) :
    ofOctets registry (Frame.canonical octets) = ofOctets registry octets := by
  obtain ⟨flags, status, id, body, rfl, hid, -⟩ := h.exists_fields
  rw [canonical_assemble, ofOctets_assemble registry _ _ hid, ofOctets_assemble registry _ _ hid,
    ofParts_statusOctet]

/-! ## Streams of frames -/

theorem isWhole_of_mem_parse (limit : Nat) (s : Bytes) :
    ∀ octets ∈ (parse limit s).frames, IsWhole limit octets := by
  induction s using parse_induction limit with
  | stop s e h =>
    rw [parse_of_stop h]
    exact List.forall_mem_nil _
  | frame s octets rest h ih =>
    rw [parse_of_frame h]
    exact List.forall_mem_cons.mpr ⟨(isWhole_of_nextItem h).2, ih⟩

theorem mapM_encode_ofOctets (registry : Registry) {frames : List Bytes}
    (h : ∀ octets ∈ frames, IsWhole limit octets) :
    (frames.map (ofOctets registry)).mapM (encode limit) = .ok (frames.map canonical) := by
  induction frames with
  | nil => rfl
  | cons octets frames ih =>
    obtain ⟨hfirst, hrest⟩ := List.forall_mem_cons.mp h
    rw [List.map_cons, List.mapM_cons, hfirst.encode_ofOctets registry, ih hrest]
    rfl

/-- Whole frames in canonical form are read as the frames they were. -/
theorem readChunks_canonical (registry : Registry) {frames : List Bytes}
    (h : ∀ octets ∈ frames, IsWhole limit octets) {chunks : List Bytes}
    (hchunks : chunks.flatten = (frames.map canonical).flatten) :
    ∃ d, readChunks registry (.ofLimit limit) chunks = some d ∧
      d.frames = frames.map (ofOctets registry) ∧ d.refusal = none ∧ d.reader.buffer = [] := by
  obtain ⟨d, hd, hafter⟩ := readChunks_after registry limit chunks
  have hparse : parse limit chunks.flatten = ⟨frames.map canonical, .done, []⟩ := by
    rw [hchunks]
    refine parse_flatten fun octets hoctets ↦ ?_
    obtain ⟨octets, hmem, rfl⟩ := List.mem_map.mp hoctets
    exact (h octets hmem).canonical
  refine ⟨d, hd, ?_, ?_, ?_⟩
  · rw [hafter.frames_eq, hparse, List.map_map]
    exact List.map_congr_left fun octets hmem ↦ (h octets hmem).ofOctets_canonical registry
  · by_contra hrefused
    have hrefusal := hafter.isRefusal hrefused
    rw [hparse] at hrefusal
    exact hrefusal
  · rw [hafter.buffer_eq, hparse]

/-- What a reader gives out is what its buffer began with. -/
theorem isWhole_of_decode {registry : Registry} {w : Bytes} {f : Frame} {r : FrameReader}
    (h : ((FrameReader.ofLimit limit).feed w).decode registry = (.ok (some f), r)) :
    ∃ octets, w = octets ++ r.buffer ∧ IsWhole limit octets ∧ f = ofOctets registry octets := by
  have hcoherent := (coherent_ofLimit limit).feed w
  cases hitem : nextItem limit w with
  | frame octets rest =>
    have hdecode := hcoherent.decode_of_frame registry hitem
    obtain ⟨hf, rfl⟩ := Prod.mk.inj (h.symm.trans hdecode)
    obtain ⟨hw, hwhole⟩ := isWhole_of_nextItem hitem
    exact ⟨octets, hw, hwhole, Option.some.inj (Except.ok.inj hf)⟩
  | stop e =>
    obtain ⟨refusal, awaited, hdrain, -, -⟩ := hcoherent.drainFor_of_stop registry hitem 1
    rw [FrameReader.drainFor, h] at hdrain
    obtain ⟨d, -, hd⟩ := Option.map_eq_some_iff.mp hdrain
    exact absurd (congrArg FrameReader.Drained.frames hd) (List.cons_ne_nil _ _)

/-- **Writing undoes reading.** A frame that a reader takes off the front of `w` can be written
under the limit of the reader, and what is written are the octets that were taken, in canonical
form; reading them gives the same frame. So it is with a stream, however it is cut: the frames that
were read are written as the octets that were taken, each in canonical form, and however these are
cut, they are read as the same frames, with nothing left over. -/
theorem encode_undoes_decode (registry : Registry) (limit : Nat) :
    (∀ w f r, ((FrameReader.ofLimit limit).feed w).decode registry = (.ok (some f), r) →
      ∃ octets, w = octets ++ r.buffer ∧ f.encode limit = .ok (canonical octets) ∧
        (((FrameReader.ofLimit limit).feed (canonical octets)).decode registry).1 =
          .ok (some f)) ∧
    ∀ chunks, ∃ (d : FrameReader.Drained) (taken : List Bytes),
      readChunks registry (.ofLimit limit) chunks = some d ∧
      chunks.flatten = taken.flatten ++ d.reader.buffer ∧
      d.frames.mapM (encode limit) = .ok (taken.map canonical) ∧
      ∀ chunks' : List Bytes, chunks'.flatten = (taken.map canonical).flatten →
        ∃ d', readChunks registry (.ofLimit limit) chunks' = some d' ∧ d'.frames = d.frames ∧
          d'.refusal = none ∧ d'.reader.buffer = [] := by
  constructor
  · intro w f r hdecode
    obtain ⟨octets, hw, hwhole, rfl⟩ := isWhole_of_decode hdecode
    refine ⟨octets, hw, hwhole.encode_ofOctets registry, ?_⟩
    have hitem := hwhole.canonical.nextItem_append []
    rw [List.append_nil] at hitem
    rw [((coherent_ofLimit limit).feed (canonical octets)).decode_of_frame registry hitem,
      hwhole.ofOctets_canonical]
  · intro chunks
    obtain ⟨d, hd, hafter⟩ := readChunks_after registry limit chunks
    have hwhole := isWhole_of_mem_parse limit chunks.flatten
    refine ⟨d, (parse limit chunks.flatten).frames, hd, ?_, ?_, fun chunks' hchunks' ↦ ?_⟩
    · rw [hafter.buffer_eq, flatten_parse]
    · rw [hafter.frames_eq, mapM_encode_ofOctets registry hwhole]
    · rw [hafter.frames_eq]
      exact readChunks_canonical registry hwhole hchunks'

/-- An event of the largest serialization id with a status, and the start of another frame. -/
theorem encode_undoes_decode_stale_status :
    let header : Bytes := [0, 0, 0, 0, 0, 0, 0, 9, 0, 0, 0, 1]
    ∃ f r, ((FrameReader.ofLimit 8).feed ([0xda, 0xbb, 0xff, 7] ++ header ++ [5, 0xda])).decode
        .standard = (.ok (some f), r) ∧ r.buffer = [0xda] ∧ f.isEvent = true ∧
      f.encode 8 = .ok ([0xda, 0xbb, 0xff, 0] ++ header ++ [5]) := by
  obtain ⟨octets, hw, hencode, -⟩ := (encode_undoes_decode .standard 8).1
    [0xda, 0xbb, 0xff, 7, 0, 0, 0, 0, 0, 0, 0, 9, 0, 0, 0, 1, 5, 0xda] _ _ rfl
  have hoctets : octets = [0xda, 0xbb, 0xff, 7, 0, 0, 0, 0, 0, 0, 0, 9, 0, 0, 0, 1, 5] :=
    (List.append_cancel_right (hw : [0xda, 0xbb, 0xff, 7, 0, 0, 0, 0, 0, 0, 0, 9, 0, 0, 0, 1, 5] ++
      [0xda] = octets ++ [0xda])).symm
  refine ⟨_, _, rfl, rfl, rfl, ?_⟩
  rw [hoctets] at hencode
  exact hencode

end Frame

end RpcTransport
