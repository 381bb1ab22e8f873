import Mathlib.Data.List.Forall2
import RpcTransport.Proofs.Frame.Stream
import RpcTransport.Proofs.Words

/-!
# From writer to reader

Frames that were written one after the other are read as the same frames, in their order. What the
wire cannot carry comes back changed, and `Received` says how: the serialization id keeps five bits,
a request has no status, a status is known by its octet only, and whether an event is a heartbeat is
judged anew by the registry of the reader.

A written frame is whole in the sense of the grammar. So the reader's side needs no argument of its
own: `readChunks_eq_parse` cuts the stream where the writer joined it.
-/

namespace RpcTransport

namespace Frame

/-! ## The flags octet -/

private theorem packed_flags : ∀ (n : Fin 256) (r t e : Bool),
    let octet := (UInt8.ofNat n <<< 3) ||| (if r then 1 else 0) ||| (if t then 2 else 0) |||
      (if e then 4 else 0)
    decide (octet &&& 1 ≠ 0) = r ∧ decide (octet &&& 2 ≠ 0) = t ∧ decide (octet &&& 4 ≠ 0) = e ∧
      ((octet >>> 3) &&& 0x1f).toNat = n % 32 := by
  -- An octet and three flags: few enough to try them all.
  decide +kernel

/-- The flags octet keeps the three flags and the low five bits of the serialization id. -/
theorem flags_spec (f : Frame) :
    decide (f.flags &&& 1 ≠ 0) = f.isRequest ∧ decide (f.flags &&& 2 ≠ 0) = f.twoWay ∧
      decide (f.flags &&& 4 ≠ 0) = f.isEvent ∧
      ((f.flags >>> 3) &&& 0x1f).toNat = f.serialization.toNat % 32 := by
  have h := packed_flags ⟨f.serialization.toNat, f.serialization.toNat_lt⟩ f.isRequest f.twoWay
    f.isEvent
  rwa [UInt8.ofNat_toNat] at h

/-! ## The header -/

/-- The status octet of a frame; requests have none. -/
def statusOctet (f : Frame) : UInt8 := if f.isRequest then 0 else f.status.toOctet

theorem header_append (f : Frame) (octets : Bytes) :
    f.header ++ octets = 0xda :: 0xbb :: f.flags :: f.statusOctet ::
      (Bytes.bigEndian 8 f.id.toNat ++
        (Bytes.bigEndian 4 f.body.octets.length ++ octets)) := by
  rw [header, magic, statusOctet, List.append_assoc, List.append_assoc]
  rfl

theorem length_header (f : Frame) : f.header.length = 16 := by
  rw [← List.append_nil f.header, header_append]
  simp only [List.length_cons, List.length_append, Bytes.length_bigEndian, List.length_nil]

theorem announcedSize_header {f : Frame} (h : f.body.octets.length < 2 ^ 32) (octets : Bytes) :
    announcedSize (f.header ++ octets) = f.body.octets.length := by
  have hdrop : (f.header ++ octets).drop 12 =
      Bytes.bigEndian 4 f.body.octets.length ++ octets := by
    rw [header_append]
    simp only [List.drop_succ_cons]
    exact List.drop_left' (Bytes.length_bigEndian 8 _)
  rw [announcedSize, hdrop, List.take_left' (Bytes.length_bigEndian 4 _),
    Bytes.ofBigEndian_bigEndian, Nat.mod_eq_of_lt (Nat.lt_of_lt_of_le h (by decide))]

theorem encode_of_le {limit : Nat} {f : Frame} (h : f.body.octets.length ≤ clampLimit limit) :
    f.encode limit = .ok (f.header ++ f.body.octets) := by
  rw [encode, if_neg (Nat.not_lt.mpr h)]

/-- **A written frame is whole.** -/
theorem isWhole_encoded {limit : Nat} {f : Frame}
    (h : f.body.octets.length ≤ clampLimit limit) :
    IsWhole limit (f.header ++ f.body.octets) := by
  have hsize : announcedSize (f.header ++ f.body.octets) = f.body.octets.length :=
    announcedSize_header (Nat.lt_of_le_of_lt (Nat.le_trans h (Nat.min_le_right _ _)) (by decide)) _
  refine ⟨?_, ?_, ?_⟩
  · rw [header_append]
    rfl
  · rw [hsize, List.length_append, length_header]
  · rw [hsize]
    exact h

/-! ## What arrives -/

theorem isNull_iff {registry : Registry} {id : UInt8} {octets : Bytes} :
    registry.isNull id octets = true ↔ registry.nullOctets id = .ok octets := by
  rw [Registry.isNull]
  split
  · next bs h => rw [h, beq_iff_eq, Except.ok.injEq]
  · next e h => simp [h]

/-- How a frame that was sent is received. -/
structure Received (registry : Registry) (sent got : Frame) : Prop where
  id : got.id = sent.id
  isRequest : got.isRequest = sent.isRequest
  twoWay : got.twoWay = sent.twoWay
  isEvent : got.isEvent = sent.isEvent
  octets : got.body.octets = sent.body.octets
  serialization : got.serialization.toNat = sent.serialization.toNat % 32
  status : got.status = if sent.isRequest then .ok else .ofOctet sent.status.toOctet
  isHeartbeat : got.isHeartbeat = true ↔ sent.isEvent = true ∧
    (sent.body.octets = [] ∨ registry.nullOctets got.serialization = .ok sent.body.octets)

/-- The header is read in the order in which it was written. -/
theorem ofOctets_encoded (registry : Registry) (f : Frame) (octets : Bytes) :
    ofOctets registry (f.header ++ octets) =
      ofParts registry f.flags f.statusOctet f.id.toNat octets := by
  have hid : ((f.header ++ octets).drop 4).take 8 = Bytes.bigEndian 8 f.id.toNat := by
    rw [header_append]
    exact List.take_left' (Bytes.length_bigEndian 8 _)
  have hbody : (f.header ++ octets).drop headerSize = octets :=
    List.drop_left' (length_header f)
  rw [ofOctets, hid, hbody, Bytes.ofBigEndian_bigEndian,
    Nat.mod_eq_of_lt (Nat.lt_of_lt_of_le f.id.toNat_lt (by decide)), header_append]
  rfl

theorem received_ofOctets (registry : Registry) (f : Frame) :
    Received registry f (ofOctets registry (f.header ++ f.body.octets)) := by
  obtain ⟨hrequest, htwoWay, hevent, hserialization⟩ := flags_spec f
  rw [ofOctets_encoded]
  refine ⟨UInt64.ofNat_toNat, hrequest, htwoWay, hevent, rfl, hserialization, ?_, ?_⟩
  · rw [ofParts, statusOctet]
    dsimp only
    cases hr : f.isRequest with
    | true =>
      rw [hr, decide_eq_true_iff] at hrequest
      rw [if_pos hrequest, if_pos rfl]
    | false =>
      rw [hr, decide_eq_false_iff_not] at hrequest
      rw [if_neg hrequest, if_neg Bool.false_ne_true, if_neg Bool.false_ne_true]
  · rw [ofParts]
    simp only [hevent, Bool.and_eq_true, Bool.or_eq_true, List.isEmpty_iff, isNull_iff]

/-! ## Lists of frames -/

/-- Some frames, written one after the other. -/
def encodeAll (limit : Nat) (frames : List Frame) : Except CodecError Bytes :=
  List.flatten <$> frames.mapM (encode limit)

theorem mapM_encode {limit : Nat} {frames : List Frame}
    (h : ∀ f ∈ frames, f.body.octets.length ≤ clampLimit limit) :
    frames.mapM (encode limit) = .ok (frames.map fun f ↦ f.header ++ f.body.octets) := by
  induction frames with
  | nil => rfl
  | cons f frames ih =>
    rw [List.mapM_cons, encode_of_le (h f List.mem_cons_self),
      ih fun g hg ↦ h g (List.mem_cons_of_mem f hg)]
    rfl

/-- However the octets of some frames are cut, the reader gives these frames and stops with
nothing left over. -/
theorem readChunks_encoded (registry : Registry) {readLimit : Nat} {frames : List Frame}
    (h : ∀ f ∈ frames, f.body.octets.length ≤ clampLimit readLimit) {chunks : List Bytes}
    (hchunks : chunks.flatten = (frames.map fun f ↦ f.header ++ f.body.octets).flatten) :
    ∃ d, FrameReader.readChunks registry (.ofLimit readLimit) chunks = some d ∧
      List.Forall₂ (Received registry) frames d.frames ∧ d.refusal = none ∧
      d.reader.buffer = [] := by
  obtain ⟨d, hd, hafter⟩ := FrameReader.readChunks_after registry readLimit chunks
  have hparse : parse readLimit chunks.flatten =
      ⟨frames.map fun f ↦ f.header ++ f.body.octets, .done, []⟩ := by
    rw [hchunks]
    refine parse_flatten fun octets hoctets ↦ ?_
    obtain ⟨f, hf, rfl⟩ := List.mem_map.mp hoctets
    exact isWhole_encoded (h f hf)
  refine ⟨d, hd, ?_, ?_, ?_⟩
  · rw [hafter.frames_eq, hparse, List.map_map, List.forall₂_map_right_iff, List.forall₂_same]
    exact fun f _ ↦ received_ofOctets registry f
  · by_contra hrefused
    have hrefusal := hafter.isRefusal hrefused
    rw [hparse] at hrefusal
    exact hrefusal
  · rw [hafter.buffer_eq, hparse]

/-- Whatever comes behind some frames, however it is cut, the reader gives these frames first. -/
theorem readChunks_of_prefix (registry : Registry) {readLimit : Nat} {frames : List Frame}
    (h : ∀ f ∈ frames, f.body.octets.length ≤ clampLimit readLimit) {chunks : List Bytes}
    (hchunks : (frames.map fun f ↦ f.header ++ f.body.octets).flatten <+: chunks.flatten) :
    ∃ d more, FrameReader.readChunks registry (.ofLimit readLimit) chunks = some d ∧
      d.frames = (frames.map fun f ↦ ofOctets registry (f.header ++ f.body.octets)) ++ more := by
  obtain ⟨d, hd, hafter⟩ := FrameReader.readChunks_after registry readLimit chunks
  obtain ⟨rest, hrest⟩ := hchunks
  have hwhole : ∀ octets ∈ frames.map (fun f ↦ f.header ++ f.body.octets),
      IsWhole readLimit octets := fun octets hoctets ↦ by
    obtain ⟨f, hf, rfl⟩ := List.mem_map.mp hoctets
    exact isWhole_encoded (h f hf)
  refine ⟨d, (parse readLimit rest).frames.map (ofOctets registry), hd, ?_⟩
  rw [hafter.frames_eq, ← hrest, parse_append, parse_flatten hwhole, List.map_append, List.map_map]
  rfl

theorem readChunks_singleton (registry : Registry) {readLimit : Nat} {sent : Frame}
    (h : sent.body.octets.length ≤ clampLimit readLimit) {chunks : List Bytes}
    (hchunks : chunks.flatten = sent.header ++ sent.body.octets) :
    ∃ d got, FrameReader.readChunks registry (.ofLimit readLimit) chunks = some d ∧
      d.frames = [got] ∧ d.refusal = none ∧ Received registry sent got := by
  have hfits : ∀ f ∈ [sent], f.body.octets.length ≤ clampLimit readLimit :=
    List.forall_mem_singleton.mpr h
  obtain ⟨d, hd, hreceived, hrefusal, -⟩ :=
    readChunks_encoded registry hfits (hchunks.trans (List.append_nil _).symm)
  obtain ⟨got, rest, hgot, hrest, hframes⟩ := List.forall₂_cons_left_iff.mp hreceived
  obtain rfl := List.forall₂_nil_left_iff.mp hrest
  exact ⟨d, got, hd, hframes, hrefusal, hgot⟩

/-- **Framing round trip.** Frames whose bodies both sides admit can be written, and however the
octets are cut on their way, the reader gives as many frames in the same order, each as `Received`
says, without an error and with nothing left over. -/
theorem readChunks_encodeAll (registry : Registry) {writeLimit readLimit : Nat}
    {frames : List Frame}
    (h : ∀ f ∈ frames, f.body.octets.length ≤ clampLimit writeLimit ∧
      f.body.octets.length ≤ clampLimit readLimit) :
    ∃ wire, encodeAll writeLimit frames = .ok wire ∧
      ∀ chunks : List Bytes, chunks.flatten = wire →
        ∃ d, FrameReader.readChunks registry (.ofLimit readLimit) chunks = some d ∧
          List.Forall₂ (Received registry) frames d.frames ∧ d.refusal = none ∧
          d.reader.buffer = [] := by
  refine ⟨(frames.map fun f ↦ f.header ++ f.body.octets).flatten, ?_, fun chunks hchunks ↦ ?_⟩
  · rw [encodeAll, mapM_encode fun f hf ↦ (h f hf).1]
    rfl
  · exact readChunks_encoded registry (fun f hf ↦ (h f hf).2) hchunks

/-- An event of an overlong serialization id that carries a null, and a response of an unnamed
status. -/
theorem readChunks_encodeAll_event_response :
    let frames : List Frame :=
      [{ event 7 6 (.detached (Bytes.ofAscii "null\n")) with serialization := 0xe6 },
        response 9 2 (.unknown 20) (.detached [1, 2, 3])]
    (∀ f ∈ frames, f.body.octets.length ≤ clampLimit 5 ∧ f.body.octets.length ≤ clampLimit 8) ∧
    ∃ wire, encodeAll 5 frames = .ok wire ∧
      ∀ chunks : List Bytes, chunks.flatten = wire →
        ∃ d, FrameReader.readChunks .standard (.ofLimit 8) chunks = some d ∧
          List.Forall₂ (Received .standard) frames d.frames ∧ d.refusal = none ∧
          d.reader.buffer = [] :=
  ⟨by decide, readChunks_encodeAll .standard (by decide)⟩

end Frame

end RpcTransport
