import RpcTransport.Connection.Inbound
import RpcTransport.Proofs.Frame.RoundTrip
import RpcTransport.Proofs.Serialization.Results
import RpcTransport.Response

/-!
# What a handler says is what the caller is told

The reply to a request goes through the backend that the request was written with, the frame codec
and the status octet, and each of them gives back what it was given. The special cases of the layers
do not meet: a body is only read as a result under the octet of success, and the body of a failure
is a text, which is no result, so that a failure is never taken for a success, not even one with the
status ok.
-/

namespace RpcTransport

/-! ## The default backends -/

namespace Registry

/-- A registry of the default backends, whatever nulls it remembers. -/
def IsStandard (r : Registry) : Prop := r.backends = standard.backends

variable {r : Registry} {b : Backend}

theorem isStandard_standard : standard.IsStandard := rfl

theorem IsStandard.get (h : r.IsStandard) (hb : b ∈ standard.backends) : r.get b.id = .ok b := by
  have hfind : r.find? b.id = some b := by
    have hall : ∀ b ∈ standard.backends, standard.backends.find? (·.id = b.id) = some b := by
      decide
    rw [find?, show r.backends = standard.backends from h]
    exact hall b hb
  rw [Registry.get, hfind]

theorem IsStandard.contains (h : r.IsStandard) (hb : b ∈ standard.backends) :
    r.contains b.id = true := by
  have hget := h.get hb
  rw [Registry.get] at hget
  rw [Registry.contains]
  cases hfind : r.find? b.id with
  | some found => rfl
  | none =>
    rw [hfind] at hget
    exact nomatch hget

theorem IsStandard.encode (h : r.IsStandard) (hb : b ∈ standard.backends) (write : Format → Bytes) :
    r.encode b.id write = .ok (write b.format) := by
  rw [Registry.encode, h.get hb]
  rfl

/-- The id of a default backend fits the header. -/
theorem masked_id (hb : b ∈ standard.backends) :
    b.id &&& 0x1f = b.id ∧ b.id.toNat % 32 = b.id.toNat := by
  have hall : ∀ b ∈ standard.backends, b.id &&& 0x1f = b.id ∧ b.id.toNat % 32 = b.id.toNat := by
    decide
  exact hall b hb

end Registry

/-- A named status is known by its octet. -/
theorem Status.ofOctet_toOctet {s : Status} (h : ∀ n, s ≠ .unknown n) : ofOctet s.toOctet = s := by
  cases s with
  | unknown n => exact absurd rfl (h n)
  | _ => rfl

/-! ## Replies -/

namespace Connection

/-- The replies to a request: the reply of the connection, and those in which the attachments of a
result stand in another order. -/
inductive Replies (c : Connection) (r : InboundRequest) : HandlerOutcome → Frame → Prop
  | result {result : CallResult} {entries : List (String × String)} {b : Backend}
      (backend : c.registry.get r.serialization = .ok b)
      (order : entries.Perm result.attachments.entries) :
    Replies c r (.ok result)
      { c.replyFrame r (.ok result) with body := .detached (result.writeAs b.format entries) }
  | failure (e : HandlerError) : Replies c r (.error e) (c.replyFrame r (.error e))

variable {c : Connection} {r : InboundRequest} {b : Backend}

theorem replyFrame_ok (hc : c.registry.IsStandard) (hb : b ∈ Registry.standard.backends)
    (hr : r.serialization = b.id) (result : CallResult) :
    c.replyFrame r (.ok result) =
      .response r.id b.id .ok (.detached (result.write b.format)) := by
  rw [replyFrame, CallResult.toBody, hr, hc.encode hb]

theorem replyFrame_error (hc : c.registry.IsStandard) (hb : b ∈ Registry.standard.backends)
    (hr : r.serialization = b.id) (e : HandlerError) :
    c.replyFrame r (.error e) =
      .response r.id b.id e.status (.detached (b.format.writeText e.message)) := by
  rw [replyFrame, errorFrame, hr, hc.contains hb, if_pos rfl, hc.encode hb]

/-- The connection's own reply keeps the order that the attachments have. -/
theorem replies_replyFrame (hc : c.registry.IsStandard) (hb : b ∈ Registry.standard.backends)
    (hr : r.serialization = b.id) (o : HandlerOutcome) : c.Replies r o (c.replyFrame r o) := by
  cases o with
  | error e => exact .failure e
  | ok result =>
    have hreply := Replies.result (hr ▸ hc.get hb) (.refl result.attachments.entries)
    rw [← CallResult.write_eq_writeAs] at hreply
    rwa [replyFrame_ok hc hb hr] at hreply ⊢

end Connection

/-! ## On the wire -/

theorem Frame.response_arrives (registry : Registry) {b : Backend}
    (hb : b ∈ Registry.standard.backends) (id : UInt64) (status : Status) (octets : Bytes)
    {writeLimit readLimit : Nat} (hwrite : octets.length ≤ clampLimit writeLimit)
    (hread : octets.length ≤ clampLimit readLimit) :
    ∃ wire, (response id b.id status (.detached octets)).encode writeLimit = .ok wire ∧
      ∀ chunks : List Bytes, chunks.flatten = wire →
        ∃ d got, FrameReader.readChunks registry (.ofLimit readLimit) chunks = some d ∧
          d.frames = [got] ∧ d.refusal = none ∧ d.reader.buffer = [] ∧ got.id = id ∧
          got.isRequest = false ∧ got.isHeartbeat = false ∧
          got.status = .ofOctet status.toOctet ∧ got.serialization = b.id ∧
          got.body.octets = octets := by
  let sent := response id b.id status (.detached octets)
  refine ⟨sent.header ++ octets, encode_of_le hwrite, fun chunks hchunks ↦ ?_⟩
  have hlimit : ∀ f ∈ [sent], f.body.octets.length ≤ clampLimit readLimit :=
    List.forall_mem_singleton.mpr hread
  obtain ⟨d, hd, hframes, hrefusal, hbuffer⟩ := readChunks_encoded registry hlimit
    (hchunks.trans (List.append_nil _).symm)
  obtain ⟨got, rest, hreceived, hnil, heq⟩ := List.forall₂_cons_left_iff.mp hframes
  obtain rfl := List.forall₂_nil_left_iff.mp hnil
  have hheartbeat : got.isHeartbeat = false := by
    refine Bool.eq_false_iff.mpr fun htrue ↦ ?_
    exact Bool.noConfusion (hreceived.isHeartbeat.mp htrue).1
  have hserialization : got.serialization = b.id := by
    obtain ⟨hmask, hmod⟩ := Registry.masked_id hb
    refine UInt8.toNat_inj.mp (hreceived.serialization.trans ?_)
    change (b.id &&& 0x1f).toNat % 32 = _
    rw [hmask, hmod]
  exact ⟨d, got, hd, heq, hrefusal, hbuffer, hreceived.id, hreceived.isRequest, hheartbeat,
    hreceived.status, hserialization, hreceived.octets⟩

/-! ## To the caller -/

namespace CallResult

/-- The value of a result, if it has one, has its members sorted by key, as every object has, and
nests 127 deep at most; for JSON its numbers are whole. -/
def Crosses (r : CallResult) (f : Format) : Prop :=
  ∀ v, r.outcome = .value v → v.Canonical ∧ v.depth ≤ 127 ∧ (f = .json → v.Whole)

end CallResult

section Told

variable {registry : Registry} {b : Backend}

/-- The body of a result, under the status ok, is this result. -/
theorem decodeResult_result (hregistry : registry.IsStandard)
    (hb : b ∈ Registry.standard.backends) {result : CallResult} (hcrosses : result.Crosses b.format)
    {entries : List (String × String)} (hentries : entries.Perm result.attachments.entries)
    (hlength : (result.writeAs b.format entries).length < 2 ^ 32) :
    decodeResult registry .ok b.id (result.writeAs b.format entries) = .ok result := by
  have hsized := CallResult.sizedEntries_of_length hlength
  have hcarried := CallResult.carried_of_length hlength hcrosses
  obtain ⟨left, hread, -⟩ := CallResult.reads_result hentries hsized hcarried []
    (result.writeAs b.format entries) (.inl (List.append_nil _).symm)
  rw [decodeResult, CallResult.ofBody, hregistry.get hb]
  change (((CallResult.read b.format).runOn _).1).mapError _ = _
  rw [hread]
  rfl

theorem failureText_writeText (hregistry : registry.IsStandard)
    (hb : b ∈ Registry.standard.backends) {message : String}
    (hlength : (b.format.writeText message).length < 2 ^ 32) :
    failureText registry b.id (b.format.writeText message) = message := by
  have hmessage : (utf8 message).length < 2 ^ 32 :=
    Nat.lt_of_le_of_lt (b.format.length_writeText message) hlength
  obtain ⟨left, hread, -⟩ := b.format.reads_text (fun _ ↦ hmessage) [] (b.format.writeText message)
    (.inl (List.append_nil _).symm)
  rw [failureText, hregistry.get hb]
  dsimp only
  rw [hread]

theorem decodeResult_of_named {status : Status} (hok : status ≠ .ok)
    (hnamed : ∀ n, status ≠ .unknown n) (serialization : UInt8) (body : Bytes) :
    decodeResult registry status serialization body =
      .error (.remote status (failureText registry serialization body)) := by
  cases status with
  | ok => exact absurd rfl hok
  | unknown n => exact absurd rfl (hnamed n)
  | _ => rfl

/-- A failure is never told as a result, whatever its status is. -/
theorem decodeResult_writeText_ne_ok (hregistry : registry.IsStandard)
    (hb : b ∈ Registry.standard.backends) (status : Status) (message : String)
    (result : CallResult) :
    decodeResult registry status b.id (b.format.writeText message) ≠ .ok result := by
  cases status with
  | ok =>
    obtain ⟨e, he⟩ := CallResult.read_writeText b.format message
    rw [decodeResult, CallResult.ofBody, hregistry.get hb]
    change (((CallResult.read b.format).runOn _).1).mapError _ ≠ _
    rw [he]
    exact nofun
  | _ => exact nofun

end Told

namespace Connection

/-- **What a handler says is what the caller is told.** Between two ends with the default backends,
let a request come in one of their serializations, and let the reply to it fit the limits of both,
be it the reply of the connection or one with the attachments in another order. Then the reply can
be written, and however its octets are cut on their way, they are read as one
response to the request. A result is told as it was, if its value crosses; a failure is never told
as a result, and with a named status other than ok it is told with its status and message, and with
an octet that is no named status, as this octet. -/
theorem outcome_transparent {server : Connection} {client : Registry}
    (hserver : server.registry.IsStandard) (hclient : client.IsStandard) {b : Backend}
    (hb : b ∈ Registry.standard.backends) {r : InboundRequest} (hr : r.serialization = b.id)
    {o : HandlerOutcome} {reply : Frame} (hreply : server.Replies r o reply)
    {writeLimit readLimit : Nat} (hwrite : reply.body.octets.length ≤ Frame.clampLimit writeLimit)
    (hread : reply.body.octets.length ≤ Frame.clampLimit readLimit) :
    server.Replies r o (server.replyFrame r o) ∧
    ∃ wire, reply.encode writeLimit = .ok wire ∧
      ∀ chunks : List Bytes, chunks.flatten = wire →
        ∃ d got, FrameReader.readChunks client (.ofLimit readLimit) chunks = some d ∧
          d.frames = [got] ∧ d.refusal = none ∧ d.reader.buffer = [] ∧ got.id = r.id ∧
          got.isRequest = false ∧ got.isHeartbeat = false ∧
          let told := decodeResult client got.status got.serialization got.body.octets
          (∀ result, o = .ok result → result.Crosses b.format → told = .ok result) ∧
          ∀ e, o = .error e →
            (∀ result, told ≠ .ok result) ∧
            (e.status ≠ .ok → (∀ n, e.status ≠ .unknown n) →
              told = .error (.remote e.status e.message)) ∧
            ∀ n, e.status = .unknown n → Status.ofOctet n = .unknown n →
              told = .error (.unknownResponseStatus n "unrecognised status byte") := by
  -- No payload limit exceeds what four octets can tell, so no size inside the body does.
  have hlimit : reply.body.octets.length < 2 ^ 32 :=
    Nat.lt_of_le_of_lt (Nat.le_trans hwrite (Nat.min_le_right _ _)) (by decide)
  refine ⟨replies_replyFrame hserver hb hr o, ?_⟩
  cases hreply with
  | @result result entries backend hbackend horder =>
    -- The reply was written with the backend of the request.
    obtain rfl : b = backend := Except.ok.inj ((hr ▸ hserver.get hb).symm.trans hbackend)
    rw [replyFrame_ok hserver hb hr]
    obtain ⟨wire, hwire, harrives⟩ := Frame.response_arrives client hb r.id .ok
      (result.writeAs b.format entries) hwrite hread
    refine ⟨wire, hwire, fun chunks hchunks ↦ ?_⟩
    obtain ⟨d, got, hd, hframes, hrefusal, hbuffer, hid, hrequest, hheartbeat, hstatus,
      hserialization, hoctets⟩ := harrives chunks hchunks
    refine ⟨d, got, hd, hframes, hrefusal, hbuffer, hid, hrequest, hheartbeat, ?_, nofun⟩
    rintro _ ⟨⟩ hcrosses
    rw [hstatus, hserialization, hoctets]
    exact decodeResult_result hclient hb hcrosses horder hlimit
  | failure e =>
    rw [replyFrame_error hserver hb hr] at hwrite hread hlimit ⊢
    obtain ⟨wire, hwire, harrives⟩ := Frame.response_arrives client hb r.id e.status
      (b.format.writeText e.message) hwrite hread
    refine ⟨wire, hwire, fun chunks hchunks ↦ ?_⟩
    obtain ⟨d, got, hd, hframes, hrefusal, hbuffer, hid, hrequest, hheartbeat, hstatus,
      hserialization, hoctets⟩ := harrives chunks hchunks
    refine ⟨d, got, hd, hframes, hrefusal, hbuffer, hid, hrequest, hheartbeat, nofun, ?_⟩
    rintro _ ⟨⟩
    rw [hstatus, hserialization, hoctets]
    refine ⟨decodeResult_writeText_ne_ok hclient hb _ _, ?_, ?_⟩
    · intro hok hnamed
      rw [Status.ofOctet_toOctet hnamed, decodeResult_of_named hok hnamed,
        failureText_writeText hclient hb hlimit]
    · intro n hn hunknown
      have hsame : Status.ofOctet e.status.toOctet = .unknown n := by
        rw [hn]
        exact hunknown
      rw [hsame]
      rfl

/-- A result whose attachments are not in the order of their keys, and a failure with the octet of
success. -/
theorem outcome_transparent_reordered :
    let server := start ⟨"connection", "peer", .server, 1⟩ .standard .standard
      (.ofConfig .standard 1 .standard)
    let r : InboundRequest := ⟨7, 6, false, true, "connection", .empty⟩
    let result : CallResult := ⟨.value (.array [.null, .number (.ofUInt64 80), .string "\"é"]),
      .ofList [("a", "1"), ("b", "2")]⟩
    let reply := Frame.response 7 6 .ok
      (.detached (result.writeAs .json [("b", "2"), ("a", "1")]))
    let e : HandlerError := ⟨.unknown 20, "no"⟩
    result.Crosses .json ∧ server.Replies r (.ok result) reply ∧
      reply.body.octets.length ≤ Frame.clampLimit 64 ∧
      (∃ wire, reply.encode 64 = .ok wire ∧ ∀ chunks : List Bytes, chunks.flatten = wire →
        ∃ d got, FrameReader.readChunks .standard (.ofLimit 64) chunks = some d ∧
          d.frames = [got] ∧
          decodeResult .standard got.status got.serialization got.body.octets = .ok result) ∧
      ∃ wire, (server.replyFrame r (.error e)).encode 64 = .ok wire ∧
        ∀ chunks : List Bytes, chunks.flatten = wire →
          ∃ d got, FrameReader.readChunks .standard (.ofLimit 64) chunks = some d ∧
            d.frames = [got] ∧
            decodeResult .standard got.status got.serialization got.body.octets ≠ .ok result := by
  intro server r result reply e
  have hserver : server.registry.IsStandard := rfl
  have hjson : Backend.json ∈ Registry.standard.backends := by decide
  have hcrosses : result.Crosses .json := by
    rintro v ⟨⟩
    exact ⟨⟨trivial, trivial, trivial, trivial⟩, by decide,
      fun _ ↦ ⟨trivial, trivial, trivial, trivial⟩⟩
  have hreply : server.Replies r (.ok result) reply := by
    have h := Replies.result (c := server) (r := r) (b := .json) rfl
      (show [("b", "2"), ("a", "1")].Perm result.attachments.entries by decide)
    rwa [replyFrame_ok hserver hjson rfl] at h
  have hlength : reply.body.octets.length ≤ Frame.clampLimit 64 := by decide +kernel
  have hshort : (server.replyFrame r (.error e)).body.octets.length ≤ Frame.clampLimit 64 := by
    decide +kernel
  refine ⟨hcrosses, hreply, hlength, ?_, ?_⟩
  · obtain ⟨-, wire, hwire, harrives⟩ := outcome_transparent hserver
      Registry.isStandard_standard hjson rfl hreply hlength hlength
    refine ⟨wire, hwire, fun chunks hchunks ↦ ?_⟩
    obtain ⟨d, got, hd, hframes, -, -, -, -, -, hresult, -⟩ := harrives chunks hchunks
    exact ⟨d, got, hd, hframes, hresult result rfl hcrosses⟩
  · obtain ⟨-, wire, hwire, harrives⟩ := outcome_transparent hserver
      Registry.isStandard_standard hjson rfl (replies_replyFrame hserver hjson rfl (.error e)) hshort
      hshort
    refine ⟨wire, hwire, fun chunks hchunks ↦ ?_⟩
    obtain ⟨d, got, hd, hframes, -, -, -, -, -, -, hfailure⟩ := harrives chunks hchunks
    exact ⟨d, got, hd, hframes, (hfailure e rfl).1 result⟩

end Connection

end RpcTransport
