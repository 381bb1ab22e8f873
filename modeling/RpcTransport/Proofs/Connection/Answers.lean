import Mathlib.Logic.Relation
import RpcTransport.Proofs.Connection.Backlog
import RpcTransport.Proofs.Frame.RoundTrip
import RpcTransport.Proofs.Serialization.Results

/-!
# What becomes of a request of the peer

A request that expects an answer is rejected by the reader or handed to a handler, and either makes
one reply, which is put behind the backlog and later taken by the writer. The three go on
independently, and so does everything else that a connection does meanwhile.

The writer does not write a reply that is over the payload limit, and tells nobody. So what is
written are the replies that fit, in the order in which they were made (`Service.Accounted`): the
replies of the reader always do, and a handler's reply that does not is never heard of.
-/

namespace RpcTransport

/-- A request that expects an answer. -/
def Frame.asks (f : Frame) : Bool := f.isRequest && f.twoWay && !f.isHeartbeat

theorem Frame.asks_of_request (f : Frame) (hrequest : f.isRequest = true)
    (hheartbeat : f.isHeartbeat = false) : f.asks = f.twoWay := by
  rw [asks, hrequest, hheartbeat, Bool.true_and, Bool.not_false, Bool.and_true]

/-- The body is within a payload limit. -/
def Frame.fits (limit : Nat) (f : Frame) : Bool :=
  decide (f.body.octets.length ≤ Frame.clampLimit limit)

namespace Connection

/-! ## Replies -/

/-- Why a request is not handed to a handler. -/
def rejection? (c : Connection) (handler : Bool) (f : Frame) : Option HandlerError :=
  if handler = false then some (.server "no request handler on this endpoint")
  else if c.registry.contains f.serialization = false then
    some (.badRequest s!"unsupported serialization id {f.serialization.toNat}")
  else none

theorem onRequest_eq (c : Connection) (handler : Bool) (f : Frame) :
    c.onRequest handler f = match c.rejection? handler f with
      | some e => (none, c.rejectRequest f e)
      | none => (some ⟨f.id, f.serialization, f.isEvent, f.twoWay, c.name, f.body⟩, c) := by
  rw [onRequest, rejection?]
  split
  · rfl
  · split
    · rfl
    · rfl

/-- Who made a reply, and of what. -/
inductive Reply where
  | rejection (f : Frame) (e : HandlerError)
  | outcome (r : InboundRequest) (o : HandlerOutcome)

namespace Reply

def id : Reply → UInt64
  | rejection f _ => f.id
  | outcome r _ => r.id

def frame (c : Connection) : Reply → Frame
  | rejection f e => c.errorFrame f.id f.serialization e
  | outcome r o => c.replyFrame r o

theorem frame_spec (c : Connection) (p : Reply) :
    (p.frame c).isReply = true ∧ (p.frame c).id = p.id := by
  cases p with
  | rejection f e => exact ⟨rfl, rfl⟩
  | outcome r o =>
    cases o with
    | error e => exact ⟨rfl, rfl⟩
    | ok result =>
      rw [frame, replyFrame]
      split
      · exact ⟨rfl, rfl⟩
      · exact ⟨rfl, rfl⟩

theorem frame_congr {c c' : Connection} (hregistry : c'.registry = c.registry)
    (hconfig : c'.config = c.config) (p : Reply) : p.frame c' = p.frame c := by
  cases p with
  | rejection f e => rw [frame, frame, errorFrame, errorFrame, hregistry, hconfig]
  | outcome r o =>
    cases o with
    | error e => simp only [frame, replyFrame, errorFrame, hregistry, hconfig]
    | ok result => simp only [frame, replyFrame, errorFrame, hregistry, hconfig]

end Reply

variable {c c' : Connection}

/-- A failure is sent as a text, or as nothing. -/
theorem length_errorFrame_le (c : Connection) (id : UInt64) (serialization : UInt8)
    (e : HandlerError) :
    (c.errorFrame id serialization e).body.octets.length ≤ 6 * (utf8 e.message).length + 5 := by
  rw [errorFrame]
  dsimp only [Frame.response, Frame.plain, Body.detached]
  rw [Registry.encode]
  cases c.registry.get (if c.registry.contains serialization = true then serialization
    else c.config.serialization) with
  | error e => exact Nat.zero_le _
  | ok b => exact b.format.length_writeText_le e.message

private theorem length_unsupported_le : ∀ n : Fin 256,
    (utf8 s!"unsupported serialization id {n.val}").length ≤ 40 := by
  decide +kernel

/-- **A rejection fits** the limit, if this is not very low. -/
theorem fits_rejection {handler : Bool} {f : Frame} {e : HandlerError} {limit : Nat}
    (h : c.rejection? handler f = some e) (hlimit : 256 ≤ limit) :
    ((Reply.rejection f e).frame c).fits limit = true := by
  have hmessage : (utf8 e.message).length ≤ 40 := by
    rw [rejection?] at h
    split at h
    · obtain rfl := Option.some.inj h
      decide
    · split at h
      · obtain rfl := Option.some.inj h
        exact length_unsupported_le ⟨f.serialization.toNat, f.serialization.toNat_lt⟩
      · exact nomatch h
  have hlength := c.length_errorFrame_le f.id f.serialization e
  have hclamp : 256 ≤ Frame.clampLimit limit := Nat.le_min.mpr ⟨hlimit, by decide⟩
  exact decide_eq_true (Nat.le_trans hlength (by omega))

/-! ## Their way into the backlog -/

theorem queues_finishRequest (hc : c.Lined) (r : InboundRequest) (o : HandlerOutcome) :
    Queues c (c.finishRequest r o) (if r.twoWay then [⟨c.replyFrame r o, .none⟩] else []) := by
  have hrelease : Queues c (c.release r.body) [] := queues_of_outlet hc rfl
  rw [finishRequest]
  cases r.twoWay with
  | false => exact hrelease
  | true => exact hrelease.trans (queues_enqueue hrelease.lined _)

theorem queues_rejectRequest (hc : c.Lined) {f : Frame}
    (hroom : f.twoWay = true → c.queue.length < c.capacity) (e : HandlerError) :
    Queues c (c.rejectRequest f e)
      (if f.twoWay then [⟨c.errorFrame f.id f.serialization e, .none⟩] else []) := by
  have hrelease : Queues c (c.release f.body) [] := queues_of_outlet hc rfl
  rw [rejectRequest]
  cases h : f.twoWay with
  | false => exact hrelease
  | true => exact hrelease.trans (queues_tryEnqueue_of_room hrelease.lined (hroom h) _)

/-- A connection makes some replies, and queues nothing else but requests and heartbeats. -/
def Makes (c c' : Connection) (ps : List Reply) : Prop :=
  ∃ os, Queues c c' os ∧ (os.map (·.frame)).filter Frame.isReply = ps.map (·.frame c)

theorem Passive.makes (h : Passive c c') : Makes c c' [] := by
  obtain ⟨os, hos, hqueues⟩ := h
  refine ⟨os, hqueues, List.filter_eq_nil_iff.mpr fun f hf ↦ ?_⟩
  obtain ⟨o, ho, rfl⟩ := List.mem_map.mp hf
  rw [hos o ho]
  exact Bool.false_ne_true

theorem makes_finishRequest (hc : c.Lined) (r : InboundRequest) (o : HandlerOutcome) :
    Makes c (c.finishRequest r o) (if r.twoWay then [.outcome r o] else []) := by
  refine ⟨_, queues_finishRequest hc r o, ?_⟩
  cases r.twoWay with
  | false => rfl
  | true => exact List.filter_cons_of_pos (Reply.frame_spec c (.outcome r o)).1

/-- The reply that the reader makes to a frame, if it makes one. -/
def rejections (c : Connection) (handler : Bool) (f : Frame) : List Reply :=
  if f.asks then (c.rejection? handler f).toList.map (.rejection f) else []

theorem makes_onRequest (hc : c.Lined) {handler : Bool} {f : Frame} (hrequest : f.isRequest = true)
    (hheartbeat : f.isHeartbeat = false)
    (hroom : c.rejections handler f ≠ [] → c.queue.length < c.capacity) :
    Makes c (c.onRequest handler f).2 (c.rejections handler f) := by
  have hasks := f.asks_of_request hrequest hheartbeat
  rw [onRequest_eq]
  rw [rejections, hasks] at hroom ⊢
  cases hrejection : c.rejection? handler f with
  | none =>
    rw [Option.toList_none, List.map_nil, ite_self]
    exact (passive_of_outlet hc rfl).makes
  | some e =>
    rw [hrejection] at hroom
    refine ⟨_, queues_rejectRequest hc (fun htwoWay ↦ hroom ?_) e, ?_⟩
    · rw [if_pos htwoWay]
      exact List.cons_ne_nil _ _
    · cases f.twoWay with
      | false => rfl
      | true => exact List.filter_cons_of_pos (Reply.frame_spec c (.rejection f e)).1

/-- **The reader makes a reply to a request that it rejects**, and to nothing else. -/
theorem makes_onFrame (hc : c.Lined) (handler : Bool) (f : Frame)
    (hroom : c.rejections handler f ≠ [] → c.queue.length < c.capacity) :
    Makes c (c.onFrame handler f).2 (c.rejections handler f) := by
  let arrived : Connection := { c with heartbeat := c.heartbeat.inbound, arena := c.arena.adoptOne }
  have hsame : arrived.outlet = c.outlet := rfl
  have harrived := hc.of_outlet hsame
  rw [onFrame]
  cases hheartbeat : f.isHeartbeat with
  | true =>
    have hnone : c.rejections handler f = [] := by
      rw [rejections, Frame.asks, hheartbeat, Bool.not_true, Bool.and_false]
      rfl
    rw [hnone, if_pos rfl]
    exact ((passive_onHeartbeat harrived f).trans_outlet hc hsame).makes
  | false =>
    rw [if_neg Bool.false_ne_true]
    cases hrequest : f.isRequest with
    | true =>
      rw [if_pos rfl]
      obtain ⟨os, hqueues, hmade⟩ := makes_onRequest harrived hrequest hheartbeat hroom
      exact ⟨os, (queues_of_outlet hc hsame).trans hqueues, hmade⟩
    | false =>
      have hnone : c.rejections handler f = [] := by
        rw [rejections, Frame.asks, hrequest]
        rfl
      rw [hnone, if_neg Bool.false_ne_true]
      exact ((passive_onResponse harrived f).trans_outlet hc hsame).makes

/-- A frame that asks for an answer is rejected or handed to a handler, and no other is. -/
theorem ids_onFrame (c : Connection) (handler : Bool) (f : Frame) :
    (c.rejections handler f).map Reply.id ++
        ((c.onFrame handler f).1.toList.filter (·.twoWay)).map (·.id) =
      if f.asks then [f.id] else [] := by
  let arrived : Connection := { c with heartbeat := c.heartbeat.inbound, arena := c.arena.adoptOne }
  have hsame : arrived.rejection? handler f = c.rejection? handler f := rfl
  rw [rejections, onFrame]
  cases hheartbeat : f.isHeartbeat with
  | true => simp [Frame.asks, hheartbeat]
  | false =>
    cases hrequest : f.isRequest with
    | false => simp [Frame.asks, hrequest]
    | true =>
      rw [if_neg Bool.false_ne_true, if_pos rfl, onRequest_eq, hsame]
      rw [f.asks_of_request hrequest hheartbeat]
      cases c.rejection? handler f with
      | none =>
        cases f.twoWay with
        | true | false => rfl
      | some e =>
        cases f.twoWay with
        | true | false => rfl

end Connection

end RpcTransport
