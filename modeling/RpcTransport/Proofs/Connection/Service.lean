import Mathlib.Logic.Relation
import RpcTransport.Proofs.Connection.Answers
import RpcTransport.Proofs.Frame.RoundTrip

/-!
# Answers on the wire

The peer's frames come in, handlers answer in whatever order and with whatever outcome, the writer
takes one frame after the other and puts its octets on the transport, and the connection does
whatever else it does. What the writer has put there, or is about to, are the frames that were
queued and fit the payload limit, in their order; so the peer reads the replies that fit, one to
each request that expects an answer (`Service.answers_read`).

The writer does not take a frame once the connection is cancelled, and then nothing more is
promised. Nor is a rejection that finds the queue full.
-/

namespace RpcTransport

namespace Connection

/-- What a connection does besides serving requests and writing. -/
inductive Aside : Connection → Connection → Prop where
  | submit (kind : CompletionKind) (body : Bytes) (timeout : Option Nat) (c : Connection) :
      Aside c (c.submit kind body timeout).2
  | oneway (body : Bytes) (c : Connection) : Aside c (c.sendOneway body).2
  | event (body : Bytes) (c : Connection) : Aside c (c.sendEvent body).2
  | idle (c : Connection) : Aside c c.onIdle.2
  | deadline (id : UInt64) (c : Connection) : Aside c (c.expire id)
  | wheel (w : TimingWheel Nat) (c : Connection) : Aside c { c with wheel := w }
  | take {c : Connection} {d : Dispatcher} (h : c.dispatcher.take = some d) :
      Aside c { c with dispatcher := d }
  | finish {c : Connection} {held : DecodeJob → Bool} {job : DecodeJob} {d : Dispatcher}
      (h : c.dispatcher.finish held = some (job, d)) :
      Aside c ({ c with dispatcher := d }.finishDecoding job)
  | release (b : Body) (c : Connection) : Aside c (c.release b)
  | shutdown (reason : TransportError) (c : Connection) : Aside c (c.shutdown reason)

theorem Aside.passive {c c' : Connection} (h : Aside c c') (hc : c.Lined) : Passive c c' := by
  cases h with
  | submit kind body timeout => exact passive_submit hc kind body timeout
  | oneway | event =>
    have hsame : c.takeId.2.outlet = c.outlet := rfl
    exact (passive_sendAcknowledged (hc.of_outlet hsame) rfl).trans_outlet hc hsame
  | idle => exact passive_onIdle hc
  | shutdown reason => exact passive_of_outlet hc (c.outlet_shutdown reason)
  | deadline | wheel | take | finish | release => exact passive_of_outlet hc rfl

end Connection

open Connection (Reply Lined Queues Makes Aside)

/-! ## The system -/

/-- A connection with its handlers and its writer. -/
structure Service where
  connection : Connection
  writer : Writer
  /-- What was put on the transport. -/
  wire : Bytes
  /-- What handlers were called with and have not answered. -/
  serving : List InboundRequest
  /-- The requests that came in and expect an answer. -/
  asked : List Frame
  /-- The replies that were made, in this order. -/
  replies : List Reply
  /-- The frames that the writer found to fit. -/
  sent : List Frame

namespace Service

def start (info : ConnectionInfo) (config : ConnectionConfig) (registry : Registry)
    (dispatcher : Dispatcher) : Service :=
  ⟨.start info config registry dispatcher, .idle, [], [], [], [], []⟩

def limit (s : Service) : Nat := s.connection.config.payloadLimit

/-- A frame comes in; `handler` says whether requests are served. -/
def receive (s : Service) (handler : Bool) (f : Frame) : Service :=
  { s with
    connection := (s.connection.onFrame handler f).2
    serving := s.serving ++ (s.connection.onFrame handler f).1.toList
    asked := s.asked ++ if f.asks then [f] else []
    replies := s.replies ++ s.connection.rejections handler f }

/-- One step of a handler or of the writer. -/
inductive Moves : Service → Service → Prop where
  | finish (before : List InboundRequest) (r : InboundRequest) (after : List InboundRequest)
      (o : HandlerOutcome) (s : Service) (h : s.serving = before ++ r :: after) :
      Moves s { s with
        connection := s.connection.finishRequest r o
        serving := before ++ after
        replies := s.replies ++ if r.twoWay then [.outcome r o] else [] }
  /-- The writer takes a frame, or fails it. -/
  | take (s : Service) {o : Outbound} {c c' : Connection} {w : Writer}
      (hopen : s.connection.cancelled = false) (hidle : s.writer = .idle)
      (hnext : s.connection.dequeue = some (o, c)) (h : s.connection.takeFrame = some (w, c')) :
      Moves s { s with
        connection := c'
        writer := w
        sent := s.sent ++ if o.frame.fits s.limit then [o.frame] else [] }
  /-- The transport takes some octets. -/
  | transmit (n : Nat) (s : Service) {a : Acknowledgement} {unsent : Bytes}
      (hopen : s.connection.cancelled = false) (h : s.writer = .sending a unsent)
      (hn : 0 < (unsent.take n).length) :
      Moves s { s with wire := s.wire ++ unsent.take n, writer := .sending a (unsent.drop n) }
  | written (s : Service) {a : Acknowledgement} (hopen : s.connection.cancelled = false)
      (h : s.writer = .sending a []) :
      Moves s { s with connection := s.connection.acknowledge a none, writer := .idle }

inductive Step (handler : Bool) : Service → Service → Prop where
  | receive (f : Frame) (s : Service)
      (hroom : s.connection.rejections handler f ≠ [] →
        s.connection.queue.length < s.connection.capacity) :
      Step handler s (s.receive handler f)
  | aside (s : Service) {c : Connection} (h : Aside s.connection c) :
      Step handler s { s with connection := c }
  | move {s s' : Service} (h : Moves s s') : Step handler s s'

/-! ## The invariant -/

/-- The octets that the writer is yet to put on the transport. -/
def unsent (s : Service) : Bytes :=
  match s.writer with
  | .sending _ unsent => unsent
  | _ => []

/-- The frames that were written or will be. -/
def outgoing (s : Service) : List Frame :=
  s.sent ++ (s.connection.backlog.map (·.frame)).filter (Frame.fits s.limit)

structure Accounted (config : ConnectionConfig) (s : Service) : Prop where
  lined : s.connection.Lined
  config_eq : s.connection.config = config
  /-- The replies that fit are on their way, in the order in which they were made. -/
  outgoing_eq : s.outgoing.filter Frame.isReply =
    (s.replies.map (·.frame s.connection)).filter (Frame.fits s.limit)
  /-- Each request that asks has a reply, or a handler is at it. -/
  asked_perm : (s.replies.map Reply.id ++ (s.serving.filter (·.twoWay)).map (·.id)).Perm
    (s.asked.map (·.id))
  rejection_fits : 256 ≤ config.payloadLimit → ∀ f e, .rejection f e ∈ s.replies →
    ((Reply.rejection f e).frame s.connection).fits s.limit = true
  writer_eq : s.writer = .idle ∨ ∃ a unsent, s.writer = .sending a unsent
  wire_eq : s.wire ++ s.unsent = (s.sent.map fun f ↦ f.header ++ f.body.octets).flatten
  sent_fits : ∀ f ∈ s.sent, f.fits s.limit = true

variable {config : ConnectionConfig} {handler : Bool} {s s' : Service}

theorem accounted_start (info : ConnectionInfo) (config : ConnectionConfig) (registry : Registry)
    (dispatcher : Dispatcher) : Accounted config (start info config registry dispatcher) where
  lined := ⟨rfl, .inl rfl⟩
  config_eq := rfl
  outgoing_eq := rfl
  asked_perm := .refl _
  rejection_fits := fun _ _ _ h ↦ nomatch h
  writer_eq := .inl rfl
  wire_eq := rfl
  sent_fits := List.forall_mem_nil _

/-! ## What a step keeps -/

/-- What a connection makes is on its way, if it fits. -/
theorem Accounted.makes (hs : Accounted config s) {c : Connection} {ps : List Reply}
    (h : Makes s.connection c ps) {serving : List InboundRequest} {asked : List Frame}
    (hasked : ((s.replies ++ ps).map Reply.id ++ (serving.filter (·.twoWay)).map (·.id)).Perm
      (asked.map (·.id)))
    (hfits : 256 ≤ config.payloadLimit → ∀ f e, .rejection f e ∈ ps →
      ((Reply.rejection f e).frame s.connection).fits s.limit = true) :
    Accounted config { s with
      connection := c, serving := serving, asked := asked, replies := s.replies ++ ps } := by
  obtain ⟨os, hqueues, hmade⟩ := h
  have hlimit : c.config.payloadLimit = s.limit := congrArg _ hqueues.config_eq
  have hframe : Reply.frame c = Reply.frame s.connection :=
    funext fun p ↦ p.frame_congr hqueues.registry_eq hqueues.config_eq
  refine ⟨hqueues.lined, hqueues.config_eq.trans hs.config_eq, ?_, hasked, ?_, hs.writer_eq,
    hs.wire_eq, fun f hf ↦ ?_⟩
  · have hbefore := hs.outgoing_eq
    simp only [outgoing, limit, hlimit, hframe, hqueues.backlog_eq, List.map_append,
      List.filter_append] at hbefore ⊢
    rw [← List.append_assoc, hbefore, List.filter_comm, hmade]
  · intro h256 f e hmem
    change ((Reply.rejection f e).frame c).fits c.config.payloadLimit = true
    rw [hlimit, hframe]
    rcases List.mem_append.mp hmem with hmem | hmem
    · exact hs.rejection_fits h256 f e hmem
    · exact hfits h256 f e hmem
  · change f.fits c.config.payloadLimit = true
    rw [hlimit]
    exact hs.sent_fits f hf

theorem Accounted.of_passive (hs : Accounted config s) {c : Connection}
    (h : Connection.Passive s.connection c) : Accounted config { s with connection := c } := by
  have hasked := hs.asked_perm
  rw [← List.append_nil s.replies] at hasked
  have hmakes := hs.makes h.makes hasked fun _ _ _ h ↦ nomatch h
  rwa [List.append_nil] at hmakes

theorem Accounted.receive (hs : Accounted config s) (f : Frame)
    (hroom : s.connection.rejections handler f ≠ [] →
      s.connection.queue.length < s.connection.capacity) :
    Accounted config (s.receive handler f) := by
  refine hs.makes (Connection.makes_onFrame hs.lined handler f hroom) ?_ ?_
  · have hids := s.connection.ids_onFrame handler f
    have hasked : (if f.asks then [f] else []).map (·.id) = if f.asks then [f.id] else [] := by
      split
      · rfl
      · rfl
    rw [List.map_append, List.filter_append, List.map_append, List.map_append, hasked, ← hids]
    refine List.Perm.trans ?_ (hs.asked_perm.append_right _)
    rw [List.append_assoc, List.append_assoc]
    exact (List.perm_append_comm_assoc _ _ _).append_left _
  · intro h256 g e hmem
    rw [Connection.rejections] at hmem
    split at hmem
    · obtain ⟨e', he', heq⟩ := List.mem_map.mp hmem
      obtain ⟨rfl, rfl⟩ := Reply.rejection.inj heq
      rw [limit, hs.config_eq]
      exact Connection.fits_rejection (Option.mem_toList.mp he') h256
    · exact absurd hmem List.not_mem_nil

theorem Accounted.finish (hs : Accounted config s) {before after : List InboundRequest}
    {r : InboundRequest} (h : s.serving = before ++ r :: after) (o : HandlerOutcome) :
    Accounted config { s with
      connection := s.connection.finishRequest r o
      serving := before ++ after
      replies := s.replies ++ if r.twoWay then [.outcome r o] else [] } := by
  refine hs.makes (Connection.makes_finishRequest hs.lined r o) ?_ ?_
  · have hperm := hs.asked_perm
    rw [h, List.filter_append, List.map_append] at hperm
    rw [List.map_append, List.filter_append, List.map_append]
    cases htwoWay : r.twoWay with
    | false =>
      rw [List.filter_cons_of_neg (by simp [htwoWay])] at hperm
      rw [if_neg Bool.false_ne_true, List.map_nil, List.append_nil]
      exact hperm
    | true =>
      have hmiddle : (r.id :: ((before.filter (·.twoWay)).map (·.id) ++
          (after.filter (·.twoWay)).map (·.id))).Perm ((before.filter (·.twoWay)).map (·.id) ++
            r.id :: (after.filter (·.twoWay)).map (·.id)) := List.perm_middle.symm
      rw [List.filter_cons_of_pos htwoWay] at hperm
      rw [if_pos rfl, List.append_assoc]
      exact (hmiddle.append_left _).trans hperm
  · intro _ f e hmem
    split at hmem
    · exact nomatch List.mem_singleton.mp hmem
    · exact nomatch hmem

/-! ## The writer -/

end Service

/-- The writer has a frame that fits in hand, or has failed one that does not. -/
theorem Connection.takeFrame_cases {c c₁ c' : Connection} {o : Outbound} {w : Writer}
    (hnext : c.dequeue = some (o, c₁)) (h : c.takeFrame = some (w, c')) :
    c'.outlet = c₁.outlet ∧
      (o.frame.fits c₁.config.payloadLimit = true ∧
          w = .sending o.acknowledgement (o.frame.header ++ o.frame.body.octets) ∨
        o.frame.fits c₁.config.payloadLimit = false ∧ w = .idle) := by
  rw [takeFrame, hnext] at h
  dsimp only at h
  by_cases hfits : o.frame.body.octets.length ≤ Frame.clampLimit c₁.config.payloadLimit
  · rw [Frame.encode_of_le hfits] at h
    obtain ⟨rfl, rfl⟩ := Prod.mk.inj (Option.some.inj h)
    exact ⟨rfl, .inl ⟨decide_eq_true hfits, rfl⟩⟩
  · rw [Frame.encode, if_pos (Nat.not_le.mp hfits)] at h
    obtain ⟨rfl, rfl⟩ := Prod.mk.inj (Option.some.inj h)
    exact ⟨c₁.outlet_acknowledge _ _, .inr ⟨decide_eq_false hfits, rfl⟩⟩

namespace Service

theorem Accounted.take (hs : Accounted config s) {o : Outbound} {c c' : Connection} {w : Writer}
    (hidle : s.writer = .idle) (hnext : s.connection.dequeue = some (o, c))
    (h : s.connection.takeFrame = some (w, c')) :
    Accounted config { s with
      connection := c'
      writer := w
      sent := s.sent ++ if o.frame.fits s.limit then [o.frame] else [] } := by
  obtain ⟨hbacklog, hlined, hregistry, hconfig⟩ := Connection.backlog_dequeue hs.lined hnext
  obtain ⟨houtlet, hcases⟩ := Connection.takeFrame_cases hnext h
  have hqueues := Connection.queues_of_outlet hlined houtlet
  have hlimit : c'.config.payloadLimit = s.limit :=
    congrArg _ (hqueues.config_eq.trans hconfig)
  have hframe : Reply.frame c' = Reply.frame s.connection := funext fun p ↦
    p.frame_congr (hqueues.registry_eq.trans hregistry) (hqueues.config_eq.trans hconfig)
  have hrest : c'.backlog = c.backlog := hqueues.backlog_eq.trans (List.append_nil _)
  have hwire := hs.wire_eq
  rw [unsent, hidle, List.append_nil] at hwire
  rw [show c.config.payloadLimit = s.limit from congrArg _ hconfig] at hcases
  refine ⟨hqueues.lined, (hqueues.config_eq.trans hconfig).trans hs.config_eq, ?_, hs.asked_perm,
    fun h256 f e hmem ↦ ?_, ?_, ?_, fun f hf ↦ ?_⟩
  · have hbefore := hs.outgoing_eq
    have houtgoing : s.outgoing = (s.sent ++ if o.frame.fits s.limit then [o.frame] else []) ++
        (c'.backlog.map (·.frame)).filter (Frame.fits s.limit) := by
      rw [outgoing, hbacklog, hrest, List.map_cons, List.filter_cons, List.append_assoc]
      split
      · rfl
      · rfl
    rw [houtgoing] at hbefore
    simp only [outgoing, limit, hlimit, hframe]
    exact hbefore
  · change ((Reply.rejection f e).frame c').fits c'.config.payloadLimit = true
    rw [hlimit, hframe]
    exact hs.rejection_fits h256 f e hmem
  · rcases hcases with ⟨-, rfl⟩ | ⟨-, rfl⟩
    · exact .inr ⟨_, _, rfl⟩
    · exact .inl rfl
  · rcases hcases with ⟨hfits, rfl⟩ | ⟨hfits, rfl⟩
    · simp only [unsent, hfits, if_true, List.map_append, List.flatten_append, hwire]
      simp
    · simp only [unsent, hfits, Bool.false_eq_true, if_false, List.append_nil, hwire]
  · change f.fits c'.config.payloadLimit = true
    rw [hlimit]
    rcases List.mem_append.mp hf with hf | hf
    · exact hs.sent_fits f hf
    · split at hf
      · next hfits => exact List.mem_singleton.mp hf ▸ hfits
      · exact nomatch hf

theorem Accounted.transmit (hs : Accounted config s) {a : Acknowledgement} {unsent : Bytes}
    (h : s.writer = .sending a unsent) (n : Nat) :
    Accounted config { s with
      wire := s.wire ++ unsent.take n, writer := .sending a (unsent.drop n) } := by
  have hwire := hs.wire_eq
  rw [Service.unsent, h] at hwire
  refine ⟨hs.lined, hs.config_eq, hs.outgoing_eq, hs.asked_perm, hs.rejection_fits,
    .inr ⟨_, _, rfl⟩, ?_, hs.sent_fits⟩
  rw [← hwire, Service.unsent, List.append_assoc, List.take_append_drop]

theorem Accounted.written (hs : Accounted config s) {a : Acknowledgement}
    (h : s.writer = .sending a []) :
    Accounted config { s with connection := s.connection.acknowledge a none, writer := .idle } := by
  have hacknowledged := hs.of_passive
    (Connection.passive_of_outlet hs.lined (s.connection.outlet_acknowledge a none))
  refine ⟨hacknowledged.lined, hacknowledged.config_eq, hacknowledged.outgoing_eq,
    hacknowledged.asked_perm, hacknowledged.rejection_fits, .inl rfl, ?_, hacknowledged.sent_fits⟩
  have hwire := hs.wire_eq
  rw [unsent, h] at hwire
  exact hwire

theorem Step.accounted (h : Step handler s s') (hs : Accounted config s) :
    Accounted config s' := by
  cases h with
  | receive f _ hroom => exact hs.receive f hroom
  | aside _ h => exact hs.of_passive (h.passive hs.lined)
  | move h =>
    cases h with
    | finish before r after o _ h => exact hs.finish h o
    | take _ _ hidle hnext h => exact hs.take hidle hnext h
    | transmit n _ _ h => exact hs.transmit h n
    | written _ _ h => exact hs.written h

theorem accounted_of_reachable {info : ConnectionInfo} {registry : Registry}
    {dispatcher : Dispatcher}
    (h : Relation.ReflTransGen (Step handler) (start info config registry dispatcher) s) :
    Accounted config s := by
  induction h with
  | refl => exact accounted_start info config registry dispatcher
  | tail _ hstep ih => exact hstep.accounted ih

/-! ## Going on until all is written -/

/-- Every request was answered, and every frame was written. -/
structure Settled (s : Service) : Prop where
  serving_eq : s.serving = []
  backlog_eq : s.connection.backlog = []
  writer_eq : s.writer = .idle

/-- More than the steps of the writer with a frame. -/
def weight (o : Outbound) : Nat := o.frame.body.octets.length + Frame.headerSize + 2

/-- More than the steps that are left to the writer. -/
def cost (s : Service) : Nat :=
  (s.connection.backlog.map weight).sum +
    match s.writer with
    | .sending _ unsent => unsent.length + 1
    | _ => 0

/-- **Handlers and writer go on** until all is written, or the connection is cancelled. -/
theorem Accounted.settled_or_moves (hs : Accounted config s)
    (hopen : s.connection.cancelled = false) : s.Settled ∨ ∃ s', Moves s s' := by
  rcases hserving : s.serving with _ | ⟨r, rest⟩
  case cons => exact .inr ⟨_, .finish [] r rest (.error (.server "")) s hserving⟩
  rcases hs.writer_eq with hidle | ⟨a, unsent, hsending⟩
  · cases hnext : s.connection.dequeue with
    | none => exact .inl ⟨hserving, Connection.dequeue_eq_none hs.lined hnext, hidle⟩
    | some next =>
      obtain ⟨o, c⟩ := next
      have htake : ∃ w c', s.connection.takeFrame = some (w, c') := by
        rw [Connection.takeFrame, hnext]
        dsimp only
        split
        · exact ⟨_, _, rfl⟩
        · exact ⟨_, _, rfl⟩
      obtain ⟨w, c', htake⟩ := htake
      exact .inr ⟨_, .take s hopen hidle hnext htake⟩
  · cases unsent with
    | nil => exact .inr ⟨_, .written s hopen hsending⟩
    | cons b unsent => exact .inr ⟨_, .transmit 1 s hopen hsending Nat.one_pos⟩

/-- Each step of a handler is one less, and the writer needs no more steps than there are octets. -/
theorem Accounted.cost_lt (hs : Accounted config s) (h : Moves s s') :
    s'.serving.length < s.serving.length ∨
      s'.serving.length = s.serving.length ∧ s'.cost < s.cost := by
  cases h with
  | finish before r after o _ h =>
    refine .inl ?_
    simp only [h, List.length_append, List.length_cons]
    omega
  | @take _ o c c' w _ hidle hnext h =>
    refine .inr ⟨rfl, ?_⟩
    obtain ⟨hbacklog, hlined, -, -⟩ := Connection.backlog_dequeue hs.lined hnext
    obtain ⟨houtlet, hcases⟩ := Connection.takeFrame_cases hnext h
    have hrest : c'.backlog = c.backlog :=
      (Connection.queues_of_outlet hlined houtlet).backlog_eq.trans (List.append_nil _)
    simp only [cost, hbacklog, hrest, hidle, List.map_cons, List.sum_cons, weight,
      Frame.headerSize]
    rcases hcases with ⟨-, rfl⟩ | ⟨-, rfl⟩
    · simp only [List.length_append, Frame.length_header]
      omega
    · simp only
      omega
  | @transmit n _ a unsent _ h hn =>
    refine .inr ⟨rfl, ?_⟩
    rw [List.length_take] at hn
    simp only [cost, h, List.length_drop]
    omega
  | @written _ a _ h =>
    refine .inr ⟨rfl, ?_⟩
    have hrest : (s.connection.acknowledge a none).backlog = s.connection.backlog :=
      (Connection.queues_of_outlet hs.lined
        (s.connection.outlet_acknowledge a none)).backlog_eq.trans (List.append_nil _)
    simp only [cost, hrest, h]
    exact Nat.lt_succ_self _

/-! ## At the peer -/

/-- The peer tells replies from other frames, and whose they are. -/
theorem ids_received {registry : Registry} {sent got : List Frame}
    (h : List.Forall₂ (Frame.Received registry) sent got) :
    (got.filter Frame.isReply).map (·.id) = (sent.filter Frame.isReply).map (·.id) := by
  induction h with
  | nil => rfl
  | @cons f g sent got hfirst _ ih =>
    have hreply : g.isReply = f.isReply := by
      rw [Frame.isReply, Frame.isReply, hfirst.isRequest, hfirst.isEvent]
    rw [List.filter_cons, List.filter_cons, hreply]
    split
    · rw [List.map_cons, List.map_cons, hfirst.id, ih]
    · exact ih

/-- The replies that the writer does not write. -/
def lost (s : Service) : List Reply :=
  s.replies.filter fun p ↦ !(p.frame s.connection).fits s.limit

/-- **Every request is answered once, unless its answer is too long.** When all is written, the peer
reads no request's id on more responses than there were requests of this id that expect an answer,
and on fewer only if replies to them were over the limit: the ids that it reads and those of the
lost replies are together the ids of these requests. Whatever was lost, a handler had answered it,
for a rejection fits. As long as the connection is not cancelled, handlers and the writer go on
until all is written. -/
theorem answers_read {info : ConnectionInfo} {registry : Registry} {dispatcher : Dispatcher}
    (h : Relation.ReflTransGen (Step handler) (start info config registry dispatcher) s)
    (hlimit : 256 ≤ config.payloadLimit) :
    (s.Settled → ∀ (peer : Registry) (readLimit : Nat), config.payloadLimit ≤ readLimit →
      ∀ chunks : List Bytes, chunks.flatten = s.wire →
        ∃ d, FrameReader.readChunks peer (.ofLimit readLimit) chunks = some d ∧
          d.refusal = none ∧ d.reader.buffer = [] ∧
          ((d.frames.filter Frame.isReply).map (·.id) ++ s.lost.map Reply.id).Perm
            (s.asked.map (·.id))) ∧
    (∀ p ∈ s.lost, ∃ r o, p = .outcome r o ∧
      Frame.clampLimit config.payloadLimit < (s.connection.replyFrame r o).body.octets.length) ∧
    (s.connection.cancelled = false → s.Settled ∨ ∃ s', Moves s s') ∧
    ∀ s', Moves s s' → s'.serving.length < s.serving.length ∨
      s'.serving.length = s.serving.length ∧ s'.cost < s.cost := by
  have hs := accounted_of_reachable h
  have hconfig : s.limit = config.payloadLimit := congrArg _ hs.config_eq
  refine ⟨?_, ?_, hs.settled_or_moves, fun _ ↦ hs.cost_lt⟩
  · intro hsettled peer readLimit hread chunks hchunks
    have hwire := hs.wire_eq
    rw [unsent, hsettled.writer_eq, List.append_nil] at hwire
    have hfits : ∀ f ∈ s.sent, f.body.octets.length ≤ Frame.clampLimit readLimit := by
      intro f hf
      have hfits := of_decide_eq_true (hs.sent_fits f hf)
      rw [hconfig] at hfits
      exact Nat.le_trans hfits (Nat.le_min.mpr
        ⟨Nat.le_trans (Nat.min_le_left _ _) hread, Nat.min_le_right _ _⟩)
    obtain ⟨d, hd, hframes, hrefusal, hbuffer⟩ :=
      Frame.readChunks_encoded peer hfits (hchunks.trans hwire)
    refine ⟨d, hd, hrefusal, hbuffer, ?_⟩
    have hsent := hs.outgoing_eq
    rw [outgoing, hsettled.backlog_eq, List.map_nil, List.filter_nil, List.append_nil] at hsent
    have hasked := hs.asked_perm
    rw [hsettled.serving_eq, List.filter_nil, List.map_nil, List.append_nil] at hasked
    have hids : (d.frames.filter Frame.isReply).map (·.id) =
        (s.replies.filter fun p ↦ (p.frame s.connection).fits s.limit).map Reply.id := by
      rw [ids_received hframes, hsent, List.filter_map, List.map_map]
      exact List.map_congr_left fun p _ ↦ (p.frame_spec s.connection).2
    rw [hids, lost, ← List.map_append]
    exact ((List.filter_append_perm _ _).map Reply.id).trans hasked
  · intro p hp
    obtain ⟨hmem, hover⟩ := List.mem_filter.mp hp
    rw [Bool.not_eq_true'] at hover
    cases p with
    | rejection f e =>
      exact Bool.noConfusion (hover.symm.trans (hs.rejection_fits hlimit f e hmem))
    | outcome r o =>
      rw [hconfig] at hover
      exact ⟨r, o, rfl, Nat.not_le.mp (of_decide_eq_false hover)⟩

/-- One request is answered, with a null result, and the peer reads its reply. -/
theorem answers_read_null_result :
    ∃ s, Relation.ReflTransGen (Step true) (start ⟨"server", "peer", .server, 1⟩ .standard .standard
        (.ofConfig .standard 0 .standard)) s ∧ 256 ≤ ConnectionConfig.standard.payloadLimit ∧
      s.Settled ∧ ∃ d, FrameReader.readChunks .standard (.ofLimit Frame.defaultLimit)
        [s.wire] = some d ∧ (d.frames.filter Frame.isReply).map (·.id) = [9] := by
  let s₀ : Service := start ⟨"server", "peer", .server, 1⟩ .standard .standard
    (.ofConfig .standard 0 .standard)
  let r : InboundRequest := ⟨9, 6, false, true, "server", default⟩
  have h₁ : Relation.ReflTransGen (Step true) s₀ _ :=
    .single (.receive (.request 9 6 default) s₀ fun _ ↦ by decide)
  have h₂ := h₁.tail (.move (.finish [] r [] (.ok .null) _ rfl))
  have h₃ := h₂.tail (.move (.take _ rfl rfl rfl rfl))
  have h₄ := h₃.tail (.move (.transmit 100 _ rfl rfl (by decide)))
  have h₅ := h₄.tail (.move (.written _ rfl rfl))
  obtain ⟨d, hd, -, -, hids⟩ := (answers_read h₅ (by decide)).1 ⟨rfl, rfl, rfl⟩ .standard
    Frame.defaultLimit (Nat.le_refl _) _ List.flatten_singleton
  refine ⟨_, h₅, by decide, ⟨rfl, rfl, rfl⟩, d, hd, ?_⟩
  -- Nothing was lost.
  change (_ ++ []).Perm [(9 : UInt64)] at hids
  rwa [List.append_nil, List.perm_singleton] at hids

/-- **A reply over the limit is dropped**, and nothing is written in its place. -/
theorem moves_drop {f : Frame} {c : Connection} (hopen : s.connection.cancelled = false)
    (hidle : s.writer = .idle) (hnext : s.connection.dequeue = some (⟨f, .none⟩, c))
    (hconfig : c.config = s.connection.config) (hover : f.fits s.limit = false) :
    Moves s { s with connection := c, writer := .idle, sent := s.sent ++ [] } := by
  have hlimit : Frame.clampLimit c.config.payloadLimit < f.body.octets.length := by
    rw [hconfig]
    exact Nat.not_le.mp (of_decide_eq_false hover)
  have htake : s.connection.takeFrame = some (.idle, c) := by
    rw [Connection.takeFrame, hnext]
    dsimp only
    rw [Frame.encode, if_pos hlimit]
    rfl
  have h := Moves.take s hopen hidle hnext htake
  rwa [hover] at h

/-- With a limit of 256 octets, a null result with an attachment of 400 is never heard of. -/
theorem overlong_reply_unheard :
    ¬ ∀ (config : ConnectionConfig) (s : Service), 256 ≤ config.payloadLimit →
      Relation.ReflTransGen (Step true) (start ⟨"server", "peer", .server, 1⟩ config .standard
        (.ofConfig .standard 0 .standard)) s →
      s.connection.cancelled = false → s.Settled →
      ∀ d, FrameReader.readChunks .standard (.ofLimit config.payloadLimit) [s.wire] = some d →
        ((d.frames.filter Frame.isReply).map (·.id)).Perm (s.asked.map (·.id)) := by
  intro hall
  let config := { ConnectionConfig.standard with payloadLimit := 256 }
  let s₀ : Service := start ⟨"server", "peer", .server, 1⟩ config .standard
    (.ofConfig .standard 0 .standard)
  let r : InboundRequest := ⟨9, 6, false, true, "server", default⟩
  let result : CallResult := CallResult.null.attach "k" (String.ofList (List.replicate 400 'x'))
  have hover : (s₀.connection.replyFrame r (.ok result)).fits 256 = false := by
    decide +kernel
  have h₁ : Relation.ReflTransGen (Step true) s₀ _ :=
    .single (.receive (.request 9 6 default) s₀ fun _ ↦ by decide)
  have h₂ := h₁.tail (.move (.finish [] r [] (.ok result) _ rfl))
  have h₃ := h₂.tail (.move (moves_drop rfl rfl rfl rfl hover))
  have hids := hall config _ (by decide) h₃ rfl ⟨rfl, rfl, rfl⟩ _ rfl
  exact List.cons_ne_nil _ _ hids.nil_eq.symm

end Service

end RpcTransport
