import Mathlib.Data.List.Count
import RpcTransport.Proofs.Connection.Acceptance
import RpcTransport.Proofs.Connection.Peers
import RpcTransport.Proofs.Serialization.Heartbeats

/-!
# One-way frames at the peer

An event or a one-way request that was accepted is on the wire as a whole, and its place among the
frames there is known (`Writing.Accepted.sent_eq`). The peer reads the wire in whatever chunks it
comes, so the frame that it takes in at this place is the one that was sent; it calls the handler
for it once, and queues nothing on account of it (`Writing.Accepted.served_once`).

One-way requests may carry anything. Of events the peer sees only what is on the wire, and an event
without a body, or with the null of its backend, is what a heartbeat is. It does not reach the
handler: the peer answers it as it answers a probe.

## Places

Frames are known by their place among those that the peer has taken in (`Hearing.heard`). Ids would
not do, for the sender may use one twice. Each call of the handler and each frame that is queued on
account of a frame is logged with its place, whenever it comes: a call is answered long after other
frames have come in.
-/

namespace RpcTransport

open Relation (ReflTransGen)

/-- A frame for which a handler is called, if there is one. -/
def Frame.Served (registry : Registry) (f : Frame) : Prop :=
  f.isHeartbeat = false ∧ f.isRequest = true ∧ registry.contains f.serialization = true

namespace Connection

variable {c c' : Connection} {f : Frame}

/-! ## The registry stays -/

theorem registry_enqueue (c : Connection) (o : Outbound) :
    (c.enqueue o).2.registry = c.registry := by
  rw [enqueue]
  split
  · rfl
  · split <;> rfl

theorem registry_tryEnqueue (c : Connection) (o : Outbound) :
    (c.tryEnqueue o).2.registry = c.registry := by
  obtain ⟨os, -, heq⟩ := c.tryEnqueue_cases o
  rw [heq]

theorem registry_of_outlet (h : c'.outlet = c.outlet) : c'.registry = c.registry :=
  congrArg (·.2.2.2.1) h

theorem registry_onFrame (c : Connection) (handler : Bool) (f : Frame) :
    (c.onFrame handler f).2.registry = c.registry := by
  rw [onFrame]
  split
  · obtain ⟨os, heq, -⟩ := onHeartbeat_cases
      { c with heartbeat := c.heartbeat.inbound, arena := c.arena.adoptOne } f
    rw [heq]
    rfl
  · split
    · rw [onRequest_eq]
      split
      · next e _ =>
        obtain ⟨os, heq, -⟩ := rejectRequest_cases
          { c with heartbeat := c.heartbeat.inbound, arena := c.arena.adoptOne } f e
        rw [heq]
        rfl
      · rfl
    · rw [onResponse]
      split
      · rfl
      · exact registry_of_outlet (outlet_dispatch _ _ _)

theorem registry_finishRequest (c : Connection) (r : InboundRequest) (o : HandlerOutcome) :
    (c.finishRequest r o).registry = c.registry := by
  rw [finishRequest]
  split
  · exact registry_enqueue _ _
  · rfl

theorem registry_send (c : Connection) (s : Submission) : (c.send s).registry = c.registry := by
  rcases c.send_cases s with hqueued | hfailed
  · rw [hqueued]
    exact c.registry_enqueue _
  · rw [hfailed]
    exact c.registry_enqueue _

theorem registry_submit (c : Connection) (kind : CompletionKind) (body : Bytes)
    (timeout : Option Nat) : (c.submit kind body timeout).2.registry = c.registry := by
  rcases c.submit_cases kind body timeout with hsame | ⟨c', s, hsame, hsent⟩
  · exact registry_of_outlet hsame
  · rw [hsent, registry_send]
    exact registry_of_outlet hsame

theorem registry_sendAcknowledged (c : Connection) (f : Frame) :
    (c.sendAcknowledged f).2.registry = c.registry := by
  rcases c.sendAcknowledged_cases f with hsame | hqueued
  · rw [hsame]
  · rw [hqueued]
    exact registry_enqueue _ _

theorem registry_onIdle (c : Connection) : c.onIdle.2.registry = c.registry := by
  rcases c.onIdle_cases with hsame | htaken | ⟨f, -, hqueued⟩
  · rw [hsame]
  · rw [htaken]
    rfl
  · rw [hqueued]
    exact c.takeId.2.registry_tryEnqueue _

end Connection

/-- **A connection has the registry that it was opened with.** -/
theorem Conversation.registry_apply (s : Conversation) (handler : Bool) (e : Event) :
    (s.apply handler e).connection.registry = s.connection.registry := by
  cases e with
  | submit id kind body timeout =>
    exact Connection.registry_submit { s.connection with nextId := id } kind body timeout
  | frame f => exact s.connection.registry_onFrame handler f
  | reply r o => exact s.connection.registry_finishRequest r o
  | oneway body | event body =>
    exact s.connection.takeId.2.registry_sendAcknowledged _
  | idle => exact s.connection.registry_onIdle
  | deadline id => rfl
  | written id | writeFailed id reason | probeWritten =>
    exact Connection.registry_of_outlet (Connection.outlet_acknowledge _ _ _)
  | teardown reason => exact Connection.registry_of_outlet (Connection.outlet_shutdown _ _)
  | stopWriter =>
    rw [apply]
    dsimp only [withConnection]
    split
    · exact congrArg (·.2.2.2.1) s.connection.outlet_closeQueue
    · rfl
  | nextFrame =>
    rw [apply]
    cases hnext : s.connection.dequeue with
    | none => rfl
    | some next =>
      have hsame := congrArg Connection.registry (Connection.eq_of_dequeue hnext)
      exact hsame
  | take =>
    rw [apply]
    cases s.connection.dispatcher.take <;> rfl
  | finish held =>
    rw [apply]
    cases s.connection.dispatcher.finish held <;> rfl

/-! ## Calls and frames on account of a frame -/

namespace Connection

variable {c c' : Connection} {f : Frame}

theorem call?_of_served (h : f.Served c.registry) :
    c.call? true f = some ⟨f.id, f.serialization, f.isEvent, f.twoWay, c.name, f.body⟩ :=
  if_pos ⟨h.1, h.2.1, rfl, h.2.2⟩

theorem call?_of_not_served (h : ¬ f.Served c.registry) : c.call? true f = none :=
  if_neg fun ⟨hheartbeat, hrequest, _, hknown⟩ ↦ h ⟨hheartbeat, hrequest, hknown⟩

theorem twoWay_of_call? {handler : Bool} {r : InboundRequest} (h : c.call? handler f = some r) :
    r.twoWay = f.twoWay := by
  rw [call?] at h
  split at h
  · rw [← Option.some.inj h]
  · cases h

/-- The frames that wait to be written and did not before. -/
def added (c c' : Connection) : List Outbound := c'.backlog.diff c.backlog

theorem added_perm {os : List Outbound} (h : c'.backlog.Perm (c.backlog ++ os)) :
    (c.added c').Perm os := by
  have hcancel (before : List Outbound) : (before ++ os).diff before = os := by
    induction before with
    | nil => rfl
    | cons o before ih => rw [List.cons_append, List.diff_cons, List.erase_cons_head, ih]
  exact hcancel c.backlog ▸ h.diff_right c.backlog

/-- **A frame that is served adds nothing**, nor does a handler that answers no request. -/
theorem added_onFrame_of_served (h : f.Served c.registry) :
    c.added (c.onFrame true f).2 = [] := by
  obtain ⟨os, hrouted⟩ := c.exists_routed true f
  have hle := hrouted.length_le
  rw [call?_of_served h, if_pos h.2.1] at hle
  obtain rfl := List.eq_nil_of_length_eq_zero (Nat.le_zero.mp (Nat.le_of_succ_le_succ hle))
  exact (added_perm hrouted.backlog_perm).eq_nil

theorem added_finishRequest {r : InboundRequest} (h : r.twoWay = false) (o : HandlerOutcome) :
    c.added (c.finishRequest r o) = [] := by
  have hperm : (c.finishRequest r o).backlog.Perm (c.backlog ++ []) := by
    rw [finishRequest, h, List.append_nil]
    exact .refl _
  exact (added_perm hperm).eq_nil

end Connection

/-! ## The peer -/

/-- What a log has for a place. -/
def logged {α : Type} (log : List (Nat × α)) (i : Nat) : List α :=
  (log.filter (·.1 = i)).map (·.2)

section Logged

variable {α : Type} {log log' : List (Nat × α)} {as : List α} {i j : Nat}

theorem logged_append : logged (log ++ log') i = logged log i ++ logged log' i := by
  rw [logged, List.filter_append, List.map_append, logged, logged]

theorem logged_eq_nil (h : ∀ x ∈ log, x.1 ≠ i) : logged log i = [] := by
  rw [logged, List.filter_eq_nil_iff.mpr fun x hx ↦ by simpa using h x hx, List.map_nil]

theorem logged_map_self (i : Nat) (as : List α) : logged (as.map (i, ·)) i = as := by
  have hall : (as.map (i, ·)).filter (·.1 = i) = as.map (i, ·) :=
    List.filter_eq_self.mpr fun x hx ↦ by
      obtain ⟨a, -, rfl⟩ := List.mem_map.mp hx
      exact decide_eq_true rfl
  rw [logged, hall, List.map_map]
  exact List.map_id _

theorem logged_map_of_ne (h : j ≠ i) (as : List α) : logged (as.map (j, ·)) i = [] :=
  logged_eq_nil fun x hx ↦ by
    obtain ⟨a, -, rfl⟩ := List.mem_map.mp hx
    exact h

theorem mem_logged {a : α} (h : (i, a) ∈ log) : a ∈ logged log i :=
  List.mem_map.mpr ⟨(i, a), List.mem_filter.mpr ⟨h, decide_eq_true rfl⟩, rfl⟩

end Logged

/-- A connection that serves the frames of its peer, and what was done for which. -/
structure Hearing where
  conversation : Conversation
  /-- The frames that came in, in order. -/
  heard : List Frame
  /-- What the handler was called with. -/
  calls : List (Nat × InboundRequest)
  /-- The calls that the handler has not answered. -/
  serving : List (Nat × InboundRequest)
  /-- The frames that were queued because a frame came in or its call was answered. -/
  replies : List (Nat × Outbound)

namespace Hearing

def connection (s : Hearing) : Connection := s.conversation.connection

def start (info : ConnectionInfo) (config : ConnectionConfig) (registry decoders : Registry)
    (processors : Nat) (dispatch : DispatchConfig) : Hearing :=
  ⟨.start info config registry decoders processors dispatch, [], [], [], []⟩

/-- A frame comes in, at the next place. -/
def receive (s : Hearing) (f : Frame) : Hearing :=
  let calls := (s.connection.onFrame true f).1.toList.map (s.heard.length, ·)
  { conversation := s.conversation.apply true (.frame f)
    heard := s.heard ++ [f]
    calls := s.calls ++ calls
    serving := s.serving ++ calls
    replies := s.replies ++
      (s.connection.added (s.connection.onFrame true f).2).map (s.heard.length, ·) }

/-- The handler answers in any order, and the connection does whatever else it does. -/
inductive Step : Hearing → Hearing → Prop where
  | receive (f : Frame) (s : Hearing) : Step s (s.receive f)
  | finish (before : List (Nat × InboundRequest)) (i : Nat) (r : InboundRequest)
      (after : List (Nat × InboundRequest)) (o : HandlerOutcome) (s : Hearing)
      (h : s.serving = before ++ (i, r) :: after) :
      Step s { s with
        conversation := s.conversation.apply true (.reply r o)
        serving := before ++ after
        replies := s.replies ++
          (s.connection.added (s.connection.finishRequest r o)).map (i, ·) }
  | event (e : Event) (s : Hearing) (h : e.isLocal = true) :
      Step s { s with conversation := s.conversation.apply true e }

/-- The handler was called once for a one-way frame, with what its sender sent, and nothing is sent
in return. -/
structure ServedOnce (s : Hearing) (i : Nat) (sent : Frame) : Prop where
  call : ∃ r, logged s.calls i = [r] ∧ r.id = sent.id ∧ r.serialization = sent.serialization ∧
    r.isEvent = sent.isEvent ∧ r.twoWay = false ∧ r.body.octets = sent.body.octets
  replies_eq : logged s.replies i = []

structure Sound (registry : Registry) (s : Hearing) : Prop where
  registry_eq : s.connection.registry = registry
  called : ∀ {i f}, s.heard[i]? = some f →
    ∃ c : Connection, c.registry = registry ∧ logged s.calls i = (c.call? true f).toList
  placed : ∀ x ∈ s.calls, x.1 < s.heard.length
  serving_subset : s.serving ⊆ s.calls
  /-- A reply is to a frame that asks for one, or to one that the handler is not called for. -/
  replied : ∀ x ∈ s.replies, ∃ f, s.heard[x.1]? = some f ∧
    (f.twoWay = true ∨ ¬ f.Served registry)

variable {registry : Registry} {s s' : Hearing}

theorem sound_start (info : ConnectionInfo) (config : ConnectionConfig)
    (registry decoders : Registry) (processors : Nat) (dispatch : DispatchConfig) :
    Sound registry (start info config registry decoders processors dispatch) where
  registry_eq := rfl
  called := nofun
  placed := List.forall_mem_nil _
  serving_subset := List.Subset.refl _
  replied := List.forall_mem_nil _

/-- A frame that is done with stays where it is. -/
theorem getElem?_heard_receive {i : Nat} {f g : Frame} (h : s.heard[i]? = some g) :
    (s.receive f).heard[i]? = some g :=
  (List.getElem?_append_left (List.getElem?_eq_some_iff.mp h).1).trans h

theorem Sound.receive (hs : s.Sound registry) (f : Frame) : (s.receive f).Sound registry := by
  obtain ⟨os, hrouted⟩ := s.connection.exists_routed true f
  have hcalls : (s.receive f).calls =
      s.calls ++ (s.connection.call? true f).toList.map (s.heard.length, ·) := by
    rw [← hrouted.call_eq]
    rfl
  have hlast : (s.receive f).heard[s.heard.length]? = some f := List.getElem?_concat_length
  refine ⟨?_, fun {i g} hg ↦ ?_, fun x hx ↦ ?_, ?_, fun x hx ↦ ?_⟩
  · exact (s.conversation.registry_apply true (.frame f)).trans hs.registry_eq
  · rw [hcalls, logged_append]
    rcases Nat.lt_or_ge i s.heard.length with hlt | hge
    · obtain ⟨c, hc, hcalled⟩ := hs.called ((List.getElem?_append_left hlt).symm.trans hg)
      refine ⟨c, hc, ?_⟩
      rw [logged_map_of_ne (Nat.ne_of_gt hlt), List.append_nil, hcalled]
    · have hle : i < (s.heard ++ [f]).length := (List.getElem?_eq_some_iff.mp hg).1
      rw [List.length_append] at hle
      obtain rfl : i = s.heard.length := Nat.le_antisymm (Nat.le_of_lt_succ hle) hge
      obtain rfl := Option.some.inj (hg.symm.trans hlast)
      refine ⟨s.connection, hs.registry_eq, ?_⟩
      rw [logged_map_self, logged_eq_nil fun x hx ↦ Nat.ne_of_lt (hs.placed x hx), List.nil_append]
  · rw [hcalls] at hx
    rw [Hearing.receive, List.length_append]
    rcases List.mem_append.mp hx with hx | hx
    · exact Nat.lt_succ_of_lt (hs.placed x hx)
    · obtain ⟨r, -, rfl⟩ := List.mem_map.mp hx
      exact Nat.lt_succ_self _
  · exact List.append_subset.mpr ⟨List.subset_append_of_subset_left _ hs.serving_subset,
      List.subset_append_right _ _⟩
  · rcases List.mem_append.mp hx with hx | hx
    · obtain ⟨g, hg, hreplied⟩ := hs.replied x hx
      exact ⟨g, getElem?_heard_receive hg, hreplied⟩
    · obtain ⟨o, ho, rfl⟩ := List.mem_map.mp hx
      refine ⟨f, hlast, .inr fun hserved ↦ ?_⟩
      rw [Connection.added_onFrame_of_served (hs.registry_eq ▸ hserved)] at ho
      exact nomatch ho

theorem Sound.finish (hs : s.Sound registry) {before after : List (Nat × InboundRequest)} {i : Nat}
    {r : InboundRequest} (h : s.serving = before ++ (i, r) :: after) (o : HandlerOutcome) :
    Sound registry { s with
      conversation := s.conversation.apply true (.reply r o)
      serving := before ++ after
      replies := s.replies ++
        (s.connection.added (s.connection.finishRequest r o)).map (i, ·) } := by
  have hcall : (i, r) ∈ s.calls :=
    hs.serving_subset (h ▸ List.mem_append_right _ List.mem_cons_self)
  refine ⟨?_, hs.called, hs.placed, ?_, fun x hx ↦ ?_⟩
  · exact (s.conversation.registry_apply true (.reply r o)).trans hs.registry_eq
  · refine List.Subset.trans ?_ hs.serving_subset
    rw [h]
    exact ((List.sublist_cons_self _ _).append_left _).subset
  · rcases List.mem_append.mp hx with hx | hx
    · exact hs.replied x hx
    · obtain ⟨p, hp, rfl⟩ := List.mem_map.mp hx
      have hheard := List.getElem?_eq_getElem (hs.placed _ hcall)
      obtain ⟨c, -, hcalled⟩ := hs.called hheard
      have hr := mem_logged hcall
      rw [hcalled, Option.mem_toList] at hr
      refine ⟨_, hheard, .inl ?_⟩
      rw [← Connection.twoWay_of_call? hr]
      -- A call that expects no answer adds none.
      by_contra honeway
      rw [Connection.added_finishRequest (Bool.eq_false_iff.mpr honeway)] at hp
      exact nomatch hp

theorem Step.sound (h : Step s s') (hs : s.Sound registry) : s'.Sound registry := by
  cases h with
  | receive f => exact hs.receive f
  | finish before i r after o _ h => exact hs.finish h o
  | event e _ _ =>
    exact ⟨(s.conversation.registry_apply true e).trans hs.registry_eq, hs.called, hs.placed,
      hs.serving_subset, hs.replied⟩

theorem sound_of_reachable {info : ConnectionInfo} {config : ConnectionConfig}
    {decoders : Registry} {processors : Nat} {dispatch : DispatchConfig}
    (h : ReflTransGen Step (start info config registry decoders processors dispatch) s) :
    s.Sound registry := by
  induction h with
  | refl => exact sound_start info config registry decoders processors dispatch
  | tail _ hstep ih => exact hstep.sound ih

/-- Frames can always be taken in. -/
theorem exists_heard (s : Hearing) (frames : List Frame) :
    ∃ s', ReflTransGen Step s s' ∧ s'.heard = s.heard ++ frames := by
  induction frames generalizing s with
  | nil => exact ⟨s, .refl, (List.append_nil _).symm⟩
  | cons f frames ih =>
    obtain ⟨s', hsteps, hheard⟩ := ih (s.receive f)
    refine ⟨s', .head (.receive f s) hsteps, ?_⟩
    rw [hheard, receive, List.append_assoc, List.singleton_append]

/-! ## One frame -/

theorem Sound.servedOnce (hs : s.Sound registry) {i : Nat} {f : Frame} (h : s.heard[i]? = some f)
    (hserved : f.Served registry) (htwoWay : f.twoWay = false) : s.ServedOnce i f := by
  obtain ⟨c, rfl, hcalled⟩ := hs.called h
  rw [Connection.call?_of_served hserved] at hcalled
  refine ⟨⟨_, hcalled, rfl, rfl, rfl, htwoWay, rfl⟩, logged_eq_nil ?_⟩
  rintro x hx rfl
  obtain ⟨g, hg, hreplied⟩ := hs.replied x hx
  obtain rfl := Option.some.inj (hg.symm.trans h)
  rcases hreplied with hanswer | hnot
  · exact Bool.noConfusion (hanswer.symm.trans htwoWay)
  · exact hnot hserved

theorem Sound.not_called (hs : s.Sound registry) {i : Nat} {f : Frame} (h : s.heard[i]? = some f)
    (hnot : ¬ f.Served registry) : logged s.calls i = [] := by
  obtain ⟨c, rfl, hcalled⟩ := hs.called h
  rw [hcalled, Connection.call?_of_not_served hnot]
  rfl

end Hearing

namespace Writing

variable {handler : Bool} {s s' : Writing} {isEvent : Bool} {body : Bytes}

/-- However the wire is cut, the peer reads the frame that was accepted, at its place. -/
theorem Accepted.received {info : ConnectionInfo} {config : ConnectionConfig}
    {own decoders : Registry} {processors : Nat} {dispatch : DispatchConfig}
    (hreach : ReflTransGen (Step handler)
      (start info config own decoders processors dispatch) s)
    (haccepted : Accepted handler s isEvent body s') (registry : Registry) (readLimit : Nat)
    (hahead : ∀ f ∈ s.ahead, f.body.octets.length ≤ Frame.clampLimit readLimit)
    (hbody : body.length ≤ Frame.clampLimit readLimit) {chunks : List Bytes}
    (hchunks : s'.wire <+: chunks.flatten) :
    ∃ d got, FrameReader.readChunks registry (.ofLimit readLimit) chunks = some d ∧
      d.frames[s.ahead.length]? = some got ∧
      Frame.Received registry (s.connection.posted isEvent body) got := by
  have hfits : ∀ f ∈ s.ahead ++ [s.connection.posted isEvent body],
      f.body.octets.length ≤ Frame.clampLimit readLimit :=
    List.forall_mem_append.mpr ⟨hahead, List.forall_mem_singleton.mpr hbody⟩
  obtain ⟨d, more, hd, hframes⟩ := Frame.readChunks_of_prefix registry hfits
    ((haccepted.stream_prefix hreach).trans hchunks)
  refine ⟨d, _, hd, ?_, Frame.received_ofOctets registry (s.connection.posted isEvent body)⟩
  rw [hframes, List.map_append, List.append_assoc,
    List.getElem?_append_right (List.length_map _).le, List.length_map, Nat.sub_self]
  rfl

/-- What the peer reads of a one-way frame, unless it is a heartbeat to the peer. -/
theorem served_of_received {registry : Registry} (hcoherent : registry.Coherent)
    {c : Connection} {b : Backend} (hb : registry.find? c.config.serialization = some b)
    {got : Frame} (hgot : Frame.Received registry (c.posted isEvent body) got) :
    got.serialization = (c.posted isEvent body).serialization ∧
      (got.Served registry ↔ ¬ (isEvent = true ∧ (body = [] ∨ body = b.null))) := by
  obtain ⟨hmasked, hmod⟩ := Heartbeat.masked_of_find? hcoherent hb
  have hposted : (c.posted isEvent body).serialization = c.config.serialization := hmasked
  have hserialization : got.serialization = c.config.serialization := by
    refine UInt8.toNat_inj.mp ?_
    rw [hgot.serialization, hposted, hmod]
  have hknown : registry.contains got.serialization = true := by
    rw [hserialization, Registry.contains, hb]
    rfl
  have hheartbeat : got.isHeartbeat = true ↔ isEvent = true ∧ (body = [] ∨ body = b.null) := by
    rw [hgot.isHeartbeat, hserialization, hcoherent.nullOctets_of_find? hb, Except.ok.injEq]
    exact and_congr_right fun _ ↦ or_congr_right eq_comm
  refine ⟨hserialization.trans hposted.symm, ?_⟩
  rw [Frame.Served, hgot.isRequest, hknown, ← hheartbeat, Bool.not_eq_true]
  exact and_iff_left ⟨rfl, rfl⟩

/-- **An accepted one-way frame is served once, unless it is an event that the peer cannot tell from
a heartbeat.** -/
theorem Accepted.served_once {info : ConnectionInfo} {config : ConnectionConfig}
    {own decoders : Registry} {processors : Nat} {dispatch : DispatchConfig}
    (hreach : ReflTransGen (Step handler)
      (start info config own decoders processors dispatch) s)
    (haccepted : Accepted handler s isEvent body s') {registry : Registry}
    (hcoherent : registry.Coherent) {b : Backend}
    (hb : registry.find? config.serialization = some b) (peer : ConnectionConfig)
    (hahead : ∀ f ∈ s.ahead, f.body.octets.length ≤ Frame.clampLimit peer.payloadLimit)
    (hbody : body.length ≤ Frame.clampLimit peer.payloadLimit) {chunks : List Bytes}
    (hchunks : s'.wire <+: chunks.flatten) :
    ∃ d, FrameReader.readChunks registry (.ofLimit peer.payloadLimit) chunks = some d ∧
      s.ahead.length < d.frames.length ∧
      ∀ (info' : ConnectionInfo) (decoders' : Registry) (processors' : Nat)
        (dispatch' : DispatchConfig) (r : Hearing),
        ReflTransGen Hearing.Step
          (.start info' peer registry decoders' processors' dispatch') r →
        r.heard <+: d.frames → s.ahead.length < r.heard.length →
          if isEvent = true ∧ (body = [] ∨ body = b.null) then
            logged r.calls s.ahead.length = []
          else r.ServedOnce s.ahead.length (s.connection.posted isEvent body) := by
  obtain ⟨d, got, hd, hplace, hreceived⟩ :=
    haccepted.received hreach registry _ hahead hbody hchunks
  refine ⟨d, hd, (List.getElem?_eq_some_iff.mp hplace).1, ?_⟩
  intro info' decoders' processors' dispatch' r hr hheard hlt
  have hrs := Hearing.sound_of_reachable hr
  have hgotten : r.heard[s.ahead.length]? = some got := by
    obtain ⟨rest, hrest⟩ := hheard
    rwa [← hrest, List.getElem?_append_left hlt] at hplace
  have hconfig : s.connection.config.serialization = config.serialization :=
    congrArg ConnectionConfig.serialization (sound_of_reachable hreach).config_eq
  obtain ⟨hserialization, hserved⟩ := served_of_received hcoherent (hconfig ▸ hb) hreceived
  split
  · next hcollides => exact hrs.not_called hgotten fun h ↦ hserved.mp h hcollides
  · next hapart =>
    obtain ⟨⟨call, hcalls, hid, hcallSerialization, hevent, htwoWay, hcallBody⟩, hreplies⟩ :=
      hrs.servedOnce hgotten (hserved.mpr hapart) hreceived.twoWay
    exact ⟨⟨call, hcalls, hid.trans hreceived.id, hcallSerialization.trans hserialization,
      hevent.trans hreceived.isEvent, htwoWay, hcallBody.trans hreceived.octets⟩, hreplies⟩

/-- An event of one octet, read octet by octet. -/
theorem served_once_event :
    ∃ s' d r, Accepted false (start ⟨"client", "peer", .client, 1⟩ .standard .standard .standard 1
        .standard) true [1] s' ∧
      FrameReader.readChunks .standard (.ofLimit Frame.defaultLimit) (s'.wire.map ([·])) = some d ∧
      ReflTransGen Hearing.Step
        (.start ⟨"server", "peer", .server, 1⟩ .standard .standard .standard 1 .standard) r ∧
      r.heard = d.frames ∧ r.ServedOnce 0 (.event 1 2 (.detached [1])) := by
  obtain ⟨s', haccepted⟩ := exists_accepted ⟨"client", "peer", .client, 1⟩ .standard .standard
    .standard 1 .standard false true [1] (by decide)
  have hchunks : (s'.wire.map ([·])).flatten = s'.wire := by
    rw [← List.flatMap_def, List.flatMap_singleton']
  obtain ⟨d, hd, hlt, hserved⟩ := Accepted.served_once .refl haccepted
    Registry.coherent_standard (b := .messagePack) rfl .standard (List.forall_mem_nil _) (by decide)
    ⟨[], (List.append_nil _).trans hchunks.symm⟩
  obtain ⟨r, hr, hheard⟩ := Hearing.exists_heard
    (.start ⟨"server", "peer", .server, 1⟩ .standard .standard .standard 1 .standard) d.frames
  have honce := hserved _ _ _ _ r hr (hheard ▸ List.prefix_refl _) (hheard ▸ hlt)
  rw [if_neg (by decide)] at honce
  exact ⟨s', d, r, haccepted, hd, hr, hheard, honce⟩

/-- **An event that carries the null of its backend does not reach the handler**, accepted or not. -/
theorem not_every_event_served :
    ¬ ∀ (config peer : ConnectionConfig) (isEvent : Bool) (body : Bytes) (s s' : Writing)
      (chunks : List Bytes) (d : FrameReader.Drained) (r : Hearing),
      Registry.standard.contains config.serialization = true →
      body.length ≤ Frame.clampLimit config.payloadLimit →
      body.length ≤ Frame.clampLimit peer.payloadLimit →
      ReflTransGen (Step false)
        (start ⟨"client", "peer", .client, 1⟩ config .standard .standard 1 .standard) s →
      Accepted false s isEvent body s' →
      (∀ f ∈ s.ahead, f.body.octets.length ≤ Frame.clampLimit peer.payloadLimit) →
      chunks.flatten = s'.wire →
      FrameReader.readChunks .standard (.ofLimit peer.payloadLimit) chunks = some d →
      ReflTransGen Hearing.Step
        (.start ⟨"server", "peer", .server, 1⟩ peer .standard .standard 1 .standard) r →
      r.heard = d.frames → r.ServedOnce s.ahead.length (s.connection.posted isEvent body) := by
  intro hall
  let config := { ConnectionConfig.standard with serialization := 6 }
  let null := Backend.json.null
  obtain ⟨s', haccepted⟩ := exists_accepted ⟨"client", "peer", .client, 1⟩ config .standard
    .standard 1 .standard false true null (by decide)
  have hchunks : [s'.wire].flatten = s'.wire := List.flatten_singleton
  obtain ⟨d, got, hd, hplace, hreceived⟩ := haccepted.received .refl .standard
    Frame.defaultLimit (List.forall_mem_nil _) (by decide)
    ⟨[], (List.append_nil _).trans hchunks.symm⟩
  obtain ⟨r, hr, hheard⟩ := Hearing.exists_heard
    (.start ⟨"server", "peer", .server, 1⟩ .standard .standard .standard 1 .standard) d.frames
  obtain ⟨⟨call, hcalls, -⟩, -⟩ := hall config .standard true null _ s' _ d r (by decide)
    (by decide) (by decide) .refl haccepted (List.forall_mem_nil _) hchunks hd hr hheard
  -- To the peer it is a heartbeat.
  have hunserved := (served_of_received Registry.coherent_standard (b := .json) rfl hreceived).2.not
    |>.mpr (not_not_intro ⟨rfl, .inr rfl⟩)
  rw [(Hearing.sound_of_reachable hr).not_called (hheard ▸ hplace) hunserved] at hcalls
  exact nomatch hcalls

end Writing

end RpcTransport
