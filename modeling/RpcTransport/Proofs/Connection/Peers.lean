import Mathlib.Logic.Function.Basic
import Mathlib.Logic.Relation
import RpcTransport.Proofs.Connection.Routing
import RpcTransport.Proofs.Frame.RoundTrip

/-!
# Two peers fall silent

A request makes the peer send one frame at the most, and that frame is no request, so it makes
nobody send anything. This holds whatever the peers think of each other's heartbeats: a probe that
is not recognised is an event, and an answer that is not recognised is a response. So two
connections on one wire exchange finitely many frames after either of them last sent one of its own
accord (`Peers.exchanged_le`).

## The measure

A frame that waits is written and read, and if it is a request then so may be one more: it counts
four if it is a request and two if not, and one less when it is on the wire. A request that a
handler has not answered counts two. Whoever sends a frame of his own accord raises this load by
four, and nothing else raises it; and each frame that is written or read lowers it.
-/

namespace RpcTransport

/-! ## The load of a connection -/

/-- How often a frame that waits, or its answer, may yet be written or read. -/
def Frame.load (f : Frame) : Nat := if f.isRequest then 4 else 2

namespace Event

/-- No frame of the peer comes in by it, and none is answered by a handler. -/
def isLocal : Event → Bool
  | .frame _ | .reply _ _ => false
  | _ => true

/-- The connection sends a frame of its own accord. -/
def sends : Event → Bool
  | .submit _ _ _ _ | .oneway _ | .event _ | .idle => true
  | _ => false

end Event

namespace Connection

variable {c c' : Connection}

def load (c : Connection) : Nat := (c.backlog.map (·.frame.load)).sum

theorem load_of_perm {os : List Outbound} (h : c'.backlog.Perm (c.backlog ++ os)) :
    c'.load = c.load + (os.map (·.frame.load)).sum := by
  rw [load, (h.map _).sum_nat, List.map_append, List.sum_append, load]

theorem load_of_outlet (h : c'.outlet = c.outlet) : c'.load = c.load := by
  simp only [outlet, Prod.mk.injEq] at h
  rw [load, load, backlog, backlog, h.1, h.2.1]

/-- Some frames that are no requests. -/
theorem sum_load_of_replies {os : List Outbound} (h : ∀ o ∈ os, o.frame.isRequest = false) :
    (os.map (·.frame.load)).sum = 2 * os.length := by
  induction os with
  | nil => rfl
  | cons o os ih =>
    obtain ⟨ho, hos⟩ := List.forall_mem_cons.mp h
    rw [List.map_cons, List.sum_cons, ih hos, Frame.load, ho, List.length_cons]
    simp only [Bool.false_eq_true, if_false]
    omega

theorem load_frame_le (f : Frame) : f.load ≤ 4 := by
  rw [Frame.load]
  split <;> omega

/-- A frame is sent, if there is room for it. -/
theorem load_le_of_sublist {o : Outbound} {os : List Outbound} (hos : os.Sublist [o])
    (h : c'.backlog.Perm (c.backlog ++ os)) : c'.load ≤ c.load + 4 := by
  rw [load_of_perm h]
  rcases List.sublist_singleton.mp hos with rfl | rfl
  · exact Nat.le_add_right _ _
  · exact Nat.add_le_add_left (load_frame_le o.frame) _

theorem load_enqueue_le (c : Connection) (o : Outbound) : (c.enqueue o).2.load ≤ c.load + 4 := by
  obtain ⟨os, hos, hperm⟩ := c.enqueue_cases o
  exact load_le_of_sublist hos hperm

theorem load_tryEnqueue_le (c : Connection) (o : Outbound) :
    (c.tryEnqueue o).2.load ≤ c.load + 4 := by
  obtain ⟨os, hos, heq⟩ := c.tryEnqueue_cases o
  rw [heq]
  refine load_le_of_sublist hos ?_
  rw [backlog, backlog, List.append_assoc, List.append_assoc]
  exact List.perm_append_comm.append_left _

theorem load_send_le (c : Connection) (s : Submission) : (c.send s).load ≤ c.load + 4 := by
  rcases c.send_cases s with hqueued | hfailed
  · rw [hqueued]
    exact c.load_enqueue_le _
  · rw [hfailed, load_of_outlet (outlet_failWrite _ _ _)]
    exact c.load_enqueue_le _

theorem load_submit_le (c : Connection) (kind : CompletionKind) (body : Bytes)
    (timeout : Option Nat) : (c.submit kind body timeout).2.load ≤ c.load + 4 := by
  rcases c.submit_cases kind body timeout with hsame | ⟨c', s, hsame, hsent⟩
  · rw [load_of_outlet hsame]
    exact Nat.le_add_right _ _
  · rw [hsent, ← load_of_outlet hsame]
    exact c'.load_send_le s

theorem load_sendAcknowledged_le (c : Connection) (f : Frame) :
    (c.sendAcknowledged f).2.load ≤ c.load + 4 := by
  rcases c.sendAcknowledged_cases f with hsame | hqueued
  · rw [hsame]
    exact Nat.le_add_right _ _
  · rw [hqueued]
    exact load_enqueue_le _ _

theorem load_onIdle_le (c : Connection) : c.onIdle.2.load ≤ c.load + 4 := by
  rcases c.onIdle_cases with hsame | htaken | ⟨f, -, hqueued⟩
  · rw [hsame]
    exact Nat.le_add_right _ _
  · rw [htaken]
    exact Nat.le_add_right _ _
  · rw [hqueued]
    exact c.takeId.2.load_tryEnqueue_le _

/-- The writer takes a frame. -/
theorem load_dequeue {o : Outbound} (h : c.dequeue = some (o, c')) :
    c.load = o.frame.load + c'.load := by
  rw [dequeue] at h
  split at h
  · cases h
  · next first queue hqueue hwaiting =>
    obtain ⟨rfl, rfl⟩ := Prod.mk.inj (Option.some.inj h)
    rw [load, backlog, hqueue, List.cons_append, List.map_cons, List.sum_cons]
    rfl
  · next first queue next waiting hqueue hwaiting =>
    obtain ⟨rfl, rfl⟩ := Prod.mk.inj (Option.some.inj h)
    rw [load, load, backlog, backlog, hqueue, hwaiting, List.cons_append, List.map_cons,
      List.sum_cons, List.append_assoc]
    rfl

theorem outlet_foldl {α : Type} {step : Connection → α → Connection}
    (h : ∀ c a, (step c a).outlet = c.outlet) (as : List α) (c : Connection) :
    (as.foldl step c).outlet = c.outlet := by
  induction as generalizing c with
  | nil => rfl
  | cons a as ih => rw [List.foldl_cons, ih, h]

theorem outlet_closeQueue (c : Connection) :
    c.closeQueue.outlet = ([], [], false, c.registry, c.config) := by
  have hdrop (c : Connection) (a : Acknowledgement) : (c.dropOutbound a).outlet = c.outlet := by
    cases a <;> rfl
  have hdismiss (c : Connection) (a : Acknowledgement) : (c.dismiss a).outlet = c.outlet := by
    cases a <;> rfl
  rw [closeQueue, outlet_foldl hdismiss, outlet_foldl hdrop]
  rfl

theorem load_closeQueue (c : Connection) : c.closeQueue.load = 0 := by
  have houtlet := c.outlet_closeQueue
  simp only [outlet, Prod.mk.injEq] at houtlet
  rw [load, backlog, houtlet.1, houtlet.2.1]
  rfl

end Connection

namespace Conversation

open Connection (load_of_outlet)

/-- **Only what a connection sends of its own accord adds to its load.** -/
theorem load_apply_le (s : Conversation) (handler : Bool) {e : Event} (he : e.isLocal = true) :
    (s.apply handler e).connection.load ≤
      s.connection.load + 4 * if e.sends then 1 else 0 := by
  cases e with
  | frame | reply => exact nomatch he
  | submit id kind body timeout =>
    exact Connection.load_submit_le { s.connection with nextId := id } kind body timeout
  | oneway body | event body => exact Connection.load_sendAcknowledged_le s.connection.takeId.2 _
  | idle => exact s.connection.load_onIdle_le
  | deadline id => exact Nat.le_refl _
  | written id => exact Nat.le_of_eq (load_of_outlet (Connection.outlet_acknowledge _ _ _))
  | writeFailed id reason =>
    exact Nat.le_of_eq (load_of_outlet (Connection.outlet_acknowledge _ _ _))
  | probeWritten => exact Nat.le_of_eq (load_of_outlet (Connection.outlet_acknowledge _ _ _))
  | teardown reason => exact Nat.le_of_eq (load_of_outlet (Connection.outlet_shutdown _ _))
  | stopWriter =>
    rw [apply]
    dsimp only [withConnection]
    split
    · rw [Connection.load_closeQueue]
      exact Nat.zero_le _
    · exact Nat.le_refl _
  | nextFrame =>
    rw [apply]
    cases hnext : s.connection.dequeue with
    | none => exact Nat.le_refl _
    | some next =>
      obtain ⟨e, c'⟩ := next
      have hload := Connection.load_dequeue hnext
      exact Nat.le_trans (Nat.le_add_left _ _) (Nat.le_of_eq hload.symm)
  | take =>
    rw [apply]
    cases s.connection.dispatcher.take <;> exact Nat.le_refl _
  | finish held =>
    rw [apply]
    cases s.connection.dispatcher.finish held <;> exact Nat.le_refl _

end Conversation

/-! ## One end -/

/-- A connection with its handlers, and what it has written and its peer has not read. -/
structure Station where
  conversation : Conversation
  /-- What handlers were called with and have not answered. -/
  serving : List InboundRequest
  wire : List Frame
  written : Nat
  received : Nat
  /-- How many frames were queued because a frame came in. -/
  reactions : Nat
  /-- How often the connection was to send a frame of its own accord. -/
  submitted : Nat

namespace Station

def connection (e : Station) : Connection := e.conversation.connection

def start (info : ConnectionInfo) (config : ConnectionConfig) (registry decoders : Registry)
    (processors : Nat) (dispatch : DispatchConfig) : Station :=
  ⟨.start info config registry decoders processors dispatch, [], [], 0, 0, 0, 0⟩

def limit (e : Station) : Nat := e.connection.config.payloadLimit

/-- How many frames more there are to be written than in another state. -/
def growth (e : Station) (c : Connection) : Nat := c.backlog.length - e.connection.backlog.length

/-- A frame comes in. -/
def receive (e : Station) (handler : Bool) (f : Frame) : Station :=
  { e with
    conversation := e.conversation.apply handler (.frame f)
    serving := e.serving ++ (e.connection.onFrame handler f).1.toList
    received := e.received + 1
    reactions := e.reactions + e.growth (e.connection.onFrame handler f).2 }

/-- What happens at one end, unless a frame comes in. -/
inductive Moves (handler : Bool) : Station → Station → Prop where
  | event (ev : Event) (e : Station) (h : ev.isLocal = true) :
      Moves handler e { e with
        conversation := e.conversation.apply handler ev
        submitted := e.submitted + if ev.sends then 1 else 0 }
  | reply (before : List InboundRequest) (r : InboundRequest) (after : List InboundRequest)
      (o : HandlerOutcome) (e : Station) (h : e.serving = before ++ r :: after) :
      Moves handler e { e with
        conversation := e.conversation.apply handler (.reply r o)
        serving := before ++ after
        reactions := e.reactions + e.growth (e.connection.finishRequest r o) }
  | write (e : Station) {o : Outbound} {a : Acknowledgement} {octets : Bytes} {c : Connection}
      (hnext : e.connection.dequeue = some (o, c))
      (h : e.connection.takeFrame = some (.sending a octets, c)) :
      Moves handler e { e with
        conversation := e.conversation.withConnection c
        wire := e.wire ++ [o.frame]
        written := e.written + 1 }
  /-- Nobody reads what is on the wire. -/
  | lose (e : Station) : Moves handler e { e with wire := [] }

/-- One end, against whatever its peer sends. -/
inductive Step (handler : Bool) : Station → Station → Prop where
  | move {e e' : Station} (h : Moves handler e e') : Step handler e e'
  | receive (f : Frame) (e : Station) : Step handler e (e.receive handler f)

/-! ### Reactions -/

variable {handler : Bool} {e e' : Station}

/-- Every frame that came in has made one frame or one call at the most. -/
def Restrained (e : Station) : Prop := e.reactions + e.serving.length ≤ e.received

theorem Restrained.receive (h : e.Restrained) (f : Frame) : (e.receive handler f).Restrained := by
  obtain ⟨os, hrouted⟩ := e.connection.exists_routed handler f
  have hlength := hrouted.backlog_perm.length_eq
  have hle := hrouted.length_le
  have hone : (if f.isRequest then 1 else 0) ≤ 1 := by split <;> omega
  rw [← hrouted.call_eq] at hle
  rw [List.length_append] at hlength
  rw [Restrained] at h
  rw [Restrained, Station.receive, growth, List.length_append]
  dsimp only
  omega

theorem Restrained.moves (h : e.Restrained) (hmove : Moves handler e e') : e'.Restrained := by
  cases hmove with
  | event | write | lose => exact h
  | reply before r after o _ hserving =>
    obtain ⟨os, hperm, hle, -⟩ := e.connection.finishRequest_cases r o
    have hlength := hperm.length_eq
    rw [List.length_append] at hlength
    rw [Restrained, hserving, List.length_append, List.length_cons] at h
    rw [Restrained, growth, List.length_append]
    dsimp only
    omega

theorem restrained_of_reachable {info : ConnectionInfo} {config : ConnectionConfig}
    {registry decoders : Registry} {processors : Nat} {dispatch : DispatchConfig}
    (h : Relation.ReflTransGen (Step handler)
      (start info config registry decoders processors dispatch) e) : e.Restrained := by
  induction h with
  | refl => exact Nat.le_refl _
  | tail _ hstep ih =>
    cases hstep with
    | move hmove => exact ih.moves hmove
    | receive f => exact ih.receive f

/-! ### The measure -/

/-- What may yet be written and read on account of an end. -/
def load (e : Station) : Nat :=
  e.connection.load + 2 * e.serving.length + (e.wire.map fun f ↦ f.load - 1).sum

def exchanged (e : Station) : Nat := e.written + e.received

/-- **A frame that comes in adds no more than what it was on the wire.** -/
theorem load_receive_le (e : Station) (handler : Bool) (f : Frame) :
    (e.receive handler f).load ≤ e.load + if f.isRequest then 2 else 0 := by
  obtain ⟨os, hrouted⟩ := e.connection.exists_routed handler f
  have hload := Connection.load_of_perm hrouted.backlog_perm
  rw [Connection.sum_load_of_replies hrouted.isRequest_eq_false] at hload
  have hle := hrouted.length_le
  rw [← hrouted.call_eq] at hle
  have hconnection :
      (e.receive handler f).connection = (e.connection.onFrame handler f).2 := rfl
  rw [load, load, hconnection, hload, Station.receive]
  simp only [List.length_append]
  split at hle
  · next hrequest =>
    rw [if_pos hrequest]
    omega
  · next hresponse =>
    rw [if_neg hresponse]
    omega

theorem Moves.spent_le (h : Moves handler e e') :
    e'.exchanged + e'.load + 4 * e.submitted ≤ e.exchanged + e.load + 4 * e'.submitted := by
  cases h with
  | event ev _ hlocal =>
    have hle := e.conversation.load_apply_le handler hlocal
    simp only [exchanged, load, connection] at hle ⊢
    omega
  | reply before r after o _ hserving =>
    obtain ⟨os, hperm, hle, hreplies⟩ := e.connection.finishRequest_cases r o
    have hload := Connection.load_of_perm hperm
    rw [Connection.sum_load_of_replies hreplies] at hload
    have hserved : e.serving.length = before.length + after.length + 1 := by
      rw [hserving, List.length_append, List.length_cons, Nat.add_assoc]
    have hconnection : (e.conversation.apply handler (.reply r o)).connection =
        e.connection.finishRequest r o := rfl
    simp only [exchanged, load, connection, List.length_append] at hload hconnection ⊢
    rw [hconnection]
    omega
  | @write _ o a octets c hnext htake =>
    have hload := Connection.load_dequeue hnext
    have hconnection : (e.conversation.withConnection c).connection = c := rfl
    have hpositive : 2 ≤ o.frame.load := by
      rw [Frame.load]
      split <;> omega
    simp only [exchanged, load, connection, List.map_append, List.sum_append, List.map_cons,
      List.map_nil, List.sum_singleton] at hload ⊢
    rw [hconnection]
    omega
  | lose =>
    simp only [exchanged, load, connection, List.map_nil, List.sum_nil]
    omega

end Station

/-! ## Two ends -/

/-- Two ends of one wire. -/
abbrev Peers := Bool → Station

namespace Peers

/-- The octets of a frame are read in whatever chunks they come. -/
inductive Step (handlers : Bool → Bool) : Peers → Peers → Prop where
  | move (b : Bool) (s : Peers) {e : Station} (h : Station.Moves (handlers b) (s b) e) :
      Step handlers s (Function.update s b e)
  | read (b : Bool) (s : Peers) {sent got : Frame} {rest : List Frame} {chunks : List Bytes}
      {d : FrameReader.Drained} (hwire : (s !b).wire = sent :: rest)
      (hfits : sent.body.octets.length ≤ Frame.clampLimit (s b).limit)
      (hchunks : chunks.flatten = sent.header ++ sent.body.octets)
      (hread : FrameReader.readChunks (s b).connection.registry (.ofLimit (s b).limit) chunks =
        some d) (hgot : got ∈ d.frames) :
      Step handlers s (Function.update
        (Function.update s (!b) { s !b with wire := rest }) b ((s b).receive (handlers b) got))

def total (count : Station → Nat) (s : Peers) : Nat := count (s false) + count (s true)

theorem total_update (count : Station → Nat) (s : Peers) (b : Bool) (e : Station) :
    total count (Function.update s b e) + count (s b) = total count s + count e := by
  cases b with
  | false =>
    rw [total, total, Function.update_self, Function.update_of_ne (by decide)]
    omega
  | true =>
    rw [total, total, Function.update_self, Function.update_of_ne (by decide)]
    omega

theorem total_update_both (count : Station → Nat) (s : Peers) (b : Bool) (other e : Station) :
    total count (Function.update (Function.update s (!b) other) b e) +
        (count (s !b) + count (s b)) =
      total count s + (count other + count e) := by
  have hother := total_update count s (!b) other
  have he := total_update count (Function.update s (!b) other) b e
  rw [Function.update_of_ne (by cases b <;> decide)] at he
  omega

variable {handlers : Bool → Bool} {s s' : Peers}

/-- A frame is read as the request that it was written as, or as no request. -/
theorem isRequest_of_read {registry : Registry} {limit : Nat} {sent got : Frame}
    {chunks : List Bytes} {d : FrameReader.Drained}
    (hfits : sent.body.octets.length ≤ Frame.clampLimit limit)
    (hchunks : chunks.flatten = sent.header ++ sent.body.octets)
    (hread : FrameReader.readChunks registry (.ofLimit limit) chunks = some d)
    (hgot : got ∈ d.frames) : got.isRequest = sent.isRequest := by
  obtain ⟨d', g, hread', hframes, -, hfirst⟩ := Frame.readChunks_singleton registry hfits hchunks
  obtain rfl := Option.some.inj (hread'.symm.trans hread)
  rw [hframes, List.mem_singleton] at hgot
  rw [hgot]
  exact hfirst.isRequest

theorem Step.spent_le (h : Step handlers s s') :
    s'.total Station.exchanged + s'.total Station.load + 4 * s.total Station.submitted ≤
      s.total Station.exchanged + s.total Station.load + 4 * s'.total Station.submitted := by
  cases h with
  | @move b _ e hmove =>
    have hspent := hmove.spent_le
    have hexchanged := total_update Station.exchanged s b e
    have hload := total_update Station.load s b e
    have hsubmitted := total_update Station.submitted s b e
    omega
  | @read b _ sent got rest chunks d hwire hfits hchunks hread hgot =>
    generalize hother : ({ s !b with wire := rest } : Station) = other
    generalize hme : (s b).receive (handlers b) got = me
    have hexchanged := total_update_both Station.exchanged s b other me
    have hload := total_update_both Station.load s b other me
    have hsubmitted := total_update_both Station.submitted s b other me
    -- The other end has one frame less on the wire, and nothing else has changed there.
    obtain ⟨hlighter, hsame, hsame'⟩ : (s !b).load = other.load + (sent.load - 1) ∧
        other.exchanged = (s !b).exchanged ∧ other.submitted = (s !b).submitted := by
      rw [← hother]
      refine ⟨?_, rfl, rfl⟩
      simp only [Station.load, hwire, List.map_cons, List.sum_cons, Station.connection]
      omega
    have hreceive := (s b).load_receive_le (handlers b) got
    have hcost : (if got.isRequest then 2 else 0) + 1 ≤ sent.load - 1 := by
      rw [Frame.load, isRequest_of_read hfits hchunks hread hgot]
      split <;> omega
    have hreceived : me.exchanged = (s b).exchanged + 1 := hme ▸ rfl
    have hunsent : me.submitted = (s b).submitted := hme ▸ rfl
    rw [hme] at hreceive
    omega

/-- **What is exchanged is paid for** by what was under way and by what was sent since. -/
theorem exchanged_le (h : Relation.ReflTransGen (Step handlers) s s') :
    s'.total Station.exchanged + s'.total Station.load + 4 * s.total Station.submitted ≤
      s.total Station.exchanged + s.total Station.load + 4 * s'.total Station.submitted := by
  induction h with
  | refl => exact Nat.le_refl _
  | tail _ hstep ih =>
    have hspent := hstep.spent_le
    omega

end Peers

/-! ## The result -/

/-- **Frames go one way each, and nobody answers an answer.** -/
theorem Peers.never_amplifies :
    (∀ (c : Connection) (handler : Bool) (f : Frame), ∃ os, c.Routed handler f os) ∧
    (∀ (handler : Bool) (info : ConnectionInfo) (config : ConnectionConfig)
      (registry decoders : Registry) (processors : Nat) (dispatch : DispatchConfig) (e : Station),
      Relation.ReflTransGen (Station.Step handler)
        (.start info config registry decoders processors dispatch) e →
      e.reactions + e.serving.length ≤ e.received) ∧
    ∀ (handlers : Bool → Bool) (s s' : Peers), Relation.ReflTransGen (Step handlers) s s' →
      s'.total Station.submitted = s.total Station.submitted →
      s'.total Station.exchanged ≤ s.total Station.exchanged + s.total Station.load := by
  refine ⟨fun c handler f ↦ c.exists_routed handler f, ?_, ?_⟩
  · intro handler info config registry decoders processors dispatch e h
    exact Station.restrained_of_reachable h
  · intro handlers s s' h hsilent
    have hspent := exchanged_le h
    omega

/-- A probe is written and read, and so is its answer, and that is all its load. -/
theorem Peers.never_amplifies_probe : ∃ s s' : Peers,
    s.total Station.submitted = 1 ∧ s.total Station.exchanged = 0 ∧ s.total Station.load = 4 ∧
    Relation.ReflTransGen (Step fun _ ↦ false) s s' ∧
    s'.total Station.submitted = s.total Station.submitted ∧ s'.total Station.exchanged = 4 ∧
    s'.total Station.exchanged ≤ s.total Station.exchanged + s.total Station.load := by
  let e : Station :=
    .start ⟨"client", "peer", .client, 1⟩ .standard .standard .standard 1 .standard
  let s : Peers := Function.update (fun _ ↦ e) false
    { e with conversation := e.conversation.apply false .idle, submitted := 1 }
  let probe : Frame := .heartbeatRequest 1 2 (.detached [0xc0])
  let answer : Frame := .heartbeatResponse 1 2 (.detached [0xc0])
  let read (f : Frame) : Frame := { f with body := ⟨[0xc0], true⟩, timed := true }
  have hread : ∀ f ∈ [probe, answer], FrameReader.readChunks .standard (.ofLimit Frame.defaultLimit)
      [f.header ++ [0xc0]] = some ⟨[read f], none, .ofLimit Frame.defaultLimit⟩ := by
    decide +kernel
  have h₁ : Relation.ReflTransGen (Step fun _ ↦ false) s _ :=
    .single (.move false s (.write (s false) rfl rfl))
  have h₂ := h₁.tail (@Step.read _ true _ probe (read probe) [] [probe.header ++ [0xc0]] _ rfl
    (by decide) rfl (hread probe (by simp)) List.mem_cons_self)
  have h₃ := h₂.tail (.move true _ (.write _ rfl rfl))
  have h₄ := h₃.tail (@Step.read _ false _ answer (read answer) [] [answer.header ++ [0xc0]] _ rfl
    (by decide) rfl (hread answer (by simp)) List.mem_cons_self)
  exact ⟨s, _, rfl, rfl, rfl, h₄, rfl, rfl, Peers.never_amplifies.2.2 _ _ _ h₄ rfl⟩

end RpcTransport
