import RpcTransport.Proofs.Connection.Backlog
import RpcTransport.Proofs.Connection.Events

/-!
# What the writer is given

Whatever happens on a connection, the writer apart, it puts one frame behind the backlog at the
most, and who is to be told of the write of this frame depends on the event alone
(`Conversation.adds_apply`). A request is queued with a ticket that nobody has had before, and an
event or a one-way request with a new waiter. Nobody is told of a write meanwhile, and a request
that is written stays so (`Conversation.advances_apply`).
-/

namespace RpcTransport

namespace Connection

variable {c c' c'' : Connection} {a : Acknowledgement}

/-! ## One frame more -/

/-- All of a connection that writing depends on and changes, its requests apart. -/
def scene (c : Connection) :
    (List Outbound × List Outbound × Bool × Registry × ConnectionConfig) × Heartbeat ×
      List (Nat × WriteNotice) × Nat :=
  (c.outlet, c.heartbeat, c.notices, c.nextWaiter)

/-- At the most one frame is put behind the backlog, and it is acknowledged to `a`. -/
structure Adds (c c' : Connection) (a : Acknowledgement) : Prop where
  queues : Queues c c' [] ∨
    ∃ f : Frame, Queues c c' [⟨f, a⟩] ∧ ∀ w, a = .notify w → w < c'.nextWaiter
  heartbeat_eq : c'.heartbeat = c.heartbeat
  notices_eq : c'.notices = c.notices
  nextWaiter_le : c.nextWaiter ≤ c'.nextWaiter

theorem adds_of_scene (hc : c.Lined) (h : c'.scene = c.scene) : Adds c c' a := by
  simp only [scene, Prod.mk.injEq] at h
  obtain ⟨houtlet, hheartbeat, hnotices, hwaiter⟩ := h
  exact ⟨.inl (queues_of_outlet hc houtlet), hheartbeat, hnotices, Nat.le_of_eq hwaiter.symm⟩

theorem Adds.lined (h : Adds c c' a) : c'.Lined := by
  rcases h.queues with hqueues | ⟨f, hqueues, -⟩
  · exact hqueues.lined
  · exact hqueues.lined

theorem Adds.config_eq (h : Adds c c' a) : c'.config = c.config := by
  rcases h.queues with hqueues | ⟨f, hqueues, -⟩
  · exact hqueues.config_eq
  · exact hqueues.config_eq

theorem Adds.mem_backlog (h : Adds c c' a) {o : Outbound} (ho : o ∈ c'.backlog) :
    o ∈ c.backlog ∨ o.acknowledgement = a := by
  rcases h.queues with hqueues | ⟨f, hqueues, -⟩
  · rw [hqueues.backlog_eq, List.append_nil] at ho
    exact .inl ho
  · rw [hqueues.backlog_eq] at ho
    exact (List.mem_append.mp ho).imp_right fun ho ↦ by rw [List.mem_singleton.mp ho]

theorem Adds.of_scene (h : Adds c c' a) (hsame : c''.scene = c'.scene) : Adds c c'' a := by
  simp only [scene, Prod.mk.injEq] at hsame
  obtain ⟨houtlet, hheartbeat, hnotices, hwaiter⟩ := hsame
  refine ⟨?_, hheartbeat.trans h.heartbeat_eq, hnotices.trans h.notices_eq, ?_⟩
  · rw [hwaiter]
    exact h.queues.imp (·.of_outlet houtlet) fun ⟨f, hqueues, hlt⟩ ↦
      ⟨f, hqueues.of_outlet houtlet, hlt⟩
  · rw [hwaiter]
    exact h.nextWaiter_le

theorem Adds.trans_outlet (h : Adds c' c'' a) (hc : c.Lined) (houtlet : c'.outlet = c.outlet)
    (hheartbeat : c'.heartbeat = c.heartbeat) (hnotices : c'.notices = c.notices)
    (hle : c.nextWaiter ≤ c'.nextWaiter) : Adds c c'' a := by
  have hqueues := queues_of_outlet hc houtlet
  exact ⟨h.queues.imp hqueues.trans fun ⟨f, hadded, hlt⟩ ↦ ⟨f, hqueues.trans hadded, hlt⟩,
    h.heartbeat_eq.trans hheartbeat, h.notices_eq.trans hnotices,
    Nat.le_trans hle h.nextWaiter_le⟩

theorem Adds.trans_scene (h : Adds c' c'' a) (hc : c.Lined) (hsame : c'.scene = c.scene) :
    Adds c c'' a := by
  simp only [scene, Prod.mk.injEq] at hsame
  obtain ⟨houtlet, hheartbeat, hnotices, hwaiter⟩ := hsame
  exact h.trans_outlet hc houtlet hheartbeat hnotices (Nat.le_of_eq hwaiter.symm)

theorem Lined.of_scene (hc : c.Lined) (hsame : c'.scene = c.scene) : c'.Lined :=
  hc.of_outlet (congrArg (·.1) hsame)

/-- To take a frame changes nothing but the queue and the line before it. -/
theorem eq_of_dequeue {o : Outbound} (h : c.dequeue = some (o, c')) :
    c' = { c with queue := c'.queue, waiting := c'.waiting } := by
  rw [dequeue] at h
  split at h
  · cases h
  all_goals
    obtain ⟨-, rfl⟩ := Prod.mk.inj (Option.some.inj h)
    rfl

/-! ## Functions that queue a frame -/

private theorem none_ne_notify (w : Nat) : Acknowledgement.none ≠ .notify w := nofun

private theorem probe_ne_notify (w : Nat) : Acknowledgement.probe ≠ .notify w := nofun

theorem adds_enqueue (hc : c.Lined) (f : Frame) (ha : ∀ w, a = .notify w → w < c.nextWaiter) :
    Adds c (c.enqueue ⟨f, a⟩).2 a := by
  have hqueues := queues_enqueue hc ⟨f, a⟩
  have hrest : (c.enqueue ⟨f, a⟩).2.heartbeat = c.heartbeat ∧
      (c.enqueue ⟨f, a⟩).2.notices = c.notices ∧
        (c.enqueue ⟨f, a⟩).2.nextWaiter = c.nextWaiter := by
    rw [enqueue]
    split
    · exact ⟨rfl, rfl, rfl⟩
    · split <;> exact ⟨rfl, rfl, rfl⟩
  obtain ⟨hheartbeat, hnotices, hwaiter⟩ := hrest
  exact ⟨.inr ⟨f, hqueues, hwaiter ▸ ha⟩, hheartbeat, hnotices, Nat.le_of_eq hwaiter.symm⟩

theorem adds_tryEnqueue (hc : c.Lined) (f : Frame) (ha : ∀ w, a ≠ .notify w) :
    Adds c (c.tryEnqueue ⟨f, a⟩).2 a := by
  by_cases hroom : c.queue.length < c.capacity
  · have hqueues := queues_tryEnqueue_of_room hc hroom ⟨f, a⟩
    rw [tryEnqueue, if_pos ⟨hc.queueOpen_eq, hroom⟩] at hqueues ⊢
    exact ⟨.inr ⟨f, hqueues, fun w hw ↦ absurd hw (ha w)⟩, rfl, rfl, Nat.le_refl _⟩
  · rw [tryEnqueue, if_neg (fun h ↦ hroom h.2)]
    exact adds_of_scene hc rfl

theorem adds_onHeartbeat (hc : c.Lined) (f : Frame) : Adds c (c.onHeartbeat f) .none := by
  have hrelease : (c.release f.body).scene = c.scene := rfl
  rw [onHeartbeat]
  split
  · split
    · next reply _ =>
      have hadds := adds_tryEnqueue (hc.of_scene hrelease) reply none_ne_notify
      exact hadds.trans_scene hc hrelease
    · exact adds_of_scene hc rfl
  · exact adds_of_scene hc rfl

theorem adds_rejectRequest (hc : c.Lined) (f : Frame) (e : HandlerError) :
    Adds c (c.rejectRequest f e) .none := by
  have hrelease : (c.release f.body).scene = c.scene := rfl
  rw [rejectRequest]
  split
  · exact (adds_tryEnqueue (hc.of_scene hrelease) _ none_ne_notify).trans_scene hc hrelease
  · exact adds_of_scene hc rfl

theorem adds_onRequest (hc : c.Lined) (handler : Bool) (f : Frame) :
    Adds c (c.onRequest handler f).2 .none := by
  rw [onRequest]
  split
  · exact adds_rejectRequest hc f _
  · split
    · exact adds_rejectRequest hc f _
    · exact adds_of_scene hc rfl

theorem scene_dispatch (c : Connection) (completion : Completion) (f : Frame) :
    (c.dispatch completion f).scene = c.scene := by
  rw [dispatch]
  split
  dsimp only
  rw [apply_ite scene]
  exact ite_self _

theorem adds_onResponse (hc : c.Lined) (f : Frame) : Adds c (c.onResponse f) .none := by
  refine adds_of_scene hc ?_
  rw [onResponse]
  split
  · rfl
  · exact scene_dispatch _ _ _

/-- A frame resets the count of unanswered probes, and may be answered. -/
theorem adds_onFrame (hc : c.Lined) (handler : Bool) (f : Frame) :
    Adds { c with heartbeat := c.heartbeat.inbound } (c.onFrame handler f).2 .none := by
  have hcounted : Lined { c with heartbeat := c.heartbeat.inbound } := ⟨hc.queueOpen_eq, hc.full⟩
  have hlined : Lined { c with heartbeat := c.heartbeat.inbound, arena := c.arena.adoptOne } :=
    ⟨hc.queueOpen_eq, hc.full⟩
  have hframe : Adds { c with heartbeat := c.heartbeat.inbound, arena := c.arena.adoptOne }
      (c.onFrame handler f).2 .none := by
    rw [onFrame]
    split
    · exact adds_onHeartbeat hlined f
    · split
      · exact adds_onRequest hlined handler f
      · exact adds_onResponse hlined f
  exact hframe.trans_scene hcounted rfl

theorem adds_finishRequest (hc : c.Lined) (r : InboundRequest) (o : HandlerOutcome) :
    Adds c (c.finishRequest r o) .none := by
  have hrelease : (c.release r.body).scene = c.scene := rfl
  rw [finishRequest]
  split
  · have hnone (w : Nat) (hw : Acknowledgement.none = .notify w) : w < c.nextWaiter :=
      absurd hw (none_ne_notify w)
    exact (adds_enqueue (hc.of_scene hrelease) _ hnone).trans_scene hc hrelease
  · exact adds_of_scene hc rfl

theorem adds_send (hc : c.Lined) (s : Submission) :
    Adds c (c.send s) (.request s.id s.completion.ticket) := by
  have henqueue := adds_enqueue (a := .request s.id s.completion.ticket) hc
    (.request s.id c.config.serialization (.detached s.body)) nofun
  rcases c.send_cases s with hqueued | hfailed
  · rw [hqueued]
    exact henqueue
  · rw [hfailed]
    exact henqueue.of_scene rfl

theorem scene_arm (c : Connection) (s : Submission) (token : Nat) :
    (c.arm s token).scene = c.scene := by
  rw [arm]
  split <;> rfl

/-- A request is queued with its id and a ticket that nobody has had. -/
theorem adds_submit (hc : c.Lined) (kind : CompletionKind) (body : Bytes) (timeout : Option Nat) :
    Adds c (c.submit kind body timeout).2 (.request c.nextId c.table.writes.length) := by
  rw [submit]
  dsimp only
  split
  · exact adds_of_scene hc rfl
  · have hsame (token : Nat) : ((((c.begin kind body timeout).2.register
        (c.begin kind body timeout).1).schedule (c.begin kind body timeout).1).2.arm
          (c.begin kind body timeout).1 token).scene = c.scene := scene_arm _ _ _
    exact (adds_send (hc.of_scene (hsame _)) _).trans_scene hc (hsame _)

/-- A frame whose sender waits for its write is queued with a new waiter. -/
theorem adds_sendAcknowledged (hc : c.Lined) (f : Frame) :
    Adds c (c.sendAcknowledged f).2 (.notify c.nextWaiter) := by
  rcases c.sendAcknowledged_cases f with hsame | hqueued
  · rw [hsame]
    exact adds_of_scene hc rfl
  · have hwaiter : Lined { c with nextWaiter := c.nextWaiter + 1 } :=
      ⟨hc.queueOpen_eq, hc.full⟩
    have hlt (w : Nat) (hw : Acknowledgement.notify c.nextWaiter = .notify w) :
        w < c.nextWaiter + 1 := Acknowledgement.notify.inj hw ▸ Nat.lt_succ_self _
    rw [hqueued]
    exact (adds_enqueue hwaiter f hlt).trans_outlet hc rfl rfl rfl (Nat.le_succ _)

theorem adds_queueProbe (hc : c.Lined) : Adds c c.queueProbe.2 .probe := by
  have htake : c.takeId.2.scene = c.scene := rfl
  rcases c.queueProbe_cases with htaken | ⟨f, -, hqueued⟩
  · rw [htaken]
    exact adds_of_scene hc htake
  · rw [hqueued]
    exact (adds_tryEnqueue (hc.of_scene htake) f probe_ne_notify).trans_scene hc htake

theorem adds_onIdle (hc : c.Lined) : Adds c c.onIdle.2 .probe := by
  rw [onIdle]
  split
  · exact adds_of_scene hc rfl
  · exact adds_queueProbe hc

theorem scene_shutdown (c : Connection) (reason : TransportError) :
    (c.shutdown reason).scene = c.scene := by
  rw [shutdown, markClosed]
  cases c.closed <;> rfl

end Connection

/-! ## Write states -/

namespace PendingTable

variable {t t' : PendingTable}

/-- Write states go on to `written` at the most, and there may be more of them. -/
structure Advances (t t' : PendingTable) : Prop where
  length_le : t.writes.length ≤ t'.writes.length
  writeState_eq_or : ∀ n, t'.writeState n = t.writeState n ∨
    t'.writeState n = (t.writeState n).markWritten

theorem advances_of_writes (h : t'.writes = t.writes) : Advances t t' := by
  refine ⟨Nat.le_of_eq (congrArg List.length h).symm, fun n ↦ .inl ?_⟩
  rw [writeState, writeState, h]

theorem advances_issue (h : t'.writes = t.writes ++ [.initial]) : Advances t t' :=
  ⟨by simp [h], fun n ↦ .inl (writeState_append h n)⟩

theorem advances_markWritten (t : PendingTable) (n : Nat) : Advances t (t.markWritten n) :=
  ⟨Nat.le_of_eq (List.length_modify _ _ _).symm, fun m ↦
    writeState_modify_or t m n WriteState.markWritten⟩

end PendingTable

namespace Connection

open PendingTable (Advances)

variable {c c' : Connection}

theorem Keeps.advances (h : Keeps c c') : Advances c.table c'.table :=
  PendingTable.advances_of_writes (congrArg (·.writes) h.table_eq)

theorem advances_submit (hc : c.queueOpen = true) (kind : CompletionKind) (body : Bytes)
    (timeout : Option Nat) : Advances c.table (c.submit kind body timeout).2.table := by
  refine PendingTable.advances_issue ?_
  by_cases hclosed : c.closed = true
  · rw [(submit_of_closed hclosed kind body timeout).1]
    rfl
  · let begun := c.begin kind body timeout
    let scheduled := (begun.2.register begun.1).schedule begun.1
    have hsubmit : (c.submit kind body timeout).2 =
        (scheduled.2.arm begun.1 scheduled.1).send begun.1 := by
      rw [submit]
      exact congrArg Prod.snd (if_neg hclosed)
    have harm : (scheduled.2.arm begun.1 scheduled.1).table.writes = begun.2.table.writes ∧
        (scheduled.2.arm begun.1 scheduled.1).queueOpen = c.queueOpen := by
      rw [arm]
      split
      · next h => exact ⟨congrArg (·.2.writes) h.symm, rfl⟩
      · exact ⟨rfl, rfl⟩
    rw [hsubmit, (keeps_send (harm.2.trans hc) begun.1).table_eq, harm.1]
    rfl

theorem advances_onResponse (c : Connection) (f : Frame) :
    Advances c.table (c.onResponse f).table := by
  rw [onResponse]
  split
  · exact PendingTable.advances_of_writes rfl
  · next p t htake =>
    obtain rfl : (c.table.take f.id).2 = t := congrArg Prod.snd htake
    rw [table_dispatch]
    have hmarked := (c.table.take f.id).2.advances_markWritten p.ticket
    exact ⟨hmarked.length_le, hmarked.writeState_eq_or⟩

theorem advances_onFrame (c : Connection) (handler : Bool) (f : Frame) :
    Advances c.table (c.onFrame handler f).2.table := by
  let counted : Connection :=
    { c with heartbeat := c.heartbeat.inbound, arena := c.arena.adoptOne }
  rw [onFrame]
  split
  · exact (counted.keeps_onHeartbeat f).advances
  · split
    · exact (counted.keeps_onRequest handler f).advances
    · exact counted.advances_onResponse f

theorem advances_expire (c : Connection) (id : UInt64) :
    Advances c.table (c.expire id).table := by
  have hwrites : (c.table.expire id).2.writes = c.table.writes := by
    rw [PendingTable.expire]
    split
    · next h => exact congrArg (·.2.writes) h.symm
    · next h => exact congrArg (·.2.writes) h.symm
  exact PendingTable.advances_of_writes hwrites

theorem advances_shutdown (c : Connection) (reason : TransportError) :
    Advances c.table (c.shutdown reason).table := by
  cases hclosed : c.closed with
  | true => exact (shutdown_of_closed hclosed reason).advances
  | false =>
    rw [(shutdown_of_open hclosed reason).1]
    exact PendingTable.advances_of_writes (c.table.takeAll_rest c.table.ids).1

end Connection

/-! ## Events -/

namespace Event

/-- The event is none of the writer's. -/
def isOther : Event → Bool
  | .written _ | .writeFailed _ _ | .nextFrame | .stopWriter | .probeWritten => false
  | _ => true

/-- Who is to be told of the write of the frame that an event queues, if it queues one. -/
def acknowledgement (c : Connection) : Event → Acknowledgement
  | .submit id _ _ _ => .request id c.table.writes.length
  | .oneway _ | .event _ => .notify c.nextWaiter
  | .idle => .probe
  | _ => .none

theorem submitted?_of_acknowledgement {c : Connection} {e : Event} {id : UInt64} {n : Nat}
    (h : e.acknowledgement c = .request id n) :
    e.submitted? = some id ∧ n = c.table.writes.length := by
  cases e with
  | submit =>
    obtain ⟨rfl, rfl⟩ := Acknowledgement.request.inj h
    exact ⟨rfl, rfl⟩
  | _ => exact nomatch h

theorem waiter_of_acknowledgement {c : Connection} {e : Event} {w : Nat}
    (h : e.acknowledgement c = .notify w) : w = c.nextWaiter := by
  cases e with
  | oneway | event => exact (Acknowledgement.notify.inj h).symm
  | _ => exact nomatch h

/-- What an event makes of the count of unanswered probes. -/
def heartbeat (c : Connection) : Event → Heartbeat
  | .frame _ => c.heartbeat.inbound
  | _ => c.heartbeat

end Event

namespace Conversation

open Connection (Adds Lined)

variable {s : Conversation} {e : Event}

/-- **An event puts one frame behind the backlog at the most**, and tells nobody of a write. -/
theorem adds_apply (hs : s.connection.Lined) (handler : Bool) (he : e.isOther = true) :
    Adds { s.connection with heartbeat := e.heartbeat s.connection }
      (s.apply handler e).connection (e.acknowledgement s.connection) := by
  cases e with
  | submit id kind body timeout =>
    have hid : ({ s.connection with nextId := id } : Connection).scene = s.connection.scene := rfl
    exact (Connection.adds_submit (hs.of_scene hid) kind body timeout).trans_scene hs hid
  | frame f => exact Connection.adds_onFrame hs handler f
  | reply r o => exact Connection.adds_finishRequest hs r o
  | teardown reason => exact Connection.adds_of_scene hs (s.connection.scene_shutdown reason)
  | take =>
    refine Connection.adds_of_scene hs ?_
    rw [apply]
    cases s.connection.dispatcher.take <;> rfl
  | finish held =>
    refine Connection.adds_of_scene hs ?_
    rw [apply]
    cases s.connection.dispatcher.finish held <;> rfl
  | oneway body | event body =>
    have hid : s.connection.takeId.2.scene = s.connection.scene := rfl
    exact (Connection.adds_sendAcknowledged (hs.of_scene hid) _).trans_scene hs hid
  | idle => exact Connection.adds_onIdle hs
  | deadline id => exact Connection.adds_of_scene hs rfl
  | written | writeFailed | nextFrame | stopWriter | probeWritten => exact nomatch he

/-- **A request that is written stays so**, and none fails. -/
theorem advances_apply (hs : s.connection.queueOpen = true) (handler : Bool)
    (he : e.isOther = true) :
    PendingTable.Advances s.connection.table (s.apply handler e).connection.table := by
  cases e with
  | submit id kind body timeout =>
    exact Connection.advances_submit (c := { s.connection with nextId := id }) hs kind body timeout
  | frame f => exact s.connection.advances_onFrame handler f
  | reply r o => exact (s.connection.keeps_finishRequest r o).advances
  | deadline id => exact s.connection.advances_expire id
  | teardown reason => exact s.connection.advances_shutdown reason
  | oneway body | event body =>
    exact (Connection.keeps_sendAcknowledged s.connection.takeId.2 _).advances
  | idle => exact s.connection.keeps_onIdle.advances
  | take =>
    refine PendingTable.advances_of_writes ?_
    rw [apply]
    cases s.connection.dispatcher.take <;> rfl
  | finish held =>
    refine PendingTable.advances_of_writes ?_
    rw [apply]
    cases s.connection.dispatcher.finish held <;> rfl
  | written | writeFailed | nextFrame | stopWriter | probeWritten => exact nomatch he

end Conversation

end RpcTransport
