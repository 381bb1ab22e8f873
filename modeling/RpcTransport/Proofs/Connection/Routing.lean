import RpcTransport.Frame.Codec
import RpcTransport.Proofs.Connection.Answers
import RpcTransport.Proofs.Connection.Outbound

/-!
# One way for each frame

What a frame does to a connection depends on two of its flags. A heartbeat request is answered at
once, a request goes to the handler or is rejected, a response goes to the request that awaits it,
and a heartbeat response is done with; and no frame does more than one of these (`Routed`). So a
request makes the connection send one frame at the most, now or when its handler has finished, and
no other frame makes it send any.

None of this depends on how the connection got where it is: it holds of every state.
-/

namespace RpcTransport

/-- A frame as some reader gave it out. -/
def Frame.Decoded (f : Frame) : Prop :=
  ∃ (registry : Registry) (r r' : FrameReader), r.decode registry = (.ok (some f), r')

/-- The header has five bits for the serialization id. -/
theorem Frame.Decoded.masked_serialization {f : Frame} (h : f.Decoded) :
    f.serialization &&& 0x1f = f.serialization := by
  obtain ⟨registry, r, r', hdecode⟩ := h
  rw [FrameReader.decode] at hdecode
  split at hdecode
  · cases (Prod.mk.inj hdecode).1
  split at hdecode
  · cases (Prod.mk.inj hdecode).1
  split at hdecode
  · cases (Prod.mk.inj hdecode).1
  split at hdecode
  · cases (Prod.mk.inj hdecode).1
  · obtain rfl := Option.some.inj (Except.ok.inj (Prod.mk.inj hdecode).1)
    rw [Frame.ofOctets, Frame.ofParts, UInt8.and_assoc, UInt8.and_self]

namespace Connection

/-- What the handler is called with for a frame, if it is called. -/
def call? (c : Connection) (handler : Bool) (f : Frame) : Option InboundRequest :=
  if f.isHeartbeat = false ∧ f.isRequest = true ∧ handler = true ∧
      c.registry.contains f.serialization = true then
    some ⟨f.id, f.serialization, f.isEvent, f.twoWay, c.name, f.body⟩
  else none

/-- What a frame does, and what it leaves alone. The frames that are queued for it are `os`. -/
structure Routed (c : Connection) (handler : Bool) (f : Frame) (os : List Outbound) : Prop where
  unanswered_eq : (c.onFrame handler f).2.heartbeat.unanswered = 0
  table_eq : f.isHeartbeat = true ∨ f.isRequest = true → (c.onFrame handler f).2.table = c.table
  entries_eq : f.isHeartbeat = false → f.isRequest = false →
    (c.onFrame handler f).2.table.entries = c.table.entries.filter (·.id ≠ f.id)
  writeState_eq : ∀ n, (∀ p, c.table.find? f.id = some p → p.ticket ≠ n) →
    (c.onFrame handler f).2.table.writeState n = c.table.writeState n
  call_eq : (c.onFrame handler f).1 = c.call? handler f
  queue_eq : (c.onFrame handler f).2.queue = c.queue ++ os
  waiting_eq : (c.onFrame handler f).2.waiting = c.waiting
  /-- A request makes one call or one frame, and nothing else makes any. -/
  length_le : os.length + (c.call? handler f).toList.length ≤ if f.isRequest then 1 else 0
  answer : f.isHeartbeat = true → ∀ o ∈ os, o.frame.isHeartbeat = true ∧
    o.frame.isRequest = false ∧ o.frame.id = f.id ∧
      (f.Decoded → o.frame.serialization = f.serialization)
  rejection : f.isHeartbeat = false → ∀ o ∈ os, o.frame.isHeartbeat = false ∧
    o.frame.isRequest = false ∧ o.frame.id = f.id

variable {c : Connection} {handler : Bool} {f : Frame}

/-! ## Frames that are answered at once -/

theorem tryEnqueue_cases (c : Connection) (o : Outbound) :
    ∃ os, os.Sublist [o] ∧ (c.tryEnqueue o).2 = { c with queue := c.queue ++ os } := by
  rw [tryEnqueue]
  split
  · exact ⟨[o], .refl _, rfl⟩
  · refine ⟨[], List.nil_sublist _, ?_⟩
    rw [List.append_nil]

theorem onHeartbeat_cases (c : Connection) (f : Frame) :
    ∃ os, c.onHeartbeat f = { c.release f.body with queue := c.queue ++ os } ∧
      os.length ≤ (if f.isRequest then 1 else 0) ∧
        ∀ o ∈ os, Heartbeat.answer c.registry f = .ok o.frame := by
  have hnone : c.release f.body = { c.release f.body with queue := c.queue ++ [] } := by
    rw [List.append_nil]
    rfl
  rw [onHeartbeat]
  split
  · split
    · next reply hanswer =>
      obtain ⟨os, hos, heq⟩ := (c.release f.body).tryEnqueue_cases ⟨reply, .none⟩
      refine ⟨os, heq, hos.length_le, fun o ho ↦ ?_⟩
      rw [List.mem_singleton.mp (hos.subset ho)]
      exact hanswer
    · exact ⟨[], hnone, Nat.zero_le _, List.forall_mem_nil _⟩
  · exact ⟨[], hnone, Nat.zero_le _, List.forall_mem_nil _⟩

theorem rejectRequest_cases (c : Connection) (f : Frame) (e : HandlerError) :
    ∃ os, c.rejectRequest f e = { c.release f.body with queue := c.queue ++ os } ∧
      os.length ≤ 1 ∧ ∀ o ∈ os, o.frame = c.errorFrame f.id f.serialization e := by
  rw [rejectRequest]
  split
  · obtain ⟨os, hos, heq⟩ :=
      (c.release f.body).tryEnqueue_cases ⟨c.errorFrame f.id f.serialization e, .none⟩
    refine ⟨os, heq, hos.length_le, fun o ho ↦ ?_⟩
    rw [List.mem_singleton.mp (hos.subset ho)]
  · refine ⟨[], ?_, Nat.zero_le _, List.forall_mem_nil _⟩
    rw [List.append_nil]
    rfl

/-! ## The four ways -/

/-- The frame has come in, and the peer is alive. -/
private def arrived (c : Connection) : Connection :=
  { c with heartbeat := c.heartbeat.inbound, arena := c.arena.adoptOne }

private theorem onFrame_eq (c : Connection) (handler : Bool) (f : Frame) :
    c.onFrame handler f =
      if f.isHeartbeat then (none, c.arrived.onHeartbeat f)
      else if f.isRequest then c.arrived.onRequest handler f
      else (none, c.arrived.onResponse f) := rfl

theorem routed_heartbeat (hheartbeat : f.isHeartbeat = true) :
    ∃ os, Routed c handler f os := by
  obtain ⟨os, heq, hlength, hanswer⟩ := c.arrived.onHeartbeat_cases f
  have hframe : c.onFrame handler f =
      (none, { c.arrived.release f.body with queue := c.queue ++ os }) := by
    rw [onFrame_eq, if_pos hheartbeat, heq]
    rfl
  have hcall : c.call? handler f = none := by
    rw [call?, if_neg (by simp [hheartbeat])]
  refine ⟨os, ?_, ?_, ?_, ?_, ?_, ?_, ?_, ?_, ?_, ?_⟩
  · rw [hframe]
    rfl
  · intro _
    rw [hframe]
    rfl
  · intro hnot
    exact Bool.noConfusion (hheartbeat.symm.trans hnot)
  · intro n _
    rw [hframe]
    rfl
  · rw [hframe, hcall]
  · rw [hframe]
  · rw [hframe]
    rfl
  · rw [hcall]
    exact hlength
  · intro _ o ho
    have hok := hanswer o ho
    rw [Heartbeat.answer] at hok
    cases hnull : c.arrived.registry.nullOctets f.serialization with
    | error e =>
      rw [hnull] at hok
      cases hok
    | ok null =>
      rw [hnull] at hok
      rw [← Except.ok.inj hok]
      exact ⟨rfl, rfl, rfl, fun hdecoded ↦ hdecoded.masked_serialization⟩
  · intro hnot
    exact Bool.noConfusion (hheartbeat.symm.trans hnot)

theorem routed_request (hheartbeat : f.isHeartbeat = false) (hrequest : f.isRequest = true) :
    ∃ os, Routed c handler f os := by
  have hframe : c.onFrame handler f = c.arrived.onRequest handler f := by
    rw [onFrame_eq, hheartbeat, hrequest]
    rfl
  -- What is rejected is answered with a failure; what is not rejected is left to the handler.
  obtain ⟨os, heq, hlength, herror⟩ : ∃ os : List Outbound,
      c.onFrame handler f = (c.call? handler f,
        { (c.onFrame handler f).2 with
          heartbeat := ⟨0⟩, table := c.table, queue := c.queue ++ os, waiting := c.waiting }) ∧
      os.length + (c.call? handler f).toList.length ≤ 1 ∧
      ∀ o ∈ os, ∃ e, o.frame = c.arrived.errorFrame f.id f.serialization e := by
    rw [hframe, onRequest, call?]
    split
    · next hnone =>
      obtain ⟨os, heq, hlength, herror⟩ := c.arrived.rejectRequest_cases f
        (.server "no request handler on this endpoint")
      rw [if_neg (by simp [hnone]), heq]
      exact ⟨os, rfl, hlength, fun o ho ↦ ⟨_, herror o ho⟩⟩
    · next hsome =>
      split
      · next hunknown =>
        obtain ⟨os, heq, hlength, herror⟩ := c.arrived.rejectRequest_cases f
          (.badRequest s!"unsupported serialization id {f.serialization.toNat}")
        have hnot : c.registry.contains f.serialization = false := hunknown
        rw [if_neg (by simp [hnot]), heq]
        exact ⟨os, rfl, hlength, fun o ho ↦ ⟨_, herror o ho⟩⟩
      · next hknown =>
        have hcontains : c.registry.contains f.serialization = true :=
          Bool.not_eq_false _ ▸ hknown
        rw [if_pos ⟨hheartbeat, hrequest, by simpa using hsome, hcontains⟩]
        refine ⟨[], ?_, Nat.le_refl _, List.forall_mem_nil _⟩
        rw [List.append_nil]
        rfl
  refine ⟨os, ?_, ?_, ?_, ?_, ?_, ?_, ?_, ?_, ?_, ?_⟩
  · rw [heq]
  · intro _
    rw [heq]
  · intro _ hnot
    exact Bool.noConfusion (hrequest.symm.trans hnot)
  · intro n _
    rw [heq]
  · rw [heq]
  · rw [heq]
  · rw [heq]
  · rw [if_pos hrequest]
    exact hlength
  · intro hnot
    exact Bool.noConfusion (hnot.symm.trans hheartbeat)
  · intro _ o ho
    obtain ⟨e, he⟩ := herror o ho
    rw [he]
    exact ⟨rfl, rfl, rfl⟩

theorem routed_response (hheartbeat : f.isHeartbeat = false) (hrequest : f.isRequest = false) :
    Routed c handler f [] := by
  have hframe : c.onFrame handler f = (none, c.arrived.onResponse f) := by
    rw [onFrame_eq, hheartbeat, hrequest]
    rfl
  have hcall : c.call? handler f = none := by
    rw [call?, if_neg (by simp [hrequest])]
  -- The entry of the id is taken out, and of its request alone is the write noted.
  obtain ⟨hscene, hentries, hwrites⟩ : (c.arrived.onResponse f).scene = c.arrived.scene ∧
      (c.arrived.onResponse f).table.entries = c.table.entries.filter (·.id ≠ f.id) ∧
      ∀ n, (∀ p, c.table.find? f.id = some p → p.ticket ≠ n) →
        (c.arrived.onResponse f).table.writeState n = c.table.writeState n := by
    rw [onResponse]
    rcases c.table.take_cases f.id with ⟨hnone, htake⟩ | ⟨p, hfound, hid, htake⟩
    · rw [show c.arrived.table = c.table from rfl, htake]
      exact ⟨rfl, (congrArg (·.2.entries) htake).symm, fun n _ ↦ rfl⟩
    · rw [show c.arrived.table = c.table from rfl, htake]
      refine ⟨scene_dispatch _ _ _, ?_, fun n hn ↦ ?_⟩
      · rw [table_dispatch, ← hid]
        rfl
      · rw [table_dispatch]
        exact PendingTable.writeState_modify (hn p hfound).symm
  simp only [scene, outlet, Prod.mk.injEq] at hscene
  obtain ⟨⟨hqueue, hwaiting, -⟩, hheard, -⟩ := hscene
  refine ⟨?_, ?_, ?_, ?_, ?_, ?_, ?_, ?_, ?_, ?_⟩
  · rw [hframe, hheard]
    rfl
  · rintro (hnot | hnot)
    · exact Bool.noConfusion (hheartbeat.symm.trans hnot)
    · exact Bool.noConfusion (hrequest.symm.trans hnot)
  · intro _ _
    rw [hframe]
    exact hentries
  · rw [hframe]
    exact hwrites
  · rw [hframe, hcall]
  · rw [hframe, List.append_nil]
    exact hqueue
  · rw [hframe]
    exact hwaiting
  · rw [hcall]
    exact Nat.zero_le _
  · intro _
    exact List.forall_mem_nil _
  · intro _
    exact List.forall_mem_nil _

/-- **Every frame goes one way**, whatever the state of the connection. -/
theorem exists_routed (c : Connection) (handler : Bool) (f : Frame) :
    ∃ os, Routed c handler f os := by
  cases hheartbeat : f.isHeartbeat with
  | true => exact routed_heartbeat hheartbeat
  | false =>
    cases hrequest : f.isRequest with
    | true => exact routed_request hheartbeat hrequest
    | false => exact ⟨[], routed_response hheartbeat hrequest⟩

/-! ## What a handler adds -/

theorem enqueue_cases (c : Connection) (o : Outbound) :
    ∃ os, os.Sublist [o] ∧ (c.enqueue o).2.backlog.Perm (c.backlog ++ os) := by
  rw [enqueue]
  split
  · refine ⟨[], List.nil_sublist _, ?_⟩
    rw [List.append_nil]
  · split
    · refine ⟨[o], .refl _, ?_⟩
      rw [backlog, backlog, List.append_assoc, List.append_assoc]
      exact List.perm_append_comm.append_left _
    · refine ⟨[o], .refl _, ?_⟩
      rw [backlog, backlog, List.append_assoc]

/-- A handler that has finished makes one frame at the most, which is a response. -/
theorem finishRequest_cases (c : Connection) (r : InboundRequest) (o : HandlerOutcome) :
    ∃ os, (c.finishRequest r o).backlog.Perm (c.backlog ++ os) ∧ os.length ≤ 1 ∧
      ∀ p ∈ os, p.frame.isRequest = false := by
  rw [finishRequest]
  split
  · obtain ⟨os, hos, hperm⟩ := (c.release r.body).enqueue_cases ⟨c.replyFrame r o, .none⟩
    refine ⟨os, hperm, hos.length_le, fun p hp ↦ ?_⟩
    rw [List.mem_singleton.mp (hos.subset hp)]
    have hreply := (Reply.frame_spec c (.outcome r o)).1
    rw [Reply.frame, Frame.isReply, Bool.and_eq_true, Bool.not_eq_true'] at hreply
    exact hreply.1
  · refine ⟨[], ?_, Nat.zero_le _, List.forall_mem_nil _⟩
    rw [List.append_nil]
    rfl

theorem Routed.isRequest_eq_false {os : List Outbound} (h : Routed c handler f os) :
    ∀ o ∈ os, o.frame.isRequest = false := by
  intro o ho
  cases hheartbeat : f.isHeartbeat with
  | true => exact (h.answer hheartbeat o ho).2.1
  | false => exact (h.rejection hheartbeat o ho).2.1

theorem Routed.backlog_perm {os : List Outbound} (h : Routed c handler f os) :
    (c.onFrame handler f).2.backlog.Perm (c.backlog ++ os) := by
  rw [backlog, backlog, h.queue_eq, h.waiting_eq, List.append_assoc, List.append_assoc]
  exact List.perm_append_comm.append_left _

end Connection

end RpcTransport
