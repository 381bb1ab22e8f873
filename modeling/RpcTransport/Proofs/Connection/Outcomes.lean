import RpcTransport.Connection.Writer
import RpcTransport.Proofs.Connection.Backlog
import RpcTransport.Proofs.Connection.Custody

/-!
# What callers are told

A caller was told something, or will be told it by the worker that has its response: both count as
an outcome here, so that it does not matter whether a response is decoded where it arrived, or
later. Up to their order the outcomes of a connection change in two ways only: none changes
(`Connection.Keeps`), or the request that leaves the table gets one (`Connection.Resolves`).
-/

namespace RpcTransport

/-! ## One response -/

/-- What a response means to who waits for it: the frame as it is, or the result in its body, or
the error its status names. -/
def CompletionKind.answer (kind : CompletionKind) (registry : Registry) (f : Frame) : Resolution :=
  match kind with
  | .raw => .raw ⟨f.id, f.status, f.serialization, f.body⟩
  | .decoded | .listener =>
    match decodeResult registry f.status f.serialization f.body.octets with
    | .ok result => .response ⟨f.id, result⟩
    | .error e => .failed e

theorem Completion.decode_eq {c : Completion} (h : c.kind ≠ .raw) (registry : Registry)
    (f : Frame) : c.decode registry f = ⟨c.ticket, c.kind.answer registry f⟩ := by
  obtain ⟨kind, ticket⟩ := c
  cases kind with
  | raw => exact absurd rfl h
  | decoded | listener =>
    rw [decode, CompletionKind.answer]
    dsimp only
    cases decodeResult registry f.status f.serialization f.body.octets with
    | ok result => rfl
    | error e => rfl

namespace PendingTable

theorem contains_eq_false {t : PendingTable} {id : UInt64} (h : t.find? id = none) :
    t.contains id = false := by
  rw [contains, h]
  rfl

/-- Nothing is taken out of the table, or the request of this id. -/
theorem take_cases (t : PendingTable) (id : UInt64) :
    t.find? id = none ∧ t.take id = (none, t) ∨
      ∃ p, t.find? id = some p ∧ p.id = id ∧ t.take id = (some p, (t.take p.id).2) := by
  cases h : t.find? id with
  | none => exact .inl ⟨rfl, take_of_not_contains (contains_eq_false h)⟩
  | some p =>
    obtain rfl := id_of_find? h
    exact .inr ⟨p, rfl, rfl, Prod.ext h rfl⟩

end PendingTable

namespace Dispatcher

/-- What the workers will tell. -/
def outcomes (d : Dispatcher) : List Delivery := (d.queue ++ d.running).map d.decode

theorem registry_submit (d : Dispatcher) (c : Completion) (f : Frame) :
    (d.submit c f).2.registry = d.registry := by
  rw [submit]
  split
  · rfl
  · split
    · rfl
    · rfl

/-- A response is an outcome, delivered now or by a worker. -/
theorem outcomes_submit (d : Dispatcher) (c : Completion) (f : Frame) :
    ((d.submit c f).1.toList ++ (d.submit c f).2.outcomes).Perm
      (⟨c.ticket, c.kind.answer d.registry f⟩ :: d.outcomes) := by
  by_cases hraw : c.kind = .raw
  · have hanswer : c.handOver f = ⟨c.ticket, c.kind.answer d.registry f⟩ := by
      rw [hraw]
      rfl
    rw [submit, hraw]
    exact .of_eq (congrArg (· :: d.outcomes) (hraw ▸ hanswer))
  · have hanswer : d.decode ⟨c, f⟩ = ⟨c.ticket, c.kind.answer d.registry f⟩ :=
      Completion.decode_eq hraw d.registry f
    rw [submit, ← hanswer]
    split
    · next h => exact absurd h hraw
    · split
      · have hmiddle : (d.queue ++ [DecodeJob.mk c f] ++ d.running).Perm
            (⟨c, f⟩ :: (d.queue ++ d.running)) := by
          rw [List.append_assoc]
          exact List.perm_middle
        exact hmiddle.map d.decode
      · exact .refl _

theorem registry_take {d d' : Dispatcher} (h : d.take = some d') : d'.registry = d.registry := by
  rw [take] at h
  split at h
  · cases h
  · split at h
    · obtain rfl := Option.some.inj h
      rfl
    · cases h

theorem outcomes_take {d d' : Dispatcher} (h : d.take = some d') :
    d'.outcomes.Perm d.outcomes := by
  rw [take] at h
  split at h
  · cases h
  · next job jobs hqueue =>
    split at h
    · obtain rfl := Option.some.inj h
      have hperm : (jobs ++ (d.running ++ [job])).Perm (d.queue ++ d.running) := by
        rw [hqueue, ← List.append_assoc]
        exact List.perm_append_singleton job _
      exact hperm.map d.decode
    · cases h

/-- What a worker has finished it no longer has to tell. -/
theorem outcomes_finish {held : DecodeJob → Bool} {d d' : Dispatcher} {job : DecodeJob}
    (h : d.finish held = some (job, d')) :
    d'.registry = d.registry ∧ (d.decode job :: d'.outcomes).Perm d.outcomes := by
  rw [finish, List.span_eq_takeWhile_dropWhile] at h
  have hrunning := List.takeWhile_append_dropWhile (p := held) (l := d.running)
  generalize d.running.takeWhile held = before at h hrunning
  generalize d.running.dropWhile held = rest at h hrunning
  cases rest with
  | nil => cases h
  | cons first after =>
    obtain ⟨rfl, rfl⟩ := Prod.mk.inj (Option.some.inj h)
    -- The job is taken from amid the others.
    have hperm : (d.queue ++ d.running).Perm (first :: (d.queue ++ (before ++ after))) := by
      rw [← hrunning, ← List.append_assoc, ← List.append_assoc]
      exact List.perm_middle
    exact ⟨rfl, (hperm.map d.decode).symm⟩

end Dispatcher

namespace Connection

/-! ## Outcomes -/

/-- What callers were told, and what the workers will tell them. -/
def outcomes (c : Connection) : List Delivery := c.deliveries ++ c.dispatcher.outcomes

/-- What the caller of a ticket was told, or will be by a worker. -/
def toldTo (c : Connection) (ticket : Nat) : List Resolution :=
  c.outcomes.filterMap fun d ↦ if d.ticket = ticket then some d.resolution else none

theorem outcomes_deliver (c : Connection) (ds : List Delivery) :
    (c.deliver ds).outcomes.Perm (c.outcomes ++ ds) := by
  change (c.deliveries ++ ds ++ c.dispatcher.outcomes).Perm _
  rw [outcomes, List.append_assoc, List.append_assoc]
  exact List.perm_append_comm.append_left _

/-- What a connection is and at, its requests apart. -/
structure Standing where
  name : String
  peer : String
  decoders : Registry
  requestTimeout : Nat
  closed : Bool
  closeReason : Option TransportError
  cancelled : Bool
  queueOpen : Bool

/-- What does not change. -/
def Standing.fixed (s : Standing) : String × String × Registry × Nat :=
  (s.name, s.peer, s.decoders, s.requestTimeout)

def standing (c : Connection) : Standing where
  name := c.name
  peer := c.peer
  decoders := c.dispatcher.registry
  requestTimeout := c.config.requestTimeout
  closed := c.closed
  closeReason := c.closeReason
  cancelled := c.cancelled
  queueOpen := c.queueOpen

/-- Nothing happens to requests. -/
structure Keeps (c c' : Connection) : Prop where
  table_eq : c'.table = c.table
  outcomes_perm : c'.outcomes.Perm c.outcomes
  standing_eq : c'.standing = c.standing

namespace Keeps

variable {c c' c'' : Connection}

theorem refl (c : Connection) : Keeps c c := ⟨rfl, .refl _, rfl⟩

theorem trans (h : Keeps c c') (h' : Keeps c' c'') : Keeps c c'' :=
  ⟨h'.table_eq.trans h.table_eq, h'.outcomes_perm.trans h.outcomes_perm,
    h'.standing_eq.trans h.standing_eq⟩

end Keeps

theorem keeps_enqueue (c : Connection) (o : Outbound) : Keeps c (c.enqueue o).2 := by
  rw [enqueue]
  split
  · exact .refl c
  · split
    · exact ⟨rfl, .refl _, rfl⟩
    · exact ⟨rfl, .refl _, rfl⟩

theorem keeps_tryEnqueue (c : Connection) (o : Outbound) : Keeps c (c.tryEnqueue o).2 := by
  rw [tryEnqueue]
  split
  · exact ⟨rfl, .refl _, rfl⟩
  · exact .refl c

theorem keeps_release (c : Connection) (b : Body) : Keeps c (c.release b) := ⟨rfl, .refl _, rfl⟩

theorem keeps_onHeartbeat (c : Connection) (f : Frame) : Keeps c (c.onHeartbeat f) := by
  have hrelease := c.keeps_release f.body
  rw [onHeartbeat]
  split
  · split
    · exact hrelease.trans (keeps_tryEnqueue _ _)
    · exact hrelease
  · exact hrelease

theorem keeps_rejectRequest (c : Connection) (f : Frame) (e : HandlerError) :
    Keeps c (c.rejectRequest f e) := by
  have hrelease := c.keeps_release f.body
  rw [rejectRequest]
  split
  · exact hrelease.trans (keeps_tryEnqueue _ _)
  · exact hrelease

theorem keeps_onRequest (c : Connection) (handler : Bool) (f : Frame) :
    Keeps c (c.onRequest handler f).2 := by
  rw [onRequest]
  split
  · exact c.keeps_rejectRequest f _
  · split
    · exact c.keeps_rejectRequest f _
    · exact .refl c

theorem keeps_finishRequest (c : Connection) (r : InboundRequest) (o : HandlerOutcome) :
    Keeps c (c.finishRequest r o) := by
  have hrelease := c.keeps_release r.body
  rw [finishRequest]
  split
  · exact hrelease.trans (keeps_enqueue _ _)
  · exact hrelease

theorem keeps_sendAcknowledged (c : Connection) (f : Frame) :
    Keeps c (c.sendAcknowledged f).2 := by
  rcases c.sendAcknowledged_cases f with hsame | hqueued
  · rw [hsame]
    exact .refl c
  · have hwaiter : Keeps c { c with nextWaiter := c.nextWaiter + 1 } := ⟨rfl, .refl _, rfl⟩
    rw [hqueued]
    exact hwaiter.trans (keeps_enqueue _ _)

theorem keeps_onIdle (c : Connection) : Keeps c c.onIdle.2 := by
  have htake : Keeps c c.takeId.2 := ⟨rfl, .refl _, rfl⟩
  rcases c.onIdle_cases with hsame | htaken | ⟨f, -, hqueued⟩
  · rw [hsame]
    exact .refl c
  · rw [htaken]
    exact htake
  · rw [hqueued]
    exact htake.trans (keeps_tryEnqueue _ _)

theorem keeps_dequeue {c c' : Connection} {o : Outbound} (h : c.dequeue = some (o, c')) :
    Keeps c c' := by
  rw [dequeue] at h
  split at h
  · cases h
  · obtain ⟨-, rfl⟩ := Prod.mk.inj (Option.some.inj h)
    exact ⟨rfl, .refl _, rfl⟩
  · obtain ⟨-, rfl⟩ := Prod.mk.inj (Option.some.inj h)
    exact ⟨rfl, .refl _, rfl⟩

theorem keeps_take {c : Connection} {d : Dispatcher} (h : c.dispatcher.take = some d) :
    Keeps c { c with dispatcher := d } := by
  refine ⟨rfl, (Dispatcher.outcomes_take h).append_left _, ?_⟩
  simp only [standing, Dispatcher.registry_take h]
  rfl

/-- A worker that has finished tells what it was to tell. -/
theorem keeps_finish {held : DecodeJob → Bool} {c : Connection} {job : DecodeJob} {d : Dispatcher}
    (h : c.dispatcher.finish held = some (job, d)) :
    Keeps c ({ c with dispatcher := d }.finishDecoding job) := by
  obtain ⟨hregistry, hperm⟩ := Dispatcher.outcomes_finish h
  have hjob : d.decode job = c.dispatcher.decode job := by
    rw [Dispatcher.decode, Dispatcher.decode, hregistry]
  refine ⟨rfl, ?_, ?_⟩
  · change (c.deliveries ++ [d.decode job] ++ d.outcomes).Perm _
    rw [hjob, List.append_assoc]
    exact hperm.append_left _
  · simp only [standing, finishDecoding, release, deliver, hregistry]
    rfl

/-! ## Resolutions -/

/-- A request leaves the table, and has its outcome. -/
structure Resolves (c c' : Connection) (p : Pending) (r : Resolution) : Prop where
  found : c.table.find? p.id = some p
  entries_eq : c'.table.entries = c.table.entries.filter (·.id ≠ p.id)
  length_writes : c'.table.writes.length = c.table.writes.length
  writeState_eq : ∀ t, t ≠ p.ticket → c'.table.writeState t = c.table.writeState t
  outcomes_perm : c'.outcomes.Perm (c.outcomes ++ [⟨p.ticket, r⟩])
  standing_eq : c'.standing = c.standing

/-- A request is taken out of the table, and its caller is told. -/
theorem resolves_take {c : Connection} {p : Pending} (h : c.table.find? p.id = some p)
    {t : PendingTable} (hentries : t.entries = (c.table.take p.id).2.entries)
    (hlength : t.writes.length = c.table.writes.length)
    (hwrites : ∀ n, n ≠ p.ticket → t.writeState n = c.table.writeState n)
    (hname : t.connection = c.table.connection) (hpeer : t.peer = c.table.peer)
    (e : TransportError) :
    Resolves c ({ c with table := t }.deliver [p.completion.fail e]) p (.failed e) where
  found := h
  entries_eq := hentries
  length_writes := hlength
  writeState_eq := hwrites
  outcomes_perm := outcomes_deliver { c with table := t } _
  standing_eq := by
    simp only [standing, name, peer, deliver, hname, hpeer]

/-- A deadline passes. -/
theorem expire_cases (c : Connection) (id : UInt64) :
    c.table.find? id = none ∧ c.expire id = c ∨
      ∃ p, c.table.find? id = some p ∧ p.id = id ∧
        Resolves c (c.expire id) p (.failed (c.table.timeoutError p)) := by
  rcases c.table.take_cases id with ⟨hnone, htake⟩ | ⟨p, hfound, rfl, htake⟩
  · refine .inl ⟨hnone, ?_⟩
    rw [expire, PendingTable.expire, htake]
    simp [deliver]
  · refine .inr ⟨p, hfound, rfl, ?_⟩
    rw [expire, PendingTable.expire, htake]
    exact resolves_take hfound rfl rfl (fun _ _ ↦ rfl) rfl rfl _

/-- The write of a request fails. -/
theorem failWrite_cases (c : Connection) (id : UInt64) (reason : String) :
    c.table.find? id = none ∧ c.failWrite id reason = c ∨
      ∃ p, c.table.find? id = some p ∧ p.id = id ∧
        Resolves c (c.failWrite id reason) p
          (.failed (.connectFailed c.peer s!"write of request {id.toNat} failed: {reason}")) := by
  rcases c.table.take_cases id with ⟨hnone, htake⟩ | ⟨p, hfound, rfl, htake⟩
  · refine .inl ⟨hnone, ?_⟩
    rw [failWrite, PendingTable.failWrite, htake]
    simp [deliver]
  · refine .inr ⟨p, hfound, rfl, ?_⟩
    rw [failWrite, PendingTable.failWrite, htake]
    refine resolves_take (t := (c.table.take p.id).2.markFailed p.ticket reason) hfound rfl
      (List.length_modify _ _ _) (fun n hn ↦ ?_) rfl rfl _
    exact PendingTable.writeState_modify hn

theorem outcomes_dispatch (c : Connection) (completion : Completion) (f : Frame) :
    (c.dispatch completion f).outcomes.Perm
      (c.outcomes ++ [⟨completion.ticket, completion.kind.answer c.dispatcher.registry f⟩]) := by
  have houtcomes : (c.dispatch completion f).outcomes =
      c.deliveries ++ ((c.dispatcher.submit completion f).1.toList ++
        (c.dispatcher.submit completion f).2.outcomes) := by
    rw [dispatch]
    split
    rename_i d dispatcher h
    rw [apply_ite outcomes, h, ← List.append_assoc]
    exact ite_self _
  rw [houtcomes, outcomes, List.append_assoc]
  exact ((c.dispatcher.outcomes_submit completion f).trans
    (List.perm_append_singleton _ _).symm).append_left _

theorem standing_dispatch (c : Connection) (completion : Completion) (f : Frame) :
    (c.dispatch completion f).standing = c.standing := by
  have hregistry := c.dispatcher.registry_submit completion f
  rw [dispatch]
  split
  rename_i d dispatcher h
  rw [h] at hregistry
  dsimp only at hregistry
  rw [apply_ite standing]
  simp only [standing, release, deliver, name, peer, hregistry, ite_self]

/-- A response comes in. -/
theorem onResponse_cases (c : Connection) (f : Frame) :
    c.table.find? f.id = none ∧ Keeps c (c.onResponse f) ∨
      ∃ p, c.table.find? f.id = some p ∧ p.id = f.id ∧
        Resolves c (c.onResponse f) p (p.completion.kind.answer c.dispatcher.registry f) := by
  rcases c.table.take_cases f.id with ⟨hnone, htake⟩ | ⟨p, hfound, hid, htake⟩
  · refine .inl ⟨hnone, ?_⟩
    rw [onResponse, htake]
    exact c.keeps_release f.body
  · refine .inr ⟨p, hfound, hid, ?_⟩
    rw [onResponse, htake]
    dsimp only
    constructor
    · rw [hid]
      exact hfound
    · rw [table_dispatch]
      rfl
    · rw [table_dispatch]
      exact List.length_modify _ _ _
    · intro n hn
      rw [table_dispatch]
      exact PendingTable.writeState_modify hn
    · exact outcomes_dispatch _ _ _
    · rw [standing_dispatch]
      rfl

/-! ## The end -/

/-- The first shutdown fails what is pending, and a later one does nothing. -/
theorem shutdown_of_closed {c : Connection} (h : c.closed = true) (reason : TransportError) :
    Keeps c (c.shutdown reason) := by
  rw [shutdown, markClosed, h]
  refine ⟨rfl, .refl _, ?_⟩
  simp only [standing, Bool.not_true]
  rw [h]
  rfl

theorem shutdown_of_open {c : Connection} (h : c.closed = false) (reason : TransportError) :
    (c.shutdown reason).table = c.table.drain.2 ∧
    (c.shutdown reason).outcomes.Perm
      (c.outcomes ++ c.table.drain.1.map fun p ↦ p.completion.fail reason) ∧
    (c.shutdown reason).standing = { c.standing with
      closed := true, closeReason := some (c.closeReason.getD reason), cancelled := true } := by
  rw [shutdown, markClosed, h]
  obtain ⟨-, hname, hpeer⟩ := c.table.takeAll_rest c.table.ids
  refine ⟨rfl, outcomes_deliver _ _, ?_⟩
  simp only [standing, failPending, setReason, cancel, deliver, name, peer, PendingTable.failAll,
    PendingTable.drain, hname, hpeer, Bool.not_false]

theorem keeps_dropOutbound (c : Connection) (a : Acknowledgement) : Keeps c (c.dropOutbound a) := by
  cases a with
  | notify => exact ⟨rfl, .refl _, rfl⟩
  | none | request | probe => exact .refl c

theorem keeps_dismiss {c : Connection} (h : c.table.entries = []) (a : Acknowledgement) :
    Keeps c (c.dismiss a) := by
  cases a with
  | request id ticket =>
    rcases c.failWrite_cases id "connection writer stopped" with ⟨-, hsame⟩ | ⟨p, hfound, -⟩
    · rw [dismiss, hsame]
      exact .refl c
    · rw [PendingTable.find?, h] at hfound
      cases hfound
  | none => exact c.keeps_dropOutbound .none
  | probe => exact c.keeps_dropOutbound .probe
  | notify waiter => exact c.keeps_dropOutbound (.notify waiter)

/-- Once nothing is pending, the end of the writer is of no account to requests. -/
theorem closeQueue_of_empty {c : Connection} (h : c.table.entries = []) :
    c.closeQueue.table = c.table ∧ c.closeQueue.outcomes.Perm c.outcomes ∧
      c.closeQueue.standing = { c.standing with queueOpen := false } := by
  have hdrop (as : List Acknowledgement) (c : Connection) : Keeps c (as.foldl dropOutbound c) := by
    induction as generalizing c with
    | nil => exact .refl c
    | cons a as ih => exact (c.keeps_dropOutbound a).trans (ih _)
  -- Senders in line are failed by their ids, and this is of no account as the table stays empty.
  have hdismiss (as : List Acknowledgement) (c : Connection) (h : c.table.entries = []) :
      Keeps c (as.foldl dismiss c) := by
    induction as generalizing c with
    | nil => exact .refl c
    | cons a as ih =>
      have hfirst := keeps_dismiss h a
      exact hfirst.trans (ih _ (hfirst.table_eq ▸ h))
  have hdropped := hdrop (c.queue.map (·.acknowledgement))
    { c with queueOpen := false, queue := [], waiting := [] }
  have hempty := (congrArg PendingTable.entries hdropped.table_eq).trans h
  have hclosed := hdropped.trans (hdismiss (c.waiting.map (·.acknowledgement)) _ hempty)
  exact ⟨hclosed.table_eq, hclosed.outcomes_perm, hclosed.standing_eq⟩

/-! ## A new request -/

/-- On a closed connection a request is refused. -/
theorem submit_of_closed {c : Connection} (h : c.closed = true) (kind : CompletionKind)
    (body : Bytes) (timeout : Option Nat) :
    (c.submit kind body timeout).2.table = c.table.issue.2 ∧
    (c.submit kind body timeout).2.outcomes.Perm
      (c.outcomes ++ [⟨c.table.writes.length, .failed c.inactiveError⟩]) ∧
    (c.submit kind body timeout).2.standing = c.standing := by
  rw [submit, begin]
  dsimp only [takeId, PendingTable.issue]
  rw [if_pos h]
  exact ⟨rfl, outcomes_deliver _ _, rfl⟩

theorem register_of_new {c : Connection} {r : Submission} (h : c.table.contains r.id = false) :
    c.register r = { c with table := { c.table with
      entries := c.table.entries ++ [⟨r.id, r.completion, r.timeout, none⟩] } } := by
  rw [register, PendingTable.insert_of_not_contains h]
  simp [deliver]

theorem arm_of_new {c : Connection} {r : Submission} {t : PendingTable}
    (ht : c.table = { t with entries := t.entries ++ [⟨r.id, r.completion, r.timeout, none⟩] })
    (h : t.find? r.id = none) (token : Nat) :
    c.arm r token = { c with table := { t with
      entries := t.entries ++ [⟨r.id, r.completion, r.timeout, some token⟩] } } := by
  have htimer := PendingTable.setTimer_append (p := ⟨r.id, r.completion, r.timeout, none⟩) h token
  rw [arm, ht, htimer]

/-- The frame of a request finds the queue open. -/
theorem keeps_send {c : Connection} (h : c.queueOpen = true) (r : Submission) :
    Keeps c (c.send r) := by
  have henqueue := c.keeps_enqueue
    ⟨.request r.id c.config.serialization (.detached r.body), .request r.id r.completion.ticket⟩
  rw [send]
  split
  · next c' heq =>
    rw [heq] at henqueue
    exact henqueue
  · next c' heq =>
    rw [enqueue, if_neg (by simp [h])] at heq
    split at heq
    · cases heq
    · cases heq

/-- On an open connection a request enters the table, under an id that is not pending. -/
theorem submit_of_open {c : Connection} (h : c.closed = false) (hqueue : c.queueOpen = true)
    (hid : c.table.find? c.nextId = none) (kind : CompletionKind) (body : Bytes)
    (timeout : Option Nat) :
    (∃ token, (c.submit kind body timeout).2.table = { c.table.issue.2 with
      entries := c.table.entries ++ [⟨c.nextId, ⟨kind, c.table.writes.length⟩,
        timeout.getD c.config.requestTimeout, some token⟩] }) ∧
    (c.submit kind body timeout).2.outcomes.Perm c.outcomes ∧
    (c.submit kind body timeout).2.standing = c.standing := by
  -- The connection after each of the four steps; the last of them does not touch the table.
  let begun := c.begin kind body timeout
  have hregister := register_of_new (c := begun.2) (r := begun.1)
    (PendingTable.contains_eq_false hid)
  let scheduled := (begun.2.register begun.1).schedule begun.1
  have harm := arm_of_new (c := scheduled.2) (r := begun.1) (t := begun.2.table)
    (congrArg table hregister) hid scheduled.1
  have hqueued : (scheduled.2.arm begun.1 scheduled.1).queueOpen = true := by
    rw [harm]
    exact (congrArg queueOpen hregister).trans hqueue
  have hsend := keeps_send hqueued begun.1
  have hsubmit : (c.submit kind body timeout).2 =
      (scheduled.2.arm begun.1 scheduled.1).send begun.1 := by
    rw [submit]
    exact congrArg Prod.snd (if_neg (Bool.eq_false_iff.mp h))
  rw [hsubmit]
  refine ⟨⟨scheduled.1, ?_⟩, ?_, ?_⟩
  · rw [hsend.table_eq, harm]
    rfl
  · refine hsend.outcomes_perm.trans (.of_eq ?_)
    rw [harm]
    exact (congrArg outcomes hregister :)
  · rw [hsend.standing_eq, harm]
    exact (congrArg standing hregister :)

end Connection

end RpcTransport
